import MathLint.Comparison
import MathLint.Proofs.Lint.Basic
import MathLint.Proofs.Xml.Scan

/-!
# Comparisons

A comparison of two reports deals out their codes: those of one report only, those of the other
only, and those of both, each once and in the order in which they first occur.

* `Comparison.mem_onlyFirst`, `Comparison.mem_onlySecond`, `Comparison.mem_shared`: where a code is
  put.
* `Comparison.ofReports_swap`: the comparison the other way round.
* `compareSources_eq_ok_iff`: a comparison is made exactly if both reports are.
* `compareSources_partition`: all of it for every comparison.
-/

namespace MathLint

namespace Comparison

variable {a b : Report} {code : String}

theorem mem_onlyFirst :
    code ∈ (ofReports a b).onlyFirst ↔ code ∈ a.codes ∧ code ∉ b.codes := by
  simp [ofReports, mem_distinct]

theorem mem_shared : code ∈ (ofReports a b).shared ↔ code ∈ a.codes ∧ code ∈ b.codes := by
  simp [ofReports, mem_distinct]

/-- What is only in the second report is what is only in the first one the other way round. -/
theorem ofReports_swap (a b : Report) : (ofReports a b).onlySecond = (ofReports b a).onlyFirst :=
  rfl

theorem mem_onlySecond :
    code ∈ (ofReports a b).onlySecond ↔ code ∈ b.codes ∧ code ∉ a.codes := by
  rw [ofReports_swap, mem_onlyFirst]

/-! ## Order -/

/-- Codes in the order in which they first occur in a report. -/
def InOrderOf (r : Report) (codes : List String) : Prop :=
  codes.Pairwise fun x y => r.codes.idxOf x < r.codes.idxOf y

theorem InOrderOf.nodup {r : Report} {codes : List String} (h : InOrderOf r codes) :
    codes.Nodup := by
  refine List.Pairwise.imp (fun {x y} hlt he => ?_) h
  rw [he] at hlt
  exact Nat.lt_irrefl _ hlt

/-- A choice among the codes of a report is in their order. -/
theorem inOrderOf_filter (r : Report) (p : String → Bool) :
    InOrderOf r ((distinct r.codes).filter p) :=
  (pairwise_idxOf_distinct r.codes).sublist List.filter_sublist

theorem inOrderOf_onlyFirst (a b : Report) : InOrderOf a (ofReports a b).onlyFirst :=
  inOrderOf_filter a _

theorem inOrderOf_onlySecond (a b : Report) : InOrderOf b (ofReports a b).onlySecond :=
  inOrderOf_filter b _

theorem inOrderOf_shared (a b : Report) : InOrderOf a (ofReports a b).shared :=
  inOrderOf_filter a _

/-! ## Parts -/

/-- A code of a report is either in it only or shared. -/
theorem mem_codes_iff_first :
    code ∈ a.codes ↔ code ∈ (ofReports a b).onlyFirst ∨ code ∈ (ofReports a b).shared := by
  rw [mem_onlyFirst, mem_shared, ← and_or_left, and_iff_left (Decidable.em _).symm]

theorem mem_codes_iff_second :
    code ∈ b.codes ↔ code ∈ (ofReports a b).onlySecond ∨ code ∈ (ofReports a b).shared := by
  rw [ofReports_swap, mem_codes_iff_first (b := a), mem_shared, mem_shared, and_comm]

theorem disjoint_onlyFirst_shared (a b : Report) :
    (ofReports a b).onlyFirst.Disjoint (ofReports a b).shared :=
  fun _ hfirst hshared => (mem_onlyFirst.mp hfirst).2 (mem_shared.mp hshared).2

theorem disjoint_onlySecond_shared (a b : Report) :
    (ofReports a b).onlySecond.Disjoint (ofReports a b).shared :=
  fun _ hsecond hshared => (mem_onlySecond.mp hsecond).2 (mem_shared.mp hshared).1

theorem disjoint_onlyFirst_onlySecond (a b : Report) :
    (ofReports a b).onlyFirst.Disjoint (ofReports a b).onlySecond :=
  fun _ hfirst hsecond => (mem_onlyFirst.mp hfirst).2 (mem_onlySecond.mp hsecond).1

theorem onlyFirst_self (a : Report) : (ofReports a a).onlyFirst = [] :=
  List.eq_nil_iff_forall_not_mem.mpr fun _ h => (mem_onlyFirst.mp h).2 (mem_onlyFirst.mp h).1

end Comparison

open Comparison

variable {read : XmlReader} {o : Options} {first second : Value} {c : Comparison}

/-- A comparison is made exactly if both reports are, and is the comparison of these. -/
theorem compareSources_eq_ok_iff :
    compareSources read o first second = .ok c ↔ ∃ source source' a b,
      sourceOf first = .ok source ∧ sourceOf second = .ok source' ∧
      lint read o Check.all source = .ok a ∧ lint read o Check.all source' = .ok b ∧
      c = ofReports a b := by
  constructor
  · intro h
    obtain ⟨source, hfirst, h⟩ := Xml.bind_eq_ok.mp h
    obtain ⟨a, ha, h⟩ := Xml.bind_eq_ok.mp h
    obtain ⟨source', hsecond, h⟩ := Xml.bind_eq_ok.mp h
    obtain ⟨b, hb, h⟩ := Xml.bind_eq_ok.mp h
    exact ⟨source, source', a, b, hfirst, hsecond, ha, hb, (Except.ok.inj h).symm⟩
  · rintro ⟨source, source', a, b, hfirst, hsecond, ha, hb, rfl⟩
    exact Xml.bind_eq_ok.mpr ⟨source, hfirst, Xml.bind_eq_ok.mpr ⟨a, ha,
      Xml.bind_eq_ok.mpr ⟨source', hsecond, Xml.bind_eq_ok.mpr ⟨b, hb, rfl⟩⟩⟩⟩

/-- Every comparison that is made: it holds the reports on the two sources, which are under one
profile, and deals out their codes. The other way round it is made, too, and deals out the codes
alike; a source compared with itself has no code of its own. -/
theorem compareSources_partition (h : compareSources read o first second = .ok c) :
    ∃ source source',
      sourceOf first = .ok source ∧ sourceOf second = .ok source' ∧
      lint read o Check.all source = .ok c.first ∧ lint read o Check.all source' = .ok c.second ∧
      c.first.profile = c.second.profile ∧
      (c.onlyFirst.Nodup ∧ c.onlySecond.Nodup ∧ c.shared.Nodup) ∧
      (c.onlyFirst.Disjoint c.onlySecond ∧ c.onlyFirst.Disjoint c.shared ∧
        c.onlySecond.Disjoint c.shared) ∧
      (∀ code, code ∈ c.first.codes ↔ code ∈ c.onlyFirst ∨ code ∈ c.shared) ∧
      (∀ code, code ∈ c.second.codes ↔ code ∈ c.onlySecond ∨ code ∈ c.shared) ∧
      (InOrderOf c.first c.onlyFirst ∧ InOrderOf c.first c.shared ∧
        InOrderOf c.second c.onlySecond) ∧
      (∃ c', compareSources read o second first = .ok c' ∧
        c'.first = c.second ∧ c'.second = c.first ∧
        c'.onlyFirst = c.onlySecond ∧ c'.onlySecond = c.onlyFirst ∧
        ∀ code, code ∈ c'.shared ↔ code ∈ c.shared) ∧
      (source = source' → c.onlyFirst = [] ∧ c.onlySecond = []) := by
  obtain ⟨source, source', a, b, hfirst, hsecond, ha, hb, rfl⟩ := compareSources_eq_ok_iff.mp h
  have honlyFirst := inOrderOf_onlyFirst a b
  have honlySecond := inOrderOf_onlySecond a b
  have hshared := inOrderOf_shared a b
  refine ⟨source, source', hfirst, hsecond, ha, hb, ?_,
    ⟨honlyFirst.nodup, honlySecond.nodup, hshared.nodup⟩,
    ⟨disjoint_onlyFirst_onlySecond a b, disjoint_onlyFirst_shared a b,
      disjoint_onlySecond_shared a b⟩,
    fun code => mem_codes_iff_first, fun code => mem_codes_iff_second,
    ⟨honlyFirst, hshared, honlySecond⟩, ⟨ofReports b a, ?_, rfl, rfl, rfl, rfl, ?_⟩, ?_⟩
  · exact Except.ok.inj ((profile_of_lint ha).symm.trans (profile_of_lint hb))
  · exact compareSources_eq_ok_iff.mpr
      ⟨source', source, b, a, hsecond, hfirst, hb, ha, rfl⟩
  · intro code
    rw [mem_shared, mem_shared, and_comm]
  · rintro rfl
    obtain rfl : a = b := Except.ok.inj (ha.symm.trans hb)
    exact ⟨onlyFirst_self a, onlyFirst_self a⟩

/-- Two formulas with unknown elements in common and other faults of their own. -/
theorem compareSources_partition_unknownElements :
    ∃ c, compareSources readXml {} (.str "<math><mfenced/><foo/><bar/></math>")
        (.str "<math><foo/><mfrac/></math>") = .ok c ∧
      c.onlyFirst = ["L011", "L071"] ∧ c.onlySecond = ["L040"] ∧
      c.shared = ["L005", "L030", "L010"] ∧
      c.first.codes = ["L005", "L030", "L030", "L011", "L071", "L010", "L010"] ∧
      InOrderOf c.first c.shared := by
  have hrun : (compareSources readXml {} (.str "<math><mfenced/><foo/><bar/></math>")
      (.str "<math><foo/><mfrac/></math>")).toOption.map
        (fun c => (c.onlyFirst, c.onlySecond, c.shared, c.first.codes)) =
      some (["L011", "L071"], ["L040"], ["L005", "L030", "L010"],
        ["L005", "L030", "L030", "L011", "L071", "L010", "L010"]) := by decide +kernel
  obtain ⟨c, hc, hparts⟩ := exists_ok_of_toOption_map hrun
  obtain ⟨_, _, -, -, -, -, -, -, -, -, -, horder, -⟩ := compareSources_partition hc
  simp only [Prod.mk.injEq] at hparts
  exact ⟨c, hc, hparts.1, hparts.2.1, hparts.2.2.1, hparts.2.2.2, horder.2.1⟩

end MathLint

import MathLint.Proofs.RootTag.Insertion

/-!
# Declaring the assumed prefix

The declaration of the assumed prefix is one insertion, whatever the source, and it is made at most
once: the root that is found in the text with the declaration is the one that was found before, and
it declares the prefix.

* `find?_declared`: the root is found again.
* `declare_inserts_once`: one insertion behind the name of the root, and none after that.
-/

namespace MathLint.AssumedPrefix

open RootTag

variable {t : RootTag} {source : String}

/-- The source of a tag with the declaration put behind its name. -/
def declared (t : RootTag) : String := String.ofList (t.widen declaration.toList).source

theorem declaration_eq : declaration = " xmlns:m=\"http://www.w3.org/1998/Math/MathML\"" := by
  decide

theorem inert_declaration : Inert declaration.toList where
  head := by decide
  visible := ⟨'x', by decide, by decide⟩
  plain := by
    have hall : declaration.toList.all
        (fun c => c ≠ '<' ∧ c ≠ '>' ∧ c ≠ '?' ∧ c ≠ '-') = true := by decide
    simpa only [List.all_eq_true, decide_eq_true_eq] using hall

/-- Attributes that begin with the declaration declare the prefix. -/
theorem declaresPrefix_declaration (attributes : List Char) :
    declaresPrefix (declaration.toList ++ attributes) assumed.toList = true := by
  rw [declaration_eq]
  rfl

theorem isMissing_widen (t : RootTag) : isMissing (t.widen declaration.toList) = false := by
  simp [isMissing, widen, declaresPrefix_declaration]

/-- A name with the assumed prefix and all that stands before it is settled. -/
theorem settled_of_find? (h : find? source = some t) (hname : ['m', ':'] <+: t.name) :
    Settled (t.lead ++ t.name) := by
  have hmem {c : Char} (hc : isNameChar c = false) (hcolon : c ≠ ':') : c ∉ t.name := by
    intro hin
    rcases mem_name_of_find? h hin with h' | h'
    · rw [hc] at h'; cases h'
    · exact hcolon h'
  intro s hs
  rcases List.suffix_or_suffix_of_suffix hs (List.suffix_append t.lead t.name) with hin | hin
  · refine ⟨?_, ?_⟩
    · rintro rfl
      exact hmem (by decide) (by decide) (hin.subset (List.mem_singleton_self '?'))
    · rintro v rfl
      exact absurd (hin.subset List.mem_cons_self) (hmem (by decide) (by decide))
  · have hcolon : ':' ∈ s := hin.subset (hname.subset (by decide))
    refine ⟨?_, ?_⟩
    · rintro rfl
      exact absurd hcolon (by decide)
    · rintro v rfl
      simpa using hcolon

theorem prefixed_of_isMissing (h : isMissing t = true) : ['m', ':'] <+: t.name := by
  simp only [isMissing, Bool.and_eq_true, List.isPrefixOf_iff_prefix] at h
  exact h.1

/-- The root is found again in the text with the declaration. -/
theorem find?_declared (h : find? source = some t) (hmissing : isMissing t = true) :
    find? (declared t) = some (t.widen declaration.toList) := by
  rw [find?, declared, String.toList_ofList]
  exact findFrom_widen inert_declaration h (settled_of_find? h (prefixed_of_isMissing hmissing))

theorem declare_of_isMissing (h : find? source = some t) (hmissing : isMissing t = true) :
    declare source = (declared t, some disclosure) := by
  simp only [declare, h, hmissing, if_true, declared, source_widen, List.append_assoc]

theorem declare_of_not_isMissing (h : find? source = some t) (hmissing : isMissing t = false) :
    declare source = (source, none) := by
  simp [declare, h, hmissing]

theorem declare_of_find?_eq_none (h : find? source = none) : declare source = (source, none) := by
  simp [declare, h]

/-- The text with the declaration is left as it is. -/
theorem declare_declared (h : find? source = some t) (hmissing : isMissing t = true) :
    declare (declared t) = (declared t, none) :=
  declare_of_not_isMissing (find?_declared h hmissing) (isMissing_widen t)

/-- A source is left as it is, or the declaration is put in behind a root name that begins with the
prefix, which is disclosed; and what comes out is left as it is. -/
theorem declare_inserts_once (source : String) :
    (declare source = (source, none) ∨
      ∃ t, find? source = some t ∧ ['m', ':'] <+: t.name ∧
        source = String.ofList (t.lead ++ t.name ++ t.attributes ++ '>' :: t.rest) ∧
        declare source =
          (String.ofList (t.lead ++ t.name ++
            " xmlns:m=\"http://www.w3.org/1998/Math/MathML\"".toList ++
            t.attributes ++ '>' :: t.rest), some disclosure) ∧
        disclosure.code = "L006") ∧
      declare (declare source).1 = ((declare source).1, none) := by
  cases hfind : find? source with
  | none =>
    have hsame := declare_of_find?_eq_none hfind
    rw [hsame]
    exact ⟨.inl rfl, hsame⟩
  | some t =>
    cases hmissing : isMissing t with
    | false =>
      have hsame := declare_of_not_isMissing hfind hmissing
      rw [hsame]
      exact ⟨.inl rfl, hsame⟩
    | true =>
      rw [declare_of_isMissing hfind hmissing]
      refine ⟨.inr ⟨t, rfl, prefixed_of_isMissing hmissing, ?_, ?_, rfl⟩,
        declare_declared hfind hmissing⟩
      · rw [← RootTag.source, source_of_find? hfind, String.ofList_toList]
      · rw [declared, source_widen, ← declaration_eq]
        simp only [List.append_assoc]

end MathLint.AssumedPrefix

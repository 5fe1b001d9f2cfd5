import MathLint.Proofs.Check.Alike

/-!
# Math in foreign markup

A `math` element in foreign markup is looked at as if it were a document of its own, so a sweep over
a document whose MathML is all in such elements gives what sweeps over them give, one by one.

* `Node.embedded`: the `math` elements of a document that only foreign markup is around.
* `Node.lintable_eq_flatMap_embedded`: if all MathML is in them, the nodes that are looked at are
  those below them, in the same order.
* `Check.sweep_embedded`: what the sweep over such a document gives.
-/

namespace MathLint

open Xml

/-! ## Wrappers -/

namespace Node

variable (n : Node)

/-- Whether a node is foreign and has a tag that does not matter to the elements below. -/
def isWrapper : Bool := n.isForeign && !outerTags.contains n.tag

/-- Whether a node is a `math` element with nothing but wrappers above it. -/
def isEmbedded : Bool := !n.isForeign && n.tag == "math" && n.ancestors.all isWrapper

/-- The `math` elements of a subtree with nothing but wrappers above them, in document order. -/
def embedded : List Node := n.subtree.filter isEmbedded

variable {n : Node} {m p : Node} {i : Nat} {c : Content}

theorem isForeign_of_isWrapper (h : n.isWrapper = true) : n.isForeign = true :=
  (Bool.and_eq_true_iff.mp h).1

theorem isForeign_of_isEmbedded (h : n.isEmbedded = true) : n.isForeign = false := by
  simp only [isEmbedded, Bool.and_eq_true, Bool.not_eq_true'] at h
  exact h.1.1

theorem isWrapper_of_isEmbedded (h : n.isEmbedded = true) : ∀ a ∈ n.ancestors, a.isWrapper = true :=
  List.all_eq_true.mp (Bool.and_eq_true_iff.mp h).2

theorem standsFree_of_isEmbedded (h : n.isEmbedded = true) : n.StandsFree := by
  refine ⟨?_, fun a ha hout => ?_⟩
  · simp only [isEmbedded, Bool.and_eq_true, beq_iff_eq] at h
    exact h.1.2
  · have hwrapper := isWrapper_of_isEmbedded h a ha
    rw [isWrapper, List.contains_iff_mem.mpr hout, Bool.not_true, Bool.and_false] at hwrapper
    cases hwrapper

/-- Whether a node is below an embedded `math` element, or one itself. -/
def Covered (n : Node) : Prop := ∃ m ∈ n :: n.ancestors, m.isEmbedded = true

theorem covered_of_mem_subtree (h : n ∈ m.subtree) (hm : m.isEmbedded = true) : n.Covered := by
  rcases List.mem_cons.mp h with rfl | h
  · exact ⟨n, List.mem_cons_self, hm⟩
  · exact ⟨m, List.mem_cons_of_mem _ (mem_ancestors_of_mem_nodesFrom h), hm⟩

/-- With nothing but wrappers above it, a node that is looked at is embedded itself. -/
theorem isEmbedded_of_covered (h : n.Covered) (hup : ∀ a ∈ n.ancestors, a.isWrapper = true) :
    n.isEmbedded = true := by
  obtain ⟨m, hm, hembedded⟩ := h
  rcases List.mem_cons.mp hm with rfl | hm
  · exact hembedded
  · have hforeign := isForeign_of_isWrapper (hup m hm)
    rw [isForeign_of_isEmbedded hembedded] at hforeign
    cases hforeign

/-- Nothing below a node that is no wrapper is embedded. -/
theorem filter_isEmbedded_descendants (h : n.isWrapper = false) :
    n.descendants.filter isEmbedded = [] := by
  refine List.filter_eq_nil_iff.mpr fun m hm hembedded => ?_
  have hwrapper := isWrapper_of_isEmbedded hembedded n (mem_ancestors_of_mem_nodesFrom hm)
  rw [h] at hwrapper
  cases hwrapper

/-- Nothing below a foreign node that is no wrapper is covered. -/
theorem not_covered_of_mem_descendants (hforeign : n.isForeign = true) (h : n.isWrapper = false)
    (hup : ∀ a ∈ n.ancestors, a.isWrapper = true) (hm : m ∈ n.descendants) : ¬ m.Covered := by
  rintro ⟨a, ha, hembedded⟩
  have hbelow : n ∉ a.ancestors := fun hn => by
    have hwrapper := isWrapper_of_isEmbedded hembedded n hn
    rw [h] at hwrapper
    cases hwrapper
  have hgenuine : a.isForeign ≠ true := by rw [isForeign_of_isEmbedded hembedded]; decide
  rcases List.mem_cons.mp ha with rfl | ha
  · exact hbelow (mem_ancestors_of_mem_nodesFrom hm)
  · rcases ancestors_cases hm ha with rfl | habove | hn
    · exact hgenuine hforeign
    · exact hgenuine (isForeign_of_isWrapper (hup a habove))
    · exact hbelow hn

/-! ## The MathML of a document -/

/-- A property of nodes: if all MathML among them is covered, it is what is below the embedded ones
of them. -/
def Splits (nodes : List Node) : Prop :=
  (∀ n ∈ nodes, n.isForeign = false → n.Covered) →
    (nodes.filter fun n => !n.isForeign) = (nodes.filter isEmbedded).flatMap lintable

theorem Splits.append {ns ms : List Node} (hns : Splits ns) (hms : Splits ms) :
    Splits (ns ++ ms) := by
  intro h
  rw [List.filter_append, List.filter_append, List.flatMap_append,
    hns fun n hn => h n (List.mem_append_left _ hn),
    hms fun n hn => h n (List.mem_append_right _ hn)]

/-- The subtree of a node splits if what is below does where the node is a wrapper. -/
theorem splits_subtree (hup : ∀ a ∈ n.ancestors, a.isWrapper = true)
    (hbelow : n.isWrapper = true → Splits n.descendants) : Splits n.subtree := by
  intro h
  by_cases hwrapper : n.isWrapper = true
  · -- a wrapper is neither looked at nor embedded
    have hforeign := isForeign_of_isWrapper hwrapper
    have hembedded : n.isEmbedded = false := by simp [isEmbedded, hforeign]
    rw [subtree, List.filter_cons_of_neg (by simp [hforeign]),
      List.filter_cons_of_neg (by simp [hembedded])]
    exact hbelow hwrapper fun m hm => h m (List.mem_cons_of_mem _ hm)
  · have hnone := filter_isEmbedded_descendants (Bool.not_eq_true _ ▸ hwrapper)
    by_cases hforeign : n.isForeign = true
    · have hembedded : n.isEmbedded = false := by simp [isEmbedded, hforeign]
      rw [subtree, List.filter_cons_of_neg (by simp [hforeign]),
        List.filter_cons_of_neg (by simp [hembedded]), hnone]
      refine List.filter_eq_nil_iff.mpr fun m hm hgenuine => ?_
      refine not_covered_of_mem_descendants hforeign (Bool.not_eq_true _ ▸ hwrapper) hup hm ?_
      exact h m (List.mem_cons_of_mem _ hm) (by simpa using hgenuine)
    · have hself := isEmbedded_of_covered
        (h n List.mem_cons_self (Bool.not_eq_true _ ▸ hforeign)) hup
      have hsingle : n.subtree.filter isEmbedded = [n] := by
        rw [subtree, List.filter_cons_of_pos hself, hnone]
      rw [hsingle, List.flatMap_singleton]
      rfl

theorem splits_nodesFrom (hp : p.isWrapper = true) (hup : ∀ a ∈ p.ancestors, a.isWrapper = true)
    (i : Nat) (c : Content) : Splits (p.nodesFrom i c) := by
  induction c generalizing p i with
  | nil => exact fun _ => rfl
  | chars run rest ih => exact ih hp hup i
  | remark body rest ih => exact ih hp hup i
  | element name attributes inner rest ihInner ihRest =>
    have habove : ∀ a ∈ (child p i ⟨name, attributes, inner⟩).ancestors, a.isWrapper = true :=
      List.forall_mem_cons.mpr ⟨hp, hup⟩
    rw [nodesFrom_element]
    exact (splits_subtree habove fun hwrapper => ihInner hwrapper habove 0).append
      (ihRest hp hup (i + 1))

/-- If all MathML of a document is in embedded `math` elements, the nodes that are looked at are
those below these elements. -/
theorem lintable_eq_flatMap_embedded {root : Element}
    (h : ∀ n ∈ (Node.root root).lintable, ∃ m ∈ (Node.root root).embedded, n ∈ m.subtree) :
    (Node.root root).lintable = (Node.root root).embedded.flatMap lintable := by
  have hnone : ∀ a ∈ (Node.root root).ancestors, a.isWrapper = true := fun a ha => by cases ha
  refine splits_subtree hnone (fun hroot => splits_nodesFrom hroot hnone 0 root.content)
    fun n hn hgenuine => ?_
  obtain ⟨m, hm, hbelow⟩ := h n (mem_lintable.mpr ⟨hn, hgenuine⟩)
  exact covered_of_mem_subtree hbelow (List.mem_filter.mp hm).2

end Node

/-! ## Sweeps -/

/-- The catalog lets `math` stand anywhere, and overrides do not change that. -/
theorem RuleSet.freesMath_build (v : Version) (handlers : Bool)
    (overrides : List (String × Override)) :
    (build (Bundle.build v handlers) overrides).FreesMath := by
  have hcatalog : ∀ r ∈ Catalog.presentation ++ Catalog.content, r.tag = "math" →
      r.onlyValidIn = [] := by decide +kernel
  have hlower : Text.lower "math" = "math" := by decide
  have hbundle : ∀ r ∈ (Bundle.build v handlers).rules, r.tag = "math" → r.onlyValidIn = [] := by
    intro r hr
    rcases List.mem_append.mp hr with hr | hr
    · obtain ⟨listed, hlisted, rfl⟩ := List.mem_map.mp hr
      exact hcatalog listed (List.mem_append_left _ hlisted)
    · obtain ⟨listed, hlisted, rfl⟩ := List.mem_map.mp hr
      exact hcatalog listed (List.mem_append_right _ hlisted)
  intro r hr
  have htag : r.tag = "math" := by simpa [hlower] using List.find?_some hr
  obtain ⟨own, hown, rfl⟩ := List.mem_map.mp (List.mem_of_find?_eq_some hr)
  cases hlookup : overrides.lookup own.tag with
  | none =>
    rw [hlookup] at htag
    exact hbundle own hown htag
  | some o =>
    rw [hlookup] at htag
    exact hbundle own hown htag

namespace Check

open Node

/-- A sweep over a document whose MathML is all in embedded `math` elements gathers what sweeps over
these elements give, each of them as a document of its own. -/
theorem sweep_eq_gather_embedded {c : Context} (hfree : c.rules.FreesMath) (checks : List Check)
    {root : Element}
    (hcover : ∀ n ∈ (Node.root root).lintable, ∃ m ∈ (Node.root root).embedded, n ∈ m.subtree) :
    sweep c checks (Node.root root).lintable =
      gather (fun m => sweep c checks (Node.root m.element).lintable)
        (Node.root root).embedded := by
  rw [lintable_eq_flatMap_embedded hcover, sweep, gather_flatMap]
  refine gather_of_forall₂ (List.forall₂_same.mpr fun m hm => ?_) fun a b hab => hab
  have hembedded : m.isEmbedded = true := (List.mem_filter.mp hm).2
  exact (sweep_of_alike (.math hfree (standsFree_of_isEmbedded hembedded)) checks).symm

/-- Embedded math is looked at as if it stood alone: where all MathML of a document is in `math`
elements with nothing but wrappers above them, a sweep fails if one of the sweeps over these
elements fails, and gives what they give, in document order, if none does. The rules may be those of
any version under any overrides. -/
theorem sweep_embedded {c : Context} {v : Version} {handlers : Bool}
    {overrides : List (String × Override)}
    (hrules : c.rules = RuleSet.build (Bundle.build v handlers) overrides) (checks : List Check)
    {root : Element}
    (hcover : ∀ n ∈ (Node.root root).lintable, ∃ m ∈ (Node.root root).embedded, n ∈ m.subtree) :
    ((∃ e, sweep c checks (Node.root root).lintable = .error e) ↔
      ∃ m ∈ (Node.root root).embedded,
        ∃ e, sweep c checks (Node.root m.element).lintable = .error e) ∧
    ∀ alone : Node → List Finding,
      (∀ m ∈ (Node.root root).embedded,
        sweep c checks (Node.root m.element).lintable = .ok (alone m)) →
      sweep c checks (Node.root root).lintable = .ok ((Node.root root).embedded.flatMap alone) := by
  have hfree : c.rules.FreesMath := hrules ▸ RuleSet.freesMath_build v handlers overrides
  rw [sweep_eq_gather_embedded hfree checks hcover]
  exact ⟨gather_error_iff, fun alone halone => gather_eq_ok halone⟩

/-- Two formulas in foreign markup, one of them in a foreign `msup`. -/
def wrappedFormulas : Element :=
  let foreign (base : String) : Name := ⟨"urn:x", base⟩
  let mathml (base : String) : Name := ⟨mathNamespace, base⟩
  { name := foreign "div"
    attributes := []
    content :=
      .element (foreign "msup") []
        (.element (mathml "math") []
          (.element (mathml "mi") [] (.chars "sin" .nil) .nil) .nil) <|
      .chars " and " <|
      .element (mathml "math") []
        (.element (mathml "mrow") []
          (.element (mathml "mi") [] (.chars "cos" .nil) .nil) .nil) .nil }

/-- The law on `wrappedFormulas`. -/
theorem sweep_wrappedFormulas :
    let c : Context := { profile := Profile.default, rules := RuleSet.mathml3 }
    (∀ n ∈ (Node.root wrappedFormulas).lintable,
      ∃ m ∈ (Node.root wrappedFormulas).embedded, n ∈ m.subtree) ∧
    sweep c [.functionApplication] (Node.root wrappedFormulas).lintable =
      .ok ((Node.root wrappedFormulas).embedded.flatMap fun m =>
        swept c [.functionApplication] (Node.root m.element).lintable) ∧
    (swept c [.functionApplication] (Node.root wrappedFormulas).lintable).map (·.code) =
      ["L031", "L031"] := by
  intro c
  have hall : (Node.root wrappedFormulas).lintable =
      (Node.root wrappedFormulas).embedded.flatMap lintable := by rfl
  have hcover : ∀ n ∈ (Node.root wrappedFormulas).lintable,
      ∃ m ∈ (Node.root wrappedFormulas).embedded, n ∈ m.subtree := by
    intro n hn
    rw [hall] at hn
    obtain ⟨m, hm, hn⟩ := List.mem_flatMap.mp hn
    exact ⟨m, hm, (mem_lintable.mp hn).1⟩
  refine ⟨hcover, ?_, ?_⟩
  · refine (sweep_embedded (c := c) rfl _ hcover).2 _ fun m _ => ?_
    refine sweep_eq_ok_iff.mpr ⟨fun n _ k hk => ?_, rfl⟩
    rw [List.mem_singleton.mp hk]
    rfl
  · decide +kernel

end Check

end MathLint

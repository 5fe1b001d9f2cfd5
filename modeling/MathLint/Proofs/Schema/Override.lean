import MathLint.Proofs.Distinct
import MathLint.Proofs.Value
import MathLint.Schema.Bundle

/-!
# Overrides of a schema

An override that gives children and attributes only adds to what a rule lists. Only the overrides
for tags of the bundle count, and it does not matter whether they come typed or as loosely typed
values.

* `Rule.Extends`: a rule with more children and attributes.
* `RuleSet.rule?_build_cases`: the rule of a tag with and without overrides.
* `RuleSet.build_congr`: which overrides count.
* `RuleSet.buildLoose_toValue`: overrides as loosely typed values.
-/

namespace MathLint

/-! ## Extensions of rules -/

/-- An override that leaves open how many children an element has and whether it is legacy. -/
def Override.IsExtension (o : Override) : Prop := o.arity = none ∧ o.deprecated = none

instance (o : Override) : Decidable o.IsExtension :=
  inferInstanceAs (Decidable (o.arity = none ∧ o.deprecated = none))

/-- A rule is extended by one that differs from it only in that it lists more children and
attributes. -/
def Rule.ExtendedBy (narrow wide : Rule) : Prop :=
  ∃ children attributes, wide = { narrow with children, attributes } ∧
    narrow.children ⊆ children ∧ narrow.attributes ⊆ attributes

theorem Rule.extendedBy_self (r : Rule) : r.ExtendedBy r :=
  ⟨r.children, r.attributes, rfl, List.Subset.refl _, List.Subset.refl _⟩

/-- Merging such an override takes nothing from a rule. -/
theorem Rule.extendedBy_merge {o : Override} (h : o.IsExtension) (r : Rule) :
    r.ExtendedBy (r.merge o) := by
  refine ⟨(r.merge o).children, (r.merge o).attributes, ?_, ?_, List.subset_append_left _ _⟩
  · simp only [merge, h.1, h.2, Option.none_or, Option.getD_none]
  · unfold merge
    dsimp only
    split
    · exact List.Subset.refl _
    · exact fun tag htag => mem_distinct.mpr (List.mem_append_left _ htag)

namespace RuleSet

variable {bundle : Bundle} {overrides : List (String × Override)} {tag : String}

/-- A rule with the override of its tag. -/
def overriddenBy (overrides : List (String × Override)) (r : Rule) : Rule :=
  match overrides.lookup r.tag with
  | some o => r.merge o
  | none => r

theorem rules_build (bundle : Bundle) (overrides : List (String × Override)) :
    (build bundle overrides).rules = bundle.rules.map (overriddenBy overrides) := rfl

theorem tag_overriddenBy (r : Rule) : (overriddenBy overrides r).tag = r.tag := by
  unfold overriddenBy
  split <;> rfl

/-- Extensions take nothing from a rule. -/
theorem extendedBy_overriddenBy (h : ∀ o ∈ overrides, o.2.IsExtension) (r : Rule) :
    r.ExtendedBy (overriddenBy overrides r) := by
  unfold overriddenBy
  cases hlookup : overrides.lookup r.tag with
  | none => exact r.extendedBy_self
  | some o =>
    obtain ⟨before, behind, hsplit, -⟩ := List.lookup_eq_some_iff.mp hlookup
    exact r.extendedBy_merge (h (r.tag, o) (by simp [hsplit]))

/-- The rule of a tag is that of the bundle, with the override of the tag. -/
theorem rule?_build (bundle : Bundle) (overrides : List (String × Override)) (tag : String) :
    (build bundle overrides).rule? tag =
      (bundle.rule? (Text.lower tag)).map (overriddenBy overrides) := by
  unfold rule? Bundle.rule?
  dsimp only
  rw [rules_build, List.find?_map]
  simp only [Function.comp_def, tag_overriddenBy]

/-- With extensions, a tag has no rule where it had none before, and else an extended one. -/
theorem rule?_build_cases (bundle : Bundle) (h : ∀ o ∈ overrides, o.2.IsExtension) (tag : String) :
    (build bundle []).rule? tag = none ∧ (build bundle overrides).rule? tag = none ∨
      ∃ narrow wide, (build bundle []).rule? tag = some narrow ∧
        (build bundle overrides).rule? tag = some wide ∧ narrow.ExtendedBy wide := by
  rw [rule?_build, rule?_build]
  cases bundle.rule? (Text.lower tag) with
  | none => exact .inl ⟨rfl, rfl⟩
  | some r => exact .inr ⟨r, _, rfl, rfl, extendedBy_overriddenBy h r⟩

/-! ## The overrides that count -/

/-- Only what is said of the tags of the bundle counts. -/
theorem build_congr {overrides' : List (String × Override)}
    (h : ∀ tag ∈ bundle.knownTags, overrides.lookup tag = overrides'.lookup tag) :
    build bundle overrides = build bundle overrides' := by
  have hrules : bundle.rules.map (overriddenBy overrides) =
      bundle.rules.map (overriddenBy overrides') := by
    refine List.map_congr_left fun r hr => ?_
    unfold overriddenBy
    rw [h r.tag (List.mem_map_of_mem hr)]
  exact congrArg (fun rules => RuleSet.mk bundle rules bundle.universalAttributes) hrules

theorem lookup_filter_key {β : Type} {p : String → Bool} (hp : p tag = true)
    (entries : List (String × β)) :
    (entries.filter fun e => p e.1).lookup tag = entries.lookup tag := by
  induction entries with
  | nil => rfl
  | cons e entries ih =>
    obtain ⟨key, b⟩ := e
    rw [List.filter_cons]
    cases hk : p key with
    | true => simp only [if_true, List.lookup_cons, ih]
    | false =>
      have hne : (tag == key) = false := beq_false_of_ne fun heq => by simp [← heq, hp] at hk
      rw [List.lookup_cons, hne]
      exact ih

/-- Overrides for other tags change nothing. -/
theorem build_filter_knownTags (bundle : Bundle) (overrides : List (String × Override)) :
    build bundle (overrides.filter fun o => bundle.knownTags.contains o.1) =
      build bundle overrides :=
  build_congr fun _ htag => lookup_filter_key (List.contains_iff_mem.mpr htag) overrides

end RuleSet

/-! ## Loosely typed overrides -/

/-- An extension as a loosely typed value: an object with a list of children and a list of
attributes. -/
def Override.toValue (o : Override) : Value :=
  .object [("children", .list (o.children.map .str)), ("attributes", .list (o.attributes.map .str))]

/-- What is read back one by one is read back as a list. -/
theorem mapM_map_eq_ok {α β ε : Type} {f : β → Except ε α} {g : α → β} {as : List α}
    (h : ∀ a ∈ as, f (g a) = .ok a) : (as.map g).mapM f = .ok as := by
  induction as with
  | nil => rfl
  | cons a as ih =>
    have hrest := ih fun b hb => h b (List.mem_cons_of_mem _ hb)
    rw [List.map_cons, List.mapM_cons, h a List.mem_cons_self, hrest]
    rfl

/-- An extension is read back from its value. -/
theorem Loose.override_toValue {o : Override} (h : o.IsExtension) :
    override o.toValue = .ok o := by
  obtain ⟨children, attributes, arity, deprecated⟩ := o
  obtain ⟨rfl, rfl⟩ : arity = none ∧ deprecated = none := h
  have hlabels (names : List String) : (names.map Value.str).mapM label = .ok names :=
    mapM_map_eq_ok fun s _ => label_str s
  -- both lists are found, and no other field is
  have hread : override (Override.toValue ⟨children, attributes, none, none⟩) = (do
      return ⟨← (children.map Value.str).mapM label, ← (attributes.map Value.str).mapM label,
        none, none⟩) := rfl
  rw [hread, hlabels, hlabels]
  rfl

namespace RuleSet

variable {bundle : Bundle} {overrides : List (String × Override)}

theorem lookup_filterMap_key {β : Type} (f : String → Option β) (tag : String)
    (tags : List String) :
    (tags.filterMap fun t => (f t).map fun b => (t, b)).lookup tag =
      if tag ∈ tags then f tag else none := by
  induction tags with
  | nil => rfl
  | cons t tags ih =>
    by_cases heq : tag = t
    · subst heq
      cases hf : f tag with
      | some b => simp [hf]
      | none => simp [hf, ih]
    · have hne : (tag == t) = false := beq_false_of_ne heq
      cases hf : f t with
      | some b => simp [hf, heq, hne, ih, List.lookup_cons]
      | none => simp [hf, heq, ih]

theorem lookup_map_value {β γ : Type} (g : β → γ) (tag : String) (entries : List (String × β)) :
    (entries.map fun e => (e.1, g e.2)).lookup tag = (entries.lookup tag).map g := by
  induction entries with
  | nil => rfl
  | cons e entries ih =>
    rw [List.map_cons, List.lookup_cons, List.lookup_cons, ih]
    cases tag == e.1 <;> rfl

/-- A rule set is built from the values of extensions as from the extensions themselves. -/
theorem buildLoose_toValue (h : ∀ o ∈ overrides, o.2.IsExtension) :
    buildLoose bundle (overrides.map fun o => (o.1, o.2.toValue)) =
      .ok (build bundle overrides) := by
  have hgiven : (bundle.knownTags.filterMap fun tag =>
        ((overrides.map fun o => (o.1, o.2.toValue)).lookup tag).map fun v => (tag, v)) =
      (bundle.knownTags.filterMap fun tag => (overrides.lookup tag).map fun o => (tag, o)).map
        fun o => (o.1, o.2.toValue) := by
    simp only [lookup_map_value, List.map_filterMap, Option.map_map, Function.comp_def]
  unfold buildLoose
  dsimp only
  rw [hgiven, mapM_map_eq_ok]
  · refine congrArg Except.ok (build_congr fun tag htag => ?_)
    rw [lookup_filterMap_key, if_pos htag]
  · intro o ho
    obtain ⟨tag, -, hlookup⟩ := List.mem_filterMap.mp ho
    obtain ⟨o', ho', rfl⟩ := Option.map_eq_some_iff.mp hlookup
    obtain ⟨before, behind, hsplit, -⟩ := List.lookup_eq_some_iff.mp ho'
    dsimp only
    rw [Loose.override_toValue (h (tag, o') (by simp [hsplit]))]
    rfl

end RuleSet

end MathLint

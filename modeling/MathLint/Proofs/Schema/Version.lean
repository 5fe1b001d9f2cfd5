import Mathlib.Data.List.Nodup
import MathLint.Check.Context

/-!
# The rules of the two versions

Version 4 of the schema allows the attributes of intent annotations on every presentation element.
In all else the two versions agree.

* `RuleSet.rule?_cases`: the rules of a tag.
* `RuleSet.specs_mathml4`: the tiers of a tag.
* `Context.valueRules4_eq`: the rules for attribute values.
-/

namespace MathLint

namespace Catalog

/-- The tags of the presentation elements. -/
def presentationTags : List String := presentation.map (·.tag)

end Catalog

namespace RuleSet

/-- A rule with the linter's own override of it. -/
def overridden (r : Rule) : Rule :=
  match localOverrides.lookup r.tag with
  | some o => r.merge o
  | none => r

theorem tag_overridden (r : Rule) : (overridden r).tag = r.tag := by
  unfold overridden
  split <;> rfl

/-- An override adds attributes of its own to those of a rule, whatever these are. -/
theorem exists_overridden_eq (r : Rule) :
    ∃ own, ∀ given, overridden { r with attributes := given } =
      { overridden r with attributes := given ++ own } := by
  unfold overridden
  dsimp only
  cases localOverrides.lookup r.tag with
  | some o => exact ⟨o.attributes.map Text.lower, fun given => rfl⟩
  | none => exact ⟨[], fun given => by rw [List.append_nil]⟩

/-- The attributes that the catalog gives to a rule. -/
def listed (r : Rule) : List String := r.attributes.filter fun a => true || a != "on*"

/-- The rules of a version are those of the catalog, presentation elements first. -/
theorem rule?_ofVersion (v : Version) (tag : String) :
    (ofVersion v).rule? tag =
      ((Catalog.presentation.find? (·.tag == Text.lower tag)).map fun r =>
        overridden { r with attributes := listed r ++ v.overlays.map (·.attributeName) }).or
      ((Catalog.content.find? (·.tag == Text.lower tag)).map fun r =>
        overridden { r with attributes := listed r }) := by
  have hrules : (ofVersion v).rules =
      (Catalog.presentation.map fun r =>
        overridden { r with attributes := listed r ++ v.overlays.map (·.attributeName) }) ++
      Catalog.content.map fun r => overridden { r with attributes := listed r } := by
    cases v <;>
      simp only [ofVersion, mathml3, mathml4, build, Bundle.build, Bundle.rules, List.map_append,
        List.map_map] <;> rfl
  unfold rule?
  simp only [hrules, List.find?_append, List.find?_map, Function.comp_def, tag_overridden]

/-- The rules of a tag in the two versions: those of a presentation element differ in the attributes
of intent annotations, all others are the same. -/
theorem rule?_cases (tag : String) :
    (Text.lower tag ∈ Catalog.presentationTags ∧
      ∃ r given, mathml3.rule? tag = some r ∧
        mathml4.rule? tag = some { r with attributes := given } ∧
        ∀ a, a ∈ given ↔ a ∈ r.attributes ∨ a ∈ intentAttributes) ∨
    Text.lower tag ∉ Catalog.presentationTags ∧ mathml4.rule? tag = mathml3.rule? tag := by
  have h3 := rule?_ofVersion .mathml3 tag
  have h4 := rule?_ofVersion .mathml4 tag
  simp only [ofVersion] at h3 h4
  rw [h3, h4]
  cases hfind : Catalog.presentation.find? (·.tag == Text.lower tag) with
  | some r =>
    have htag : r.tag = Text.lower tag := by simpa using List.find?_some hfind
    refine .inl ⟨htag ▸ List.mem_map_of_mem (List.mem_of_find?_eq_some hfind), ?_⟩
    obtain ⟨own, hown⟩ := exists_overridden_eq r
    refine ⟨_, _, congrArg some (hown _), congrArg some (hown _), fun a => ?_⟩
    show a ∈ listed r ++ intentAttributes ++ own ↔ a ∈ listed r ++ [] ++ own ∨ a ∈ intentAttributes
    simp only [List.mem_append, List.append_nil]
    exact or_right_comm
  | none =>
    refine .inr ⟨?_, rfl⟩
    intro hmem
    obtain ⟨r, hr, htag⟩ := List.mem_map.mp hmem
    have hnone := List.find?_eq_none.mp hfind r hr
    simp [htag] at hnone

theorem knows_mathml4 (tag : String) : mathml4.knows tag = mathml3.knows tag := by
  have htags : mathml4.bundle.knownTags = mathml3.bundle.knownTags := rfl
  rw [knows, knows, htags]

theorem specs_mathml4 (tag : String) : mathml4.specs tag = mathml3.specs tag := by
  have hrule : (mathml4.bundle.rule? (Text.lower tag)).map (·.specs) =
      (mathml3.bundle.rule? (Text.lower tag)).map (·.specs) := by
    simp only [mathml3, mathml4, build, Bundle.rule?, Bundle.rules, Bundle.build,
      List.find?_append, List.find?_map, Function.comp_def, Option.map_or, Option.map_map]
  unfold specs
  cases h3 : mathml3.bundle.rule? (Text.lower tag) <;>
    cases h4 : mathml4.bundle.rule? (Text.lower tag) <;> simp_all

theorem deprecatedAttributes_mathml4 :
    mathml4.bundle.deprecatedAttributes = mathml3.bundle.deprecatedAttributes := by
  decide

/-- The definition of an attribute of version 3 is the same in version 4. -/
theorem attribute?_mathml4 {name : String} (h : name ∈ Catalog.attributes.map (·.name)) :
    mathml4.bundle.attributes.find? (·.name == name) =
      mathml3.bundle.attributes.find? (·.name == name) := by
  have hsome : (Catalog.attributes.find? (·.name == name)).isSome := by
    obtain ⟨d, hd, rfl⟩ := List.mem_map.mp h
    exact List.find?_isSome.mpr ⟨d, hd, by simp⟩
  show (Catalog.attributes ++ Catalog.intentAttributes).find? _ = Catalog.attributes.find? _
  rw [List.find?_append, Option.or_of_isSome hsome]

end RuleSet

/-! ## Attribute values -/

/-- Definitions of different names are left in order where some of them are taken out. -/
theorem AttributeDefinition.filter_sorted {ds : List AttributeDefinition}
    {p : AttributeDefinition → Bool} (hnames : ((ds.filter p).map (·.name)).Nodup) :
    (sorted ds).filter p = sorted (ds.filter p) := by
  have hsorted (ds : List AttributeDefinition) :
      (sorted ds).Pairwise fun a b => a.name ≤ b.name := by
    refine (List.pairwise_mergeSort ?_ ?_ ds).imp fun h => of_decide_eq_true h
    · intro a b c
      simpa using String.le_trans
    · intro a b
      simpa using String.le_total a.name b.name
  have hleft : ((sorted ds).filter p).Perm (ds.filter p) := (List.mergeSort_perm ds _).filter p
  have hright : (sorted (ds.filter p)).Perm (ds.filter p) := List.mergeSort_perm _ _
  refine List.Perm.eq_of_pairwise (fun a b ha hb hab hba => ?_) ((hsorted ds).filter p)
    (hsorted _) (hleft.trans hright.symm)
  exact List.inj_on_of_nodup_map hnames (hleft.mem_iff.mp ha) (hright.mem_iff.mp hb)
    (String.le_antisymm hab hba)

namespace ValueRule

/-- Whether a definition gives a rule. -/
def isChecked (d : AttributeDefinition) : Bool := (ofDefinition? d).isSome

/-- Only the definitions that give a rule count. -/
theorem ofCatalog_sorted {ds : List AttributeDefinition}
    (hnames : ((ds.filter isChecked).map (·.name)).Nodup) :
    ofCatalog (AttributeDefinition.sorted ds) =
      ofCatalog (AttributeDefinition.sorted (ds.filter isChecked)) := by
  have hdrop : ∀ ds : List AttributeDefinition,
      ds.filterMap ofDefinition? = (ds.filter isChecked).filterMap ofDefinition? := by
    intro ds
    rw [List.filterMap_filter]
    refine List.filterMap_congr fun d _ => ?_
    unfold isChecked
    cases ofDefinition? d <;> rfl
  unfold ofCatalog
  rw [hdrop, AttributeDefinition.filter_sorted hnames]

end ValueRule

/-- The rules for attribute values are the same in both versions: any text is a value of the
attributes that version 4 adds. -/
theorem Context.valueRules4_eq : valueRules4 = valueRules3 := by
  have hsame : Version.mathml4.attributes.filter ValueRule.isChecked =
      Version.mathml3.attributes.filter ValueRule.isChecked := by
    decide
  have hnames : ((Version.mathml3.attributes.filter ValueRule.isChecked).map (·.name)).Nodup := by
    decide
  unfold valueRules4 valueRules3
  rw [ValueRule.ofCatalog_sorted (hsame ▸ hnames), hsame, ValueRule.ofCatalog_sorted hnames]

end MathLint

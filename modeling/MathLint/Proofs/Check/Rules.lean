import MathLint.Check.Structure

/-!
# Checks and the lists of rules

A rule lists children and attributes, and says more of an element. The checks here read the rest
only, so they report the same under rules that differ in these lists.

* `RuleSet.Relisted`: the rules of a tag differ in their lists.
* `Structure.legacy_of_relisted`, `Structure.deprecatedAttributes_of_relisted`,
  `Structure.requiredAttributes_of_relisted`, `Structure.arity_of_relisted`: the checks.
-/

namespace MathLint

/-- The rules of a tag differ in no more than the children and the attributes that they list. -/
def RuleSet.Relisted (s s' : RuleSet) (tag : String) : Prop :=
  ∃ children attributes, s'.rule? tag = (s.rule? tag).map fun r => { r with children, attributes }

theorem RuleSet.relisted_of_eq {s s' : RuleSet} {tag : String} (h : s'.rule? tag = s.rule? tag) :
    s.Relisted s' tag := by
  rw [Relisted, h]
  cases s.rule? tag with
  | none => exact ⟨[], [], rfl⟩
  | some r => exact ⟨r.children, r.attributes, rfl⟩

namespace Structure

variable {c c' : Context} {n : Node} (h : c.rules.Relisted c'.rules n.tag)

include h

theorem legacy_of_relisted (hcore : c'.profile.isCore = c.profile.isCore) :
    legacy c' n = legacy c n := by
  obtain ⟨children, attributes, hrule⟩ := h
  unfold legacy
  rw [hrule, hcore]
  cases c.rules.rule? n.tag <;> rfl

theorem deprecatedAttributes_of_relisted
    (hdeprecated : c'.deprecatedAttributes = c.deprecatedAttributes) :
    deprecatedAttributes c' n = deprecatedAttributes c n := by
  obtain ⟨children, attributes, hrule⟩ := h
  have hnames : deprecatedNames c' n = deprecatedNames c n := by
    unfold deprecatedNames
    rw [hrule, hdeprecated]
    cases c.rules.rule? n.tag <;> rfl
  unfold deprecatedAttributes
  rw [hnames]

theorem requiredAttributes_of_relisted : requiredAttributes c' n = requiredAttributes c n := by
  obtain ⟨children, attributes, hrule⟩ := h
  unfold requiredAttributes
  rw [hrule]
  cases c.rules.rule? n.tag <;> rfl

theorem arity_of_relisted : arity c' n = arity c n := by
  obtain ⟨children, attributes, hrule⟩ := h
  unfold arity
  rw [hrule]
  cases c.rules.rule? n.tag <;> rfl

end Structure

end MathLint

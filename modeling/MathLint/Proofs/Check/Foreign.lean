import MathLint.Lint
import MathLint.Proofs.Check.Alike
import MathLint.Proofs.Node.Foreign

/-!
# Attributes of foreign elements

Foreign elements count as children, siblings, first children and ancestors of the elements that are
checked, with their tags and their texts, but a check reads the attributes of the node itself only.
One check looks further: a padded element reads the width of the spaces in it. Where none of these
is foreign, all findings stay the same if the attributes of foreign elements change.

* `Check.sweep_bareForeign`: a sweep gives the same without the attributes of foreign elements.
* `findings_eq_of_bareForeign_eq`: trees that differ in them only have the same findings.
-/

namespace MathLint

open Xml Node

/-- A sweep gives the same without the attributes of foreign elements. -/
theorem Check.sweep_bareForeign {c : Context} {e : Element} (hspace : e.PadsOwnSpace)
    (checks : List Check) :
    sweep c checks (root e.bareForeign).lintable = sweep c checks (root e).lintable :=
  sweep_of_alike (.root (e.alike_bareForeign hspace)) checks

theorem rootFindings_bareForeign (e : Element) (written : String) :
    rootFindings e.bareForeign written = rootFindings e written := rfl

/-- Trees that differ in the attributes of foreign elements only have the same findings, or fail
alike, about the root and in a sweep. The trees must have no foreign space directly in a padded
element, which reads the width of the spaces in it. -/
theorem findings_eq_of_bareForeign_eq {e e' : Element} (h : e.bareForeign = e'.bareForeign)
    (hspace : e.PadsOwnSpace) (written : String) (c : Context) (checks : List Check) :
    rootFindings e written = rootFindings e' written ∧
      Check.sweep c checks (root e).lintable = Check.sweep c checks (root e').lintable := by
  have hspace' : e'.PadsOwnSpace := by
    rw [← e'.padsOwnSpace_bareForeign, ← h, e.padsOwnSpace_bareForeign]
    exact hspace
  constructor
  · rw [← rootFindings_bareForeign, h, rootFindings_bareForeign]
  · rw [← Check.sweep_bareForeign hspace, h, Check.sweep_bareForeign hspace']

/-- A formula with a foreign space of some width, and a padded letter with a space of its own. -/
def spacedFormula (width : String) : Element :=
  { name := ⟨mathNamespace, "math"⟩
    attributes := []
    content :=
      .element ⟨"urn:x", "mspace"⟩ [(⟨"", "width"⟩, width)] .nil <|
      .element ⟨mathNamespace, "mpadded"⟩ []
        (.element ⟨mathNamespace, "mi"⟩ [] (.chars "x" .nil) <|
          .element ⟨mathNamespace, "mspace"⟩ [(⟨"", "width"⟩, "-1em")] .nil .nil)
        .nil }

/-- The law on two widths of the foreign space: only the formula's own space is reported. -/
theorem findings_eq_of_bareForeign_eq_spacedFormula :
    let c := Context.ofProfile Profile.default {}
    let checks := [Check.children, .coreSupport, .negativeSpace]
    (spacedFormula "-1em").bareForeign = (spacedFormula "2em").bareForeign ∧
    (spacedFormula "-1em").PadsOwnSpace ∧
    rootFindings (spacedFormula "-1em") "math" = rootFindings (spacedFormula "2em") "math" ∧
    Check.sweep c checks (root (spacedFormula "-1em")).lintable =
      Check.sweep c checks (root (spacedFormula "2em")).lintable ∧
    (Check.sweep c checks (root (spacedFormula "2em")).lintable).toOption.map
      (fun fs => fs.map (·.code)) = some ["L035", "L034"] := by
  intro c checks
  have hbare : (spacedFormula "-1em").bareForeign = (spacedFormula "2em").bareForeign := rfl
  have hspace : (spacedFormula "-1em").PadsOwnSpace := by decide +kernel
  have law := findings_eq_of_bareForeign_eq hbare hspace "math" c checks
  exact ⟨hbare, hspace, law.1, law.2, by decide +kernel⟩

/-- The width of a foreign space counts where a padded element reads it. -/
example :
    let padded (width : String) : Node := .root
      { name := ⟨mathNamespace, "mpadded"⟩
        attributes := []
        content := .element ⟨mathNamespace, "mi"⟩ [] (.chars "x" .nil) <|
          .element ⟨"urn:x", "mspace"⟩ [(⟨"", "width"⟩, width)] .nil .nil }
    Ambiguity.negativeSpace (padded "2em") = [] ∧ Ambiguity.negativeSpace (padded "-1em") ≠ [] := by
  decide +kernel

end MathLint

import MathLint.Schema.Catalog
import MathLint.Schema.Loose

/-!
# Schema bundles and rule sets

A `Bundle` is the schema of one version: the rules of the catalog with the version's overlays
applied. A `RuleSet` adds the linter's own overrides and answers for a tag.

* `Bundle.build`: the bundle of a version.
* `RuleSet.build`: the rule set of a bundle under overrides.
* `RuleSet.ofVersion`: the rule set that the linter works with.
-/

namespace MathLint

/-- An attribute that a version allows on every presentation element. -/
structure Overlay where
  id : String
  description : String
  attributeName : String
  deriving DecidableEq, Repr

/-- The overlays of a version. -/
def Version.overlays : Version → List Overlay
  | .mathml3 => []
  | .mathml4 => [
    { id := "mathml4-intent-global",
      description := "Allow \"intent\" across presentation elements for MathML3-based pipelines " ++
        "adopting MathML4 intent authoring.",
      attributeName := "intent" },
    { id := "mathml4-arg-global",
      description := "Allow \"arg\" across presentation elements so intent expressions can " ++
        "reference children by name.",
      attributeName := "arg" }]

/-- The attributes that a version knows. -/
def Version.attributes : Version → List AttributeDefinition
  | .mathml3 => Catalog.attributes
  | .mathml4 => Catalog.attributes ++ Catalog.intentAttributes

/-- The schema of one version. -/
structure Bundle where
  version : Version
  overlays : List Overlay
  presentation : List Rule
  content : List Rule
  universalAttributes : List String
  attributes : List AttributeDefinition

namespace Bundle

/-- The schema of a version, with or without the entry for event handlers in the attribute sets of
the rules. -/
def build (version : Version) (withHandlers : Bool) : Bundle :=
  let keep (attributes : List String) := attributes.filter fun a => withHandlers || a != "on*"
  { version
    overlays := version.overlays
    presentation := Catalog.presentation.map fun r =>
      { r with attributes := keep r.attributes ++ version.overlays.map (·.attributeName) }
    content := Catalog.content.map fun r => { r with attributes := keep r.attributes }
    universalAttributes := Catalog.universal
    attributes := version.attributes }

/-- The bundle of a version named by a loosely typed value; a value that counts as false names
version 3. -/
def ofLoose (version : Value) (withHandlers : Bool) : Except Fault Bundle := do
  let name ← if version.truthy then Loose.name version else pure Version.mathml3.name
  match Version.ofName? name with
  | some v => return build v withHandlers
  | none => .error (.unsupportedVersion (← version.shown))

/-- The rules of all elements. -/
def rules (b : Bundle) : List Rule := b.presentation ++ b.content

/-- The rule of a tag, before overrides. -/
def rule? (b : Bundle) (tag : String) : Option Rule := b.rules.find? (·.tag == tag)

/-- The tags of the presentation elements, in catalog order. -/
def presentationTags (b : Bundle) : List String := b.presentation.map (·.tag)

/-- The tags of the content elements. -/
def contentTags (b : Bundle) : List String := b.content.map (·.tag)

/-- The tags of all elements. -/
def knownTags (b : Bundle) : List String := b.rules.map (·.tag)

/-- The names of the deprecated attributes. -/
def deprecatedAttributes (b : Bundle) : List String :=
  (b.attributes.filter (·.deprecated)).map (·.name)

end Bundle

/-! ## Overrides of the linter -/

/-- The attributes of intent annotations. -/
def intentAttributes : List String := ["intent", "arg"]

/-- The overrides of the linter, by tag. An `mstyle` may carry any attribute that it passes on. -/
def localOverrides : List (String × Override) :=
  [("math", { attributes := intentAttributes ++ ["display"], arity := some ⟨none, some 1⟩ }),
    ("semantics", { attributes := intentAttributes, arity := some ⟨none, some 1⟩ }),
    ("mlabeledtr", { attributes := intentAttributes, arity := some ⟨none, some 2⟩ }),
    ("mstyle", { attributes := [
      "form", "fence", "separator", "lspace", "rspace", "stretchy", "symmetric", "maxsize",
      "minsize", "largeop", "movablelimits", "accent", "accentunder", "linethickness", "numalign",
      "denomalign", "bevelled", "notation", "scriptsizemultiplier", "scriptminsize",
      "infixlinebreakstyle", "decimalpoint"] })] ++
  ["mrow", "mi", "mn", "mo", "mtext", "mfrac", "msup", "msub", "msubsup", "msqrt", "mroot",
    "mfenced", "mtable", "mtr", "mtd"].map fun tag => (tag, { attributes := intentAttributes })

/-- A schema with overrides applied. -/
structure RuleSet where
  bundle : Bundle
  rules : List Rule
  globalAttributes : List String

namespace RuleSet

/-- The rule set of a bundle under overrides, which are given by tag. -/
def build (bundle : Bundle) (overrides : List (String × Override)) : RuleSet :=
  { bundle
    rules := bundle.rules.map fun r =>
      match overrides.lookup r.tag with
      | some o => r.merge o
      | none => r
    globalAttributes := bundle.universalAttributes }

/-- The rule set of a bundle under overrides that are given by tag as loosely typed values. Only
those for tags of the bundle are looked at, in its order. -/
def buildLoose (bundle : Bundle) (overrides : List (String × Value)) : Except Fault RuleSet := do
  let given := bundle.knownTags.filterMap fun tag => (overrides.lookup tag).map fun v => (tag, v)
  return build bundle (← given.mapM fun (tag, v) => return (tag, ← Loose.override v))

/-- The rule set for version 3. -/
def mathml3 : RuleSet := build (Bundle.build .mathml3 true) localOverrides

/-- The rule set for version 4. -/
def mathml4 : RuleSet := build (Bundle.build .mathml4 true) localOverrides

/-- The rule set that the linter works with for a version. -/
def ofVersion : Version → RuleSet
  | .mathml3 => mathml3
  | .mathml4 => mathml4

/-- The rule set of a version name in any case; an unknown name gives that of version 3. -/
def ofName (name : String) : RuleSet :=
  ofVersion ((Version.ofName? (Text.lower name)).getD .mathml3)

variable (s : RuleSet)

/-- The rule of a tag in any case. -/
def rule? (tag : String) : Option Rule :=
  let tag := Text.lower tag
  s.rules.find? (·.tag == tag)

/-- Whether a tag in any case is known. -/
def knows (tag : String) : Bool := s.bundle.knownTags.contains (Text.lower tag)

/-- Whether a tag in any case is one of content markup. -/
def isContent (tag : String) : Bool := s.bundle.contentTags.contains (Text.lower tag)

/-- The tiers of the specification that a tag in any case belongs to. -/
def specs (tag : String) : List String :=
  match s.bundle.rule? (Text.lower tag) with
  | some r => r.specs
  | none => []

end RuleSet

end MathLint

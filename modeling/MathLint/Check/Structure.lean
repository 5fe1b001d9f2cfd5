import MathLint.Check.Context
import MathLint.Gather
import MathLint.Node

/-!
# Structural checks

Each check here looks at one node and reports where it departs from the schema: its tag, its parent,
its attributes and their values, its children.
-/

namespace MathLint.Structure

variable (c : Context) (n : Node)

/-! ## Elements -/

/-- Whether an element of content markup stands in an annotation where that is allowed. -/
def isAnnotationContent : Bool :=
  c.profile.contentInAnnotations && n.hasAncestor "annotation-xml" && c.rules.isContent n.tag

/-- Reports a known element outside the subset of the profile. -/
def boundary : Except Fault (List Finding) := do
  if !c.profile.boundaryWarnings then return []
  let tier ← c.profile.subset.tier
  if (c.rules.specs n.tag).contains tier || isAnnotationContent c n then return []
  return [Diagnostic.outsideSubset.finding .warn
    s!"Element <{n.tag}> is not part of {tier} (active profile: {c.profile.id})."]

/-- Reports an element whose rule marks it as legacy. -/
def legacy : List Finding :=
  if (c.rules.rule? n.tag).any (·.deprecated) then
    [Diagnostic.deprecatedElement.finding (if c.profile.isCore then .error else .warn)
      s!"Element <{n.tag}> is legacy in many workflows. Prefer modern structure where possible."]
  else []

/-- Checks the tag: whether it is known, in the subset, and current. -/
def tag : Except Fault (List Finding) := do
  if !c.rules.knows n.tag then
    return [Diagnostic.unknownTag.finding .warn
      s!"Element <{n.tag}> is not recognized in the current lint profile."]
  return (← boundary c n) ++ legacy c n

/-- Whether the rule of a parent lists its children, but not a tag. -/
def rejects (parent : Node) (tag : String) : Bool :=
  (c.rules.rule? parent.tag).any fun r => !r.acceptsAnyChild && !r.children.contains tag

/-- Checks that an element that is tied to some parents stands in one of them. A parent that lists
its children reports the misplacement itself. -/
def parent : List Finding :=
  match c.rules.rule? n.tag with
  | none => []
  | some rule =>
    let excused (p : Node) := rule.onlyValidIn.contains p.tag || rejects c p n.tag
    if rule.onlyValidIn.isEmpty || n.parent?.any excused then []
    else
      let place := match n.parent? with
        | some p => s!"inside <{p.tag}>"
        | none => "as the document root"
      let expected := ", ".intercalate ((inOrder rule.onlyValidIn).map fun t => s!"<{t}>")
      [Diagnostic.misplacedElement.finding .warn
        s!"<{n.tag}> appears {place}; it is only valid inside {expected}."]

/-! ## Attributes -/

/-- Whether a name is that of a namespace declaration or belongs to XML itself. -/
def isReservedName (name : String) : Bool :=
  name == "xmlns" || Text.beginsWith "xmlns:" name || Text.beginsWith "xml:" name

/-- The attributes of `math` that renderers ignore. -/
def ignoredOnMath : List String := ["macros", "mode"]

/-- The names that the rule of a node and the rules for all nodes allow. -/
def allowedAttributes : List String :=
  c.rules.globalAttributes ++ ((c.rules.rule? n.tag).map (·.attributes)).getD []

/-- Checks that an attribute of a node is known. Deprecated attributes are for another check. -/
def attributeName (name : String) : List Finding :=
  if isReservedName name then []
  else if n.tag == "math" && ignoredOnMath.contains name then
    [Diagnostic.ignoredAttribute.finding .warn
      s!"Attribute \"{name}\" on <math> is deprecated and ignored by modern renderers."]
  else if c.metadataPrefixes.any fun start => Text.beginsWith start name then
    if c.ignoreMetadata then []
    else
      [Diagnostic.unknownAttribute.finding .warn
        s!"Attribute \"{name}\" on <{n.tag}> is renderer metadata, not MathML."]
  else if c.deprecatedAttributes.contains name && !ignoredOnMath.contains name then []
  else if allowsAttribute (allowedAttributes c n) name then []
  else
    [Diagnostic.unknownAttribute.finding .warn
      s!"Attribute \"{name}\" is not recognized on <{n.tag}>."]

/-- Checks that the attributes are known. -/
def attributes : List Finding := n.attributes.flatMap fun a => attributeName c n a.1

/-- The attributes that are deprecated on a node. -/
def deprecatedNames : List String :=
  let byRule := ((c.rules.rule? n.tag).map (·.deprecatedAttributes)).getD []
  (c.deprecatedAttributes ++ byRule).filter fun name => !ignoredOnMath.contains name

/-- Checks for deprecated attributes. -/
def deprecatedAttributes : List Finding :=
  (n.attributes.filter fun a => (deprecatedNames c n).contains a.1).map fun a =>
    Diagnostic.deprecatedAttribute.finding .warn
      (s!"Attribute \"{a.1}\" on <{n.tag}> is deprecated; use CSS or " ++
        "mathvariant-free markup instead.")

/-- Checks that one of the sets of required attributes is there. -/
def requiredAttributes : List Finding :=
  match c.rules.rule? n.tag with
  | none => []
  | some rule =>
    if rule.requiredAttributes.isEmpty || rule.requiredAttributes.any (·.all n.hasAttribute) then []
    else
      let wanted := " or ".intercalate (rule.requiredAttributes.map fun group =>
        "+".intercalate ((inOrder group).map fun name => s!"\"{name}\""))
      [Diagnostic.missingAttribute.finding .warn s!"<{n.tag}> requires {wanted}."]

/-- Checks the value of an attribute against a rule that applies to it. -/
def valueAgainst (name value : String) (rule : ValueRule) : Except Fault (List Finding) := do
  if value.isEmpty then
    return [Diagnostic.invalidValue.finding .warn
      s!"Attribute \"{name}\" on <{n.tag}> is empty; expected {rule.grammar.expected}."]
  if ← rule.grammar.accepts value then return []
  return [Diagnostic.invalidValue.finding .warn
    s!"Attribute \"{name}\" on <{n.tag}> has value \"{value}\"; expected {rule.grammar.expected}."]

/-- Checks the values of the attributes. -/
def attributeValues : Except Fault (List Finding) :=
  gather
    (fun a =>
      gather (valueAgainst n a.1 (Text.trim a.2))
        (c.valueRules.filter fun r => r.attributeName == a.1 && r.appliesTo n.tag))
    n.attributes

/-- The styles of `mathvariant` that are widely supported. -/
def commonVariants : List String := [
  "normal", "bold", "italic", "bold-italic", "double-struck", "script", "fraktur", "sans-serif",
  "monospace"]

/-- The styles of `mathvariant` that the version knows. -/
def knownVariants : List String :=
  match c.rules.bundle.attributes.find? (·.name == "mathvariant") with
  | some d => d.type.values?.getD []
  | none => []

/-- Checks the use of `mathvariant`. -/
def mathvariant : List Finding :=
  match n.attribute? "mathvariant" with
  | none => []
  | some value =>
    let value := Text.trim value
    (if n.tag == "mi" then []
    else
      [Diagnostic.mathvariantUsage.finding .warn
        (s!"mathvariant on <{n.tag}> is discouraged; use styled Unicode " ++
          "characters or CSS instead.")]) ++
    if (knownVariants c).contains value && !commonVariants.contains value then
      let common := ", ".intercalate commonVariants
      [Diagnostic.uncommonMathvariant.finding .info
        s!"mathvariant=\"{value}\" is rarely supported. Common values: {common}."]
    else []

/-! ## Children -/

/-- Checks that the rule of the node lists its children. -/
def children : List Finding :=
  (n.children.filter fun m => !m.isForeign && rejects c n m.tag).map fun m =>
    Diagnostic.invalidChild.finding .warn s!"<{m.tag}> is not listed as a valid child of <{n.tag}>."

/-- Checks the number of children. -/
def arity : List Finding :=
  match c.rules.rule? n.tag with
  | none => []
  | some rule =>
    let found := n.children.length
    let roles :=
      if rule.childRoles.isEmpty then "" else " (" ++ ", ".intercalate rule.childRoles ++ ")"
    let exact := (rule.arity.bind (·.exact)).toList.filter (· ≠ (found : Int))
    let least := (rule.arity.bind (·.min)).toList.filter (fun least => (found : Int) < least)
    (exact.map fun k => Diagnostic.childCount.finding .warn
      s!"<{n.tag}> should have exactly {k} element children{roles}; found {found}.") ++
    (least.map fun k => Diagnostic.tooFewChildren.finding .warn
      s!"<{n.tag}> should have at least {k} element children; found {found}.")

/-- The elements that hold text. -/
def tokenTags : List String := ["mi", "mn", "mo", "mtext", "ms"]

/-- Whether a node may stand in an element for text. -/
def isInnerToken (m : Node) : Bool := m.tag == "mglyph" || m.tag == "malignmark"

/-- Checks that an element for text holds no other elements than glyphs and marks. -/
def tokens : List Finding :=
  if tokenTags.contains n.tag && n.children.any fun m => !isInnerToken m then
    [Diagnostic.tokenStructure.finding .warn
      s!"<{n.tag}> should generally contain text content, not nested elements."]
  else []

/-! ## Support in MathML Core -/

/-- A reason why MathML Core does not support something well: the tier, and the concern. -/
abbrev Concern := String × String

/-- What MathML Core does not have. -/
def missing (concern : String) : Concern := ("non-core", concern)

/-- What MathML Core treats in its own way. -/
def atRisk (concern : String) : Concern := ("at-risk", concern)

/-- The elements that MathML Core does not support well. -/
def elementConcerns : List (String × Concern) := [
  ("mfenced", missing "browsers render it as a plain row without the fences"),
  ("menclose", missing "notations are not drawn by browser-native rendering"),
  ("mlabeledtr", missing "the label cell is not displayed"),
  ("maligngroup", missing "alignment groups are ignored"),
  ("malignmark", missing "alignment marks are ignored"),
  ("mglyph", missing "custom glyph images are not rendered"),
  ("maction", atRisk "only the selected child is rendered; actions are not interactive"),
  ("semantics", atRisk "only the first child is rendered; annotations are hidden")]

/-- The attributes that MathML Core does not support well. -/
def attributeConcerns : List (String × Concern) := [
  ("numalign", missing "fraction alignment is ignored"),
  ("denomalign", missing "fraction alignment is ignored"),
  ("bevelled", missing "bevelled fractions render upright"),
  ("notation", missing "enclosure notations are not drawn"),
  ("lquote", missing "string quotes cannot be customized"),
  ("rquote", missing "string quotes cannot be customized"),
  ("open", missing "mfenced delimiters are not rendered"),
  ("close", missing "mfenced delimiters are not rendered"),
  ("separators", missing "mfenced separators are not rendered"),
  ("align", atRisk "table alignment needs CSS in browser-native rendering"),
  ("rowalign", atRisk "table alignment needs CSS in browser-native rendering"),
  ("columnalign", atRisk "table alignment needs CSS in browser-native rendering"),
  ("actiontype", atRisk "maction behaviour is not implemented by browsers")]

/-- The concern about an attribute of a node. -/
def attributeConcern? (name value : String) : Option Concern :=
  if name == "mathvariant" && (n.tag != "mi" || Text.trim value != "normal") then
    some (atRisk "MathML Core only honours mathvariant=\"normal\" on <mi>")
  else attributeConcerns.lookup name

/-- Checks for elements and attributes that MathML Core does not support well. -/
def coreSupport : List Finding :=
  ((elementConcerns.lookup n.tag).toList.map fun (tier, concern) =>
    Diagnostic.coreElement.finding c.coreSeverity
      s!"<{n.tag}> is {tier} for MathML Core: {concern}.") ++
  n.attributes.flatMap fun (name, value) =>
    (attributeConcern? n name value).toList.map fun (tier, concern) =>
      Diagnostic.coreAttribute.finding c.coreSeverity
        s!"Attribute \"{name}\" on <{n.tag}> is {tier} for MathML Core: {concern}."

end MathLint.Structure

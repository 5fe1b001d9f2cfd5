import MathLint.Schema.Catalog
import MathLint.Schema.Grammar
import MathLint.Schema.Loose

/-!
# Rules for attribute values

A `ValueRule` gives the grammar of an attribute on some elements.

* `ValueRule.ofCatalog`: the rules that follow from attribute definitions. On `mpadded` some lengths
  have a grammar of their own.
* `AttributeDefinition.ofLoose`: a definition given as a loosely typed value.
-/

namespace MathLint

/-- The grammar of an attribute on the elements of some tags. -/
structure ValueRule where
  attributeName : String
  grammar : Grammar
  /-- The tags of the elements; all if none is given. -/
  tags : Option (List String) := none
  excludedTags : List String := []
  deriving DecidableEq, Repr

namespace ValueRule

/-- Whether a rule applies to the elements of a tag. -/
def appliesTo (r : ValueRule) (tag : String) : Bool :=
  !r.excludedTags.contains tag && r.tags.all (·.contains tag)

/-- The lengths that have a grammar of their own on `mpadded`. -/
def paddedAttributes : List String := ["width", "height", "depth", "lspace", "voffset"]

/-- Attributes without a grammar, whatever their type is. -/
def uncheckedAttributes : List String := ["autofocus", "data-*", "on*"]

/-- The grammar of a type of values. -/
def grammar? : AttributeType → Option Grammar
  | .string | .uri | .lengthOrPseudo | .other _ => none
  | .boolean => some (.oneOf ["true", "false"])
  | .integer | .signedInteger => some .integer
  | .positiveInteger => some .positiveInteger
  | .length => some (.length [])
  | .lengthOrKeyword keywords => some (.length keywords)
  | .color => some .color
  | .enum values => some (.oneOf values)
  | .stringList values => if values.isEmpty then none else some (.listOf values)

/-- Whether a type is one of lengths. -/
def isLengthType : AttributeType → Bool
  | .length | .lengthOrKeyword _ => true
  | _ => false

/-- The rule that follows from a definition. -/
def ofDefinition? (d : AttributeDefinition) : Option ValueRule :=
  if d.type == .string || d.type == .uri || uncheckedAttributes.contains d.name then none
  else if d.name == "align" then some { attributeName := d.name, grammar := .alignment }
  else
    (grammar? d.type).map fun grammar =>
      { attributeName := d.name, grammar,
        excludedTags :=
          if isLengthType d.type && paddedAttributes.contains d.name then ["mpadded"] else [] }

/-- The rules for `mpadded`. -/
def padded : List ValueRule :=
  paddedAttributes.map fun name =>
    { attributeName := name, grammar := .paddedLength, tags := some ["mpadded"] }

/-- The rules that follow from attribute definitions, in their order, and those for `mpadded`. -/
def ofCatalog (definitions : List AttributeDefinition) : List ValueRule :=
  definitions.filterMap ofDefinition? ++ padded

end ValueRule

namespace AttributeDefinition

/-- Definitions sorted by name. -/
def sorted (definitions : List AttributeDefinition) : List AttributeDefinition :=
  definitions.mergeSort fun a b => decide (a.name ≤ b.name)

/-- The type of an attribute's values from its name and the loosely typed list of words. The list is
looked at only where the attribute has a grammar that needs it. -/
def looseType (name type : String) (values : Value) : Except Fault AttributeType :=
  let words :=
    if name == "align" || ValueRule.uncheckedAttributes.contains name then .ok []
    else Loose.words values
  match type with
  | "string" => .ok .string
  | "uri" => .ok .uri
  | "boolean" => .ok .boolean
  | "integer" => .ok .integer
  | "integer-or-signed" => .ok .signedInteger
  | "positive-integer" => .ok .positiveInteger
  | "length" => if values.truthy then .lengthOrKeyword <$> words else .ok .length
  | "length-or-keyword" => .lengthOrKeyword <$> if values.truthy then words else .ok []
  | "length-or-pseudo" => .ok .lengthOrPseudo
  | "color" => .ok .color
  | "enum" => .enum <$> words
  | "string-list" => .stringList <$> if values.truthy then words else .ok []
  | _ => .ok (.other type)

/-- The definition of an attribute given as a loosely typed value. -/
def ofLoose (name : String) : Value → Except Fault AttributeDefinition
  | .object fields => do
    let type ← ((fields.lookup "type").getD .null).key
    let type := match type with
      | .text s => s
      | _ => ""
    return { name, type := ← looseType name type ((fields.lookup "values").getD .null) }
  | v => .error (.noOperation v.kind "get")

/-- The definitions of attributes given as a loosely typed value. -/
def catalogOfLoose : Value → Except Fault (List AttributeDefinition)
  | .object fields => fields.mapM fun (name, v) => ofLoose name v
  | v => .error (.noFields v.kind)

end AttributeDefinition

end MathLint

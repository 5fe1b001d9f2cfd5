import MathLint.Lint

/-!
# Intent suggestions

`Intent.suggest` looks at every element of a source and suggests where an `intent` attribute would
make the meaning clear, or is not written well. It never fails on bad markup.
-/

namespace MathLint

/-- A suggestion about intent. -/
inductive Suggestion where
  | noInput
  | skipped
  | emptyIntent
  | formatting
  | characters
  | grouping
  | relation
  | fenced
  | granularity (tag : String)
  | reasonable
  deriving DecidableEq, Repr

namespace Suggestion

/-- The severity of a suggestion. -/
def severity : Suggestion → Severity
  | reasonable => .ok
  | skipped | emptyIntent | characters => .warn
  | _ => .info

/-- The title of a suggestion. -/
def title : Suggestion → String
  | noInput => "No input"
  | skipped => "Intent analysis skipped"
  | emptyIntent => "Empty intent"
  | formatting => "Intent formatting"
  | characters => "Intent characters"
  | grouping => "Grouped expression"
  | relation => "Relational structure"
  | fenced => "Fenced structure"
  | granularity _ => "Check granularity"
  | reasonable => "Intent looks reasonable"

/-- A suggestion in words. -/
def message : Suggestion → String
  | noInput => "Add MathML to receive intent suggestions."
  | skipped => "Intent suggestions require valid XML/MathML."
  | emptyIntent =>
    "An empty intent attribute was found. Remove it or provide a valid intent expression."
  | formatting => "Intent expression has repeated whitespace; normalize spacing for readability."
  | characters => "Intent expression contains unusual characters that may not parse as expected."
  | grouping =>
    "This <mrow> groups multiple children. Consider intent if grouping is " ++
      "semantically significant."
  | relation =>
    "Relation operator detected in <mrow>. Consider intent like \"equation($lhs,$rhs)\" " ++
      "when semantics matter."
  | fenced =>
    "Fenced expression often encodes function application; consider explicit intent " ++
      "for function-call semantics."
  | granularity tag =>
    s!"Token-level intent on <{tag}> may be unnecessary unless disambiguation is needed."
  | reasonable => "No obvious intent issues detected for current heuristics."

/-- The address of an explanation. -/
def link : Suggestion → String
  | grouping | relation | fenced | granularity _ =>
    "https://w3c.github.io/mathml/#mixing-intent-and-presentation"
  | _ => Link.intent.url

/-- A suggestion as a loosely typed value. -/
def toValue (s : Suggestion) : Value :=
  .object [
    ("severity", .str s.severity.name),
    ("title", .str s.title),
    ("message", .str s.message),
    ("link", .str s.link)]

end Suggestion

/-- The suggestions for a source. -/
structure IntentReport where
  sourceLength : Nat
  suggestions : List Suggestion
  deriving DecidableEq, Repr

/-- A report as a loosely typed value. -/
def IntentReport.toValue (r : IntentReport) : Value :=
  .object [
    ("sourceLength", .int r.sourceLength),
    ("suggestions", .list (r.suggestions.map Suggestion.toValue))]

namespace Intent

/-- Whether white space is repeated in a text. -/
def hasRepeatedBlank : List Char → Bool
  | a :: b :: cs => (Text.isBlank a && Text.isBlank b) || hasRepeatedBlank (b :: cs)
  | _ => false

/-- The characters of intent expressions, all of them ASCII. -/
def isUsual (c : Char) : Bool :=
  c.toNat < 0x80 &&
    (c.isAlphanum || (0x09 ≤ c.toNat && c.toNat ≤ 0x0D) || " ()_:-*+,./".toList.contains c)

variable (n : Node)

/-- Looks at how an intent is written. -/
def expression : List Suggestion :=
  match n.attribute? "intent" with
  | none => []
  | some value =>
    let intent := Text.trim value
    if intent.isEmpty then [.emptyIntent]
    else
      (if hasRepeatedBlank intent.toList then [.formatting] else []) ++
      (if intent.toList.all isUsual then [] else [.characters])

/-- Looks for groups without intent. -/
def grouping : List Suggestion :=
  if n.tag == "mrow" && 3 ≤ n.children.length && !n.hasAttribute "intent" then [.grouping] else []

/-- The operators that state a relation. -/
def relations : List String := ["=", "<", ">", "\u2264", "\u2265"]

/-- Looks for relations in a group without intent. -/
def relation : List Suggestion :=
  if n.tag == "mo" && relations.contains n.trimmed &&
      n.parent?.any fun p => p.tag == "mrow" && !p.hasAttribute "intent" then [.relation] else []

/-- Looks for fences without intent. -/
def fenced : List Suggestion :=
  if n.tag == "mfenced" && !n.hasAttribute "intent" then [.fenced] else []

/-- Looks for intent on tokens of one character. -/
def granularity : List Suggestion :=
  if (n.tag == "mi" || n.tag == "mn") && n.hasAttribute "intent" && n.trimmed.length ≤ 1 then
    [.granularity n.tag]
  else []

/-- The suggestions for a node. -/
def atNode : List Suggestion :=
  expression n ++ grouping n ++ relation n ++ fenced n ++ granularity n

/-- The suggestions for a source, each once. -/
def suggestions (read : XmlReader) (source : String) : List Suggestion :=
  if Text.isBlankText source then [.noInput]
  else
    match read source with
    | .error _ => [.skipped]
    | .ok root =>
      let found := (Node.root root).subtree.flatMap atNode
      if found.isEmpty then [.reasonable] else distinct found

/-- The report on a source. -/
def suggest (read : XmlReader) (source : String) : IntentReport :=
  { sourceLength := source.length, suggestions := suggestions read source }

/-- The report on a source given as a loosely typed value; one that counts as false is the empty
source. -/
def suggestLoose (read : XmlReader) (source : Value) : Except Fault IntentReport :=
  source.asText.map (suggest read)

end Intent

end MathLint

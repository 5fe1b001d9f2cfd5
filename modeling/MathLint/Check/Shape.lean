import MathLint.Check.FunctionName
import MathLint.Node
import MathLint.Runs
import MathLint.Text.Letter
import MathLint.Text.Pattern

/-!
# Shapes of notation

Predicates on nodes that the checks for ambiguous notation share: rows, scripts, indices, letters,
function names, large operators and invisible operators.
-/

namespace MathLint.Shape

/-! ## Characters -/

/-- The invisible operator between a function and its argument. -/
def functionApplication : String := "\u2061"

/-- The invisible multiplication sign. -/
def invisibleTimes : String := "\u2062"

/-- The invisible separator of indices. -/
def invisibleSeparator : String := "\u2063"

/-- The invisible plus sign. -/
def invisiblePlus : String := "\u2064"

/-- All invisible operators. -/
def invisibleOperators : List String :=
  [functionApplication, invisibleTimes, invisibleSeparator, invisiblePlus]

/-- The characters that close a group. -/
def closingFences : List String := [
  ")", "]", "\x7d", "\u27E9", "\u232A", "\u3009", "\u300B", "\u300D", "\u300F", "\u3011", "\u3015",
  "\u3017", "\u3019", "\u301B", "\uFF09", "\uFF3D", "\uFF5D", "\uFF60", "\u2986", "\u2309",
  "\u230B"]

/-- The operators that take limits and an operand. -/
def largeOperators : List String := [
  "\u2211", "\u220F", "\u2210", "\u222B", "\u222C", "\u222D", "\u222E", "\u222F", "\u2230",
  "\u22C0", "\u22C1", "\u22C2", "\u22C3", "\u2A00", "\u2A01", "\u2A02", "\u2A04", "\u2A06"]

/-- The operators that separate indices. -/
def commaOperators : List String := [",", "\uFF0C", invisibleSeparator]

/-! ## Tags -/

/-- The elements whose children stand in a row. -/
def rowTags : List String :=
  ["math", "mrow", "msqrt", "menclose", "mstyle", "merror", "mpadded", "mphantom", "mtd"]

/-- The elements with a base and one or two scripts or limits. -/
def limitTags : List String := ["msub", "msup", "msubsup", "munder", "mover", "munderover"]

/-- The elements with a base and scripts. -/
def scriptTags : List String := limitTags ++ ["mmultiscripts"]

/-- The elements that can be factors of a product. -/
def operandTags : List String := ["mi", "mn", "mrow", "mfrac", "msqrt", "mroot"] ++ scriptTags

/-! ## Nodes -/

/-- Whether a node has a tag and a text that is one of several. -/
def textIs (n : Node) (tag : String) (texts : List String) : Bool :=
  n.tag == tag && texts.contains n.trimmed

/-- Whether a node is an identifier of one letter. -/
def isSingleLetter (n : Node) : Bool :=
  n.tag == "mi" &&
    match n.trimmed.toList with
    | [c] => Text.isLetter c
    | _ => false

/-- Whether a node is an identifier of one small ASCII letter. -/
def isSingleLower (n : Node) : Bool :=
  n.tag == "mi" &&
    match n.trimmed.toList with
    | [c] => c.isLower
    | _ => false

/-- Whether a node is a subscript, or a script of `mmultiscripts`. -/
def isIndexLike (n : Node) : Bool :=
  match n.parent? with
  | none => false
  | some p =>
    if p.tag == "msub" || p.tag == "msubsup" then n.index == 1
    else p.tag == "mmultiscripts" && 1 ≤ n.index && n.tag != "mprescripts"

/-- Whether the children of a node stand in a row that is no index. -/
def isRow (n : Node) : Bool := rowTags.contains n.tag && !isIndexLike n

/-- Whether a node is a token with a large operator. -/
def isLargeOperatorToken (n : Node) : Bool :=
  (n.tag == "mo" || n.tag == "mi") && (largeOperators.contains n.trimmed || n.trimmed == "lim")

/-- Whether a node is a large operator, with or without limits. -/
def isLargeOperator (n : Node) : Bool :=
  isLargeOperatorToken n || (limitTags.contains n.tag && n.firstChild?.any isLargeOperatorToken)

/-- Whether a node is an identifier with a function name. -/
def isFunctionName (n : Node) : Bool := textIs n "mi" FunctionName.all

/-- Whether a node is a function name, with or without scripts. -/
def isFunctionHead (n : Node) : Bool :=
  isFunctionName n || (limitTags.contains n.tag && n.firstChild?.any isFunctionName)

/-- The indices of the nodes that belong to a run of at least three letters. -/
def wordIndices (nodes : List Node) : List Nat :=
  ((runs isSingleLetter nodes).filter fun run => 3 ≤ run.length).flatten.map Node.index

/-- The pairs of neighbours in a list. -/
def neighbours {α : Type} (as : List α) : List (α × α) := as.zip as.tail

/-! ## Numbers -/

open Text Pattern

/-- Decimal digits of any script, at least one. -/
def digits : Pattern := oneOrMore (char isDecimal)

/-- Numbers: a sign, digits in groups that a point or comma separates, a fraction, and an
exponent. -/
def numberPattern : Pattern :=
  sequence [
    optional (char fun c => c == '+' || c == '-'),
    either
      (sequence [
        digits,
        many (append (char fun c => c == '.' || c == ',') digits),
        optional (append (exactly '.') (many (char isDecimal)))])
      (append (exactly '.') digits),
    optional (sequence [
      char fun c => c == 'e' || c == 'E',
      optional (char fun c => c == '+' || c == '-'),
      digits])]

/-- The first group of a grouped number: one to three digits. -/
def headPattern : Pattern := between (char isDecimal) 1 2

/-- The last group of a grouped number: three digits, and a fraction. -/
def tailPattern : Pattern :=
  append (between (char isDecimal) 3 0) (optional (append (exactly '.') digits))

/-- Whether a text is a number. -/
def isNumber (s : String) : Bool := (line numberPattern).accepts s.toList

/-- Whether a text is the first group of a grouped number. -/
def isHeadGroup (s : String) : Bool := (line headPattern).accepts s.toList

/-- Whether a text is the last group of a grouped number. -/
def isTailGroup (s : String) : Bool := (line tailPattern).accepts s.toList

end MathLint.Shape

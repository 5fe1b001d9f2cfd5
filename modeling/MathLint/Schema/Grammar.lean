import MathLint.Fault
import MathLint.Text.Blank
import MathLint.Text.Digit
import MathLint.Text.Pattern

/-!
# Grammars of attribute values

A `Grammar` is a set of attribute values. Most of them are given by patterns, which ignore one line
feed at the end.

* `Grammar.lengthPattern`: lengths, and `Grammar.paddedPattern`: lengths that may refer to the size
  of the content.
* `Grammar.accepts`: whether a value is in the set. It fails on digits that are read as a number and
  stand for none, and on numbers that are too long.
-/

namespace MathLint

/-- A set of attribute values. -/
inductive Grammar where
  | oneOf (names : List String)
  | listOf (names : List String)
  | alignment
  | positiveInteger
  | integer
  | length (keywords : List String)
  | paddedLength
  | color
  deriving DecidableEq, Repr

namespace Grammar

open Text Pattern

/-! ## Patterns -/

/-- A plus or minus sign, or none. -/
def signPattern : Pattern := optional (char fun c => c == '+' || c == '-')

/-- Decimal digits of any script, at least one. -/
def digitsPattern : Pattern := oneOrMore (char isDecimal)

/-- A signed number with or without a fraction; digits may be missing on one side of the point. -/
def numberPattern : Pattern :=
  sequence [
    signPattern,
    either
      (append digitsPattern (optional (append (exactly '.') (many (char isDecimal)))))
      (append (exactly '.') digitsPattern)]

/-- The units of lengths. -/
def units : List String :=
  ["px", "in", "cm", "mm", "pt", "pc", "em", "ex", "rem", "ch", "vw", "vh", "mu"]

/-- The named spaces, from `negativeveryverythickmathspace` to `veryverythickmathspace`. -/
def namedSpacePattern : Pattern :=
  sequence [
    optional (anyCase "negative"),
    optional (anyCase "very"),
    optional (anyCase "very"),
    anyOf [anyCase "thin", anyCase "thick", anyCase "medium"],
    anyCase "mathspace"]

/-- Lengths: a number with an optional unit, or a named space. -/
def lengthPattern : Pattern :=
  either
    (sequence [
      numberPattern,
      many (char isBlank),
      optional (anyOf (units.map anyCase ++ [exactly '%']))])
    namedSpacePattern

/-- Lengths that may refer to the size of the content. -/
def paddedPattern : Pattern :=
  either
    (sequence [
      numberPattern,
      optional (exactly '%'),
      optional (anyOf (units.map anyCase ++
        ["width", "height", "depth", "lspace"].map anyCase ++ [namedSpacePattern]))])
    (append signPattern namedSpacePattern)

/-- A hexadecimal digit. -/
def isHexDigit (c : Char) : Bool :=
  c.isDigit || ('a' ≤ c && c ≤ 'f') || ('A' ≤ c && c ≤ 'F')

/-- Colours: a name, three to eight hexadecimal digits, or a call of a colour function. -/
def colorPattern : Pattern :=
  anyOf [
    append (exactly '#') (between (char isHexDigit) 3 5),
    oneOrMore (char Char.isAlpha),
    sequence [
      anyOf [word "rgb", word "rgba", word "hsl", word "hsla"],
      exactly '(',
      many (char (· != ')')),
      exactly ')']]

/-- Whole numbers with an optional sign. -/
def integerPattern : Pattern := append signPattern digitsPattern

/-- Table alignments: a word, and optionally a row number. -/
def alignmentPattern : Pattern :=
  append
    (anyOf (["top", "bottom", "center", "baseline", "axis"].map word))
    (optional (append (oneOrMore (char isBlank)) integerPattern))

/-! ## Membership -/

/-- Whether a text is a length. -/
def isLength (v : String) : Bool := (line lengthPattern).accepts v.toList

/-- Whether a text without its spaces is a length that may refer to the size of the content. -/
def isPaddedLength (v : String) : Bool := (line paddedPattern).accepts (v.toList.filter (· != ' '))

/-- Whether a text consists of digits that stand for a positive number. Digits of any kind are read
as a number. -/
def isPositiveInteger (v : String) : Except Fault Bool :=
  if v.isEmpty || !v.toList.all isDigitLike then .ok false
  else
    match Integer.read v with
    | .ok n => .ok (decide (0 < n))
    | .error e => .error (.integer e)

/-- Whether a value is in the set. -/
def accepts : Grammar → String → Except Fault Bool
  | oneOf names, v => .ok (names.contains v)
  | listOf names, v => .ok ((words v).all names.contains)
  | alignment, v => .ok ((line alignmentPattern).accepts v.toList)
  | positiveInteger, v => isPositiveInteger v
  | integer, v => .ok ((line integerPattern).accepts v.toList)
  | length keywords, v => .ok (keywords.contains v || isLength v)
  | paddedLength, v => .ok (isPaddedLength v)
  | color, v => .ok ((line colorPattern).accepts v.toList)

/-- Whether a loosely typed value is in the set. A value that is no text is in none, and most sets
cannot be asked about it. -/
def acceptsLoose : Grammar → Value → Except Fault Bool
  | g, .str s => g.accepts s
  | oneOf _, v => do
    let _ ← v.key
    return false
  | listOf _, v => .error (.noOperation v.kind "split")
  | positiveInteger, v => .error (.noOperation v.kind "isdigit")
  | length _, v => do
    let _ ← v.key
    .error (.noSubject v.kind)
  | paddedLength, v => .error (.noOperation v.kind "replace")
  | alignment, v | integer, v | color, v => .error (.noSubject v.kind)

/-- The set in words. -/
def expected : Grammar → String
  | oneOf names => "one of " ++ ", ".intercalate names
  | listOf names => "a space-separated list of " ++ ", ".intercalate names
  | alignment => "top, bottom, center, baseline or axis, optionally followed by a row number"
  | positiveInteger => "a positive integer"
  | integer => "an integer"
  | length keywords =>
    "a length" ++ if keywords.isEmpty then "" else " or one of " ++ ", ".intercalate keywords
  | paddedLength => "a length, optionally relative to width, height or depth"
  | color => "a color"

end Grammar

end MathLint

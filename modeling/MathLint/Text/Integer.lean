import MathLint.Text.Blank
import MathLint.Text.Digit
import MathLint.Text.Quoted

/-!
# Integers in text

`Integer.read` reads a whole number: digits of any script, single underscores between them, a sign
before them and white space around them. A number of more than `Integer.maxDigits` digits is refused
before the rest of the text is looked at. `Integer.write` puts a whole number into decimal digits,
and refuses as many.
-/

namespace MathLint.Text.Integer

/-- Why a text is no integer, or an integer has no text. -/
inductive Fault where
  /-- The text has another form. -/
  | malformed (text : String)
  /-- The text has too many digits. -/
  | tooLong (digits : Nat)
  /-- The integer has too many digits to be written. -/
  | unwritable
  deriving DecidableEq, Repr

/-- The most digits that are read or written. -/
def maxDigits : Nat := 4300

/-- What is said of a fault. A text that is no integer is quoted, and its quoted form cut. -/
def Fault.message : Fault → String
  | .malformed text =>
    "invalid literal for int() with base 10: " ++ String.ofList ((quoted text).toList.take 200)
  | .tooLong digits =>
    s!"Exceeds the limit ({maxDigits} digits) for integer string conversion: value has {digits} " ++
      "digits; use sys.set_int_max_str_digits() to increase the limit"
  | .unwritable =>
    s!"Exceeds the limit ({maxDigits} digits) for integer string conversion; " ++
      "use sys.set_int_max_str_digits() to increase the limit"

/-- White space around an integer. The separators U+001C to U+001F do not count. -/
def isMargin (c : Char) : Bool := isBlank c && !(0x1C ≤ c.toNat && c.toNat ≤ 0x1F)

/-- The value and the number of the digits that open a text, and the text after them. `bar` says
that an underscore may not follow and a digit must. -/
def digitsFrom (value count : Nat) (bar : Bool) : List Char → Option (Nat × Nat × List Char)
  | [] => if bar then none else some (value, count, [])
  | c :: cs =>
    match decimalValue? c with
    | some d => digitsFrom (10 * value + d) (count + 1) false cs
    | none =>
      if bar then none
      else if c == '_' then digitsFrom value count true cs
      else some (value, count, c :: cs)

/-- A leading sign, true for a minus, and the text after it. -/
def sign : List Char → Bool × List Char
  | '-' :: cs => (true, cs)
  | '+' :: cs => (false, cs)
  | cs => (false, cs)

/-- The integer that a text stands for. -/
def read (text : String) : Except Fault Int :=
  let (negative, digits) := sign (text.toList.dropWhile isMargin)
  match digitsFrom 0 0 true digits with
  | none => .error (.malformed text)
  | some (value, count, rest) =>
    if maxDigits < count then .error (.tooLong count)
    else if rest.all isMargin then .ok (if negative then -(value : Int) else value)
    else .error (.malformed text)

/-- An integer in decimal digits. -/
def write (n : Int) : Except Fault String :=
  if maxDigits < (Nat.toDigits 10 n.natAbs).length then .error .unwritable else .ok (toString n)

end MathLint.Text.Integer

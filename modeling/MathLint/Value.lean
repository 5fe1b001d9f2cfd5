import MathLint.Distinct
import MathLint.Text.Integer

/-!
# Loosely typed values

Requests, options and schema fragments come as loosely typed values. A `Value` is one of them:
`null`, a truth value, a number, a text, a list, or an object with named fields.

* `Value.truthy`: whether a value counts as true.
* `Value.kind`: the name of its kind in messages.
* `Value.quoted`: the value as text, with texts in quotes, unless an integer in it is too long.
* `Value.pretty`: the value as indented JSON.
-/

namespace MathLint

/-- A loosely typed value. A decimal fraction `m / 10 ^ p` is given by `m` and `p`. -/
inductive Value where
  | null
  | bool (b : Bool)
  | int (n : Int)
  | fraction (mantissa : Int) (places : Nat)
  | str (s : String)
  | list (items : List Value)
  | object (fields : List (String × Value))
  deriving Inhabited, Repr

namespace Value

/-- Zero, the empty text, list and object, `false` and `null` count as false. -/
def truthy : Value → Bool
  | null => false
  | bool b => b
  | int n => n != 0
  | fraction m _ => m != 0
  | str s => !s.isEmpty
  | list items => !items.isEmpty
  | object fields => !fields.isEmpty

/-- The name of a value's kind in messages. -/
def kind : Value → String
  | null => "NoneType"
  | bool _ => "bool"
  | int _ => "int"
  | fraction _ _ => "float"
  | str _ => "str"
  | list _ => "list"
  | object _ => "dict"

/-- The text without the zeros at its end, but for its first character. -/
def trimZeros : List Char → List Char
  | [] => []
  | c :: cs => c :: (cs.reverse.dropWhile (· == '0')).reverse

/-- Digits with a point before the last `places` of them. There is at least one place, and no zero
at the end after it. -/
def pointed (digits : List Char) (places : Nat) : String :=
  let padded := List.replicate (places + 1 - digits.length) '0' ++ digits
  let whole := padded.take (padded.length - places)
  let rest := padded.drop (padded.length - places)
  String.ofList whole ++ "." ++ String.ofList (trimZeros (if rest.isEmpty then ['0'] else rest))

/-- Digits with a point behind the first of them, if there are more that count, and a power of ten.
The exponent has a sign and at least two digits. -/
def scaled (digits : List Char) (exponent : Int) : String :=
  let significant := match trimZeros digits with
    | first :: second :: rest => first :: '.' :: second :: rest
    | first => first
  let power := Nat.toDigits 10 exponent.natAbs
  String.ofList significant ++ (if exponent < 0 then "e-" else "e+") ++
    String.ofList (List.replicate (2 - power.length) '0' ++ power)

/-- A decimal fraction in digits. One below `10 ^ -4` or from `10 ^ 16` on has an exponent. -/
def fractionText (mantissa : Int) (places : Nat) : String :=
  let digits := Nat.toDigits 10 mantissa.natAbs
  let exponent : Int := digits.length - 1 - places
  (if mantissa < 0 then "-" else "") ++
    if mantissa = 0 || (-4 ≤ exponent && exponent < 16) then pointed digits places
    else scaled digits exponent

mutual

/-- A value as text, with texts in quotes. -/
def quoted : Value → Except Text.Integer.Fault String
  | null => .ok "None"
  | bool b => .ok (if b then "True" else "False")
  | int n => Text.Integer.write n
  | fraction m p => .ok (fractionText m p)
  | str s => .ok (Text.quoted s)
  | list items => return "[" ++ ", ".intercalate (← quotedItems items) ++ "]"
  | object fields => return "\x7b" ++ ", ".intercalate (← quotedFields fields) ++ "\x7d"

/-- The items of a list, quoted. -/
def quotedItems : List Value → Except Text.Integer.Fault (List String)
  | [] => .ok []
  | v :: vs => return (← quoted v) :: (← quotedItems vs)

/-- The fields of an object, quoted. -/
def quotedFields : List (String × Value) → Except Text.Integer.Fault (List String)
  | [] => .ok []
  | (name, v) :: fields =>
    return (Text.quoted name ++ ": " ++ (← quoted v)) :: (← quotedFields fields)

end

/-- The value of an object's field. -/
def field? (name : String) : Value → Option Value
  | object fields => fields.lookup name
  | _ => none

/-- The object with the given fields; of two fields of one name the last value counts, at the place
of the first. -/
def ofFields (fields : List (String × Value)) : Value :=
  object (table fields)

/-! ## Indented JSON -/

/-- A character inside a JSON text. -/
def jsonChar (c : Char) : String :=
  if c == '"' then "\\\""
  else if c == '\\' then "\\\\"
  else if c == '\n' then "\\n"
  else if c == '\r' then "\\r"
  else if c == '\t' then "\\t"
  else if c.toNat == 0x08 then "\\b"
  else if c.toNat == 0x0C then "\\f"
  else if c.toNat < 0x20 then "\\u" ++ Text.hexDigits 4 c.toNat
  else String.singleton c

/-- A text in JSON. -/
def jsonText (s : String) : String := "\"" ++ String.join (s.toList.map jsonChar) ++ "\""

/-- A line break and the indentation at a depth. -/
def indent (depth : Nat) : String := "\n" ++ String.ofList (List.replicate (2 * depth) ' ')

mutual

/-- A value as JSON with two spaces of indentation for each level, inside `depth` levels. -/
def prettyAt (depth : Nat) : Value → String
  | null => "null"
  | bool b => if b then "true" else "false"
  | int n => toString n
  | fraction m p => fractionText m p
  | str s => jsonText s
  | list [] => "[]"
  | list (v :: vs) =>
    "[" ++ indent (depth + 1) ++ prettyAt (depth + 1) v ++ prettyItems (depth + 1) vs ++
      indent depth ++ "]"
  | object [] => "\x7b\x7d"
  | object ((name, v) :: fields) =>
    "\x7b" ++ indent (depth + 1) ++ jsonText name ++ ": " ++ prettyAt (depth + 1) v ++
      prettyFields (depth + 1) fields ++ indent depth ++ "\x7d"

/-- The items of a list after the first. -/
def prettyItems (depth : Nat) : List Value → String
  | [] => ""
  | v :: vs => "," ++ indent depth ++ prettyAt depth v ++ prettyItems depth vs

/-- The fields of an object after the first. -/
def prettyFields (depth : Nat) : List (String × Value) → String
  | [] => ""
  | (name, v) :: fields =>
    "," ++ indent depth ++ jsonText name ++ ": " ++ prettyAt depth v ++ prettyFields depth fields

end

/-- A value as indented JSON. -/
def pretty (v : Value) : String := v.prettyAt 0

end Value

end MathLint

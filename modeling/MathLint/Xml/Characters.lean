/-!
# The characters of a source

XML may be written in UTF-16, and a reader tells that from the first octets of a source: where one
of the first two is zero, every pair of octets is a unit of UTF-16. The unit that opens a character
of two units takes the unit behind it, whatever that is.

* `Form.ofSource`: the form of a source.
* `Characters.ofSource`: the characters that a source stands for.
* `Characters.endsInPair`: whether an octet is left behind them.
-/

namespace MathLint.Xml

/-- How octets stand for characters. In UTF-16 the octet of more weight comes first in each pair if
`high` says so. -/
inductive Form where
  | utf8
  | utf16 (high : Bool)
  deriving DecidableEq, Repr

namespace Form

/-- The form of a source, which its first two octets tell. -/
def ofSource (source : String) : Form :=
  match source.toList with
  | '\x00' :: _ => utf16 true
  | c :: '\x00' :: _ => if c.toNat < 0x80 then utf16 false else utf8
  | _ => utf8

/-- How many octets a unit has. -/
def unit : Form → Nat
  | utf8 => 1
  | utf16 _ => 2

/-- The octets of a unit of UTF-16. -/
def pair (high : Bool) (u : Nat) : List UInt8 :=
  let heavy := UInt8.ofNat (u / 256)
  let light := UInt8.ofNat (u % 256)
  if high then [heavy, light] else [light, heavy]

/-- The octets of characters. -/
def encode : Form → List Char → List UInt8
  | utf8, cs => (String.ofList cs).toUTF8.toList
  | utf16 high, cs => cs.flatMap fun c =>
    if c.toNat < 0x10000 then pair high c.toNat
    else
      let n := c.toNat - 0x10000
      pair high (0xD800 + n / 0x400) ++ pair high (0xDC00 + n % 0x400)

end Form

namespace Characters

/-- Stands for what is no character; no document may hold it. -/
def invalid : Char := '\uFFFF'

/-- Stands at the end of a source for the unit that opens a character of two units; no document may
hold it. -/
def half : Char := '\uFFFE'

/-- The units of UTF-16 in octets. An odd octet at the end is dropped. -/
def units (high : Bool) : List UInt8 → List Nat
  | a :: b :: rest =>
    (if high then 256 * a.toNat + b.toNat else 256 * b.toNat + a.toNat) :: units high rest
  | _ => []

/-- The units that open a character of two units. -/
def isLead (u : Nat) : Bool := 0xD800 ≤ u && u ≤ 0xDBFF

/-- The character of a number. -/
def ofNumber (n : Nat) : Char :=
  if h : n.isValidChar then
    let c := Char.ofNatAux n h
    if c == half then invalid else c
  else invalid

/-- The characters of units. Of the second unit of a character the last ten bits count. -/
def ofUnits : List Nat → List Char
  | u :: v :: rest =>
    if isLead u then
      ofNumber (0x10000 + 0x400 * (u - 0xD800) + v % 0x400) :: ofUnits rest
    else ofNumber u :: ofUnits (v :: rest)
  | [u] => [if isLead u then half else ofNumber u]
  | [] => []

/-- The characters that a source stands for. -/
def ofSource (source : String) : List Char :=
  match Form.ofSource source with
  | .utf8 => source.toList.map fun c => if c == half then invalid else c
  | .utf16 high => ofUnits (units high source.toUTF8.toList)

/-- Whether a source ends inside a pair of octets. -/
def endsInPair (source : String) : Bool :=
  match Form.ofSource source with
  | .utf8 => false
  | .utf16 _ => source.utf8ByteSize % 2 == 1

end Characters

end MathLint.Xml

import MathLint.Text.Quoted

/-!
# UTF-8

`Utf8.decode` reads octets as UTF-8 and refuses them at the first octet that cannot be read. The
decoder walks over the octets with the tail octets that it still waits for.
-/

namespace MathLint.Text.Utf8

/-- What is wrong with the octets. -/
inductive Cause where
  | invalidStart
  | invalidContinuation
  | truncated
  deriving DecidableEq, Repr

/-- The cause in words. -/
def Cause.message : Cause → String
  | .invalidStart => "invalid start byte"
  | .invalidContinuation => "invalid continuation byte"
  | .truncated => "unexpected end of data"

/-- Octets that cannot be read: their place, from the first to the last of them, and the first
octet. -/
structure Fault where
  cause : Cause
  first : Nat
  last : Nat
  octet : UInt8
  deriving DecidableEq, Repr

/-- The fault in words. -/
def Fault.message (f : Fault) : String :=
  let place :=
    if f.first == f.last then s!"byte 0x{hexDigits 2 f.octet.toNat} in position {f.first}"
    else s!"bytes in position {f.first}-{f.last}"
  s!"'utf-8' codec can't decode {place}: {f.cause.message}"

/-- A character of which octets are still missing: where it starts, its first octet, how many octets
are owed, the bounds of the next one, and the bits read so far. -/
structure Open where
  start : Nat
  lead : UInt8
  owed : Nat
  low : Nat
  high : Nat
  bits : Nat

/-- The character that an octet at place `pos` opens, for an octet that opens one of several
octets. -/
def open? (pos : Nat) (b : UInt8) : Option Open :=
  let n := b.toNat
  if 0xC2 ≤ n && n ≤ 0xDF then some ⟨pos, b, 1, 0x80, 0xBF, n - 0xC0⟩
  else if n == 0xE0 then some ⟨pos, b, 2, 0xA0, 0xBF, 0⟩
  else if n == 0xED then some ⟨pos, b, 2, 0x80, 0x9F, 0xD⟩
  else if 0xE1 ≤ n && n ≤ 0xEF then some ⟨pos, b, 2, 0x80, 0xBF, n - 0xE0⟩
  else if n == 0xF0 then some ⟨pos, b, 3, 0x90, 0xBF, 0⟩
  else if n == 0xF4 then some ⟨pos, b, 3, 0x80, 0x8F, 4⟩
  else if 0xF1 ≤ n && n ≤ 0xF3 then some ⟨pos, b, 3, 0x80, 0xBF, n - 0xF0⟩
  else none

/-- The characters of the octets from place `pos` on, after those of an open character. -/
def decodeFrom (pos : Nat) : Option Open → List UInt8 → Except Fault (List Char)
  | none, [] => .ok []
  | some o, [] => .error ⟨.truncated, o.start, pos - 1, o.lead⟩
  | none, b :: bs =>
    if b.toNat < 0x80 then do
      return Char.ofNat b.toNat :: (← decodeFrom (pos + 1) none bs)
    else
      match open? pos b with
      | some o => decodeFrom (pos + 1) (some o) bs
      | none => .error ⟨.invalidStart, pos, pos, b⟩
  | some o, b :: bs =>
    if o.low ≤ b.toNat && b.toNat ≤ o.high then
      let bits := o.bits * 64 + (b.toNat - 0x80)
      if o.owed == 1 then do
        return Char.ofNat bits :: (← decodeFrom (pos + 1) none bs)
      else
        decodeFrom (pos + 1) (some ⟨o.start, o.lead, o.owed - 1, 0x80, 0xBF, bits⟩) bs
    else .error ⟨.invalidContinuation, o.start, pos - 1, o.lead⟩

/-- The text that the octets stand for. -/
def decode (octets : List UInt8) : Except Fault String :=
  (decodeFrom 0 none octets).map String.ofList

end MathLint.Text.Utf8

import MathLint.Text.Integer
import MathLint.Text.Utf8
import MathLint.Value

/-!
# Faults

A `Fault` is a cause for which an operation gives no result. `Fault.message` puts it into words.
Some readings of a loosely typed value can fail: its text, its items, its key in a set.
-/

namespace MathLint

/-- Why an operation gives no result. -/
inductive Fault where
  /-- The source to lint is no text. -/
  | sourceKind (kind : String)
  /-- A value whose items are wanted has none. -/
  | noItems (kind : String)
  /-- A value whose fields are wanted has none. -/
  | noFields (kind : String)
  /-- A value that is wanted as text is none. -/
  | noText (kind : String)
  /-- A value of a kind that lacks an operation. -/
  | noOperation (kind operation : String)
  /-- A value that a set cannot hold. -/
  | noMember (kind : String)
  /-- A value that is matched against a pattern and is no text. -/
  | noSubject (kind : String)
  /-- An item of a list of words, at an index, that is no text. -/
  | noWord (index : Nat) (kind : String)
  /-- An integer beyond all fractions. -/
  | tooLarge
  /-- A name that a table does not hold. -/
  | unknownName (given : Value)
  /-- A schema version that is not supported, quoted. -/
  | unsupportedVersion (given : String)
  /-- A text that is no integer, or an integer that cannot be written. -/
  | integer (fault : Text.Integer.Fault)
  /-- A display mode that does not exist, quoted. -/
  | unknownDisplay (given : String)
  /-- A LaTeX text without content. -/
  | blankLatex
  /-- The converter's refusal, in its words. -/
  | conversion (reason : String)
  /-- A path with a character that no path can have. -/
  | nulInPath
  /-- Octets that are no UTF-8. -/
  | utf8 (fault : Text.Utf8.Fault)
  deriving Repr

/-- A fault in words. Where a name is an integer too long to be written, that is what is said. -/
def Fault.message : Fault → String
  | .sourceKind kind => s!"MathML source must be a string, got {kind}"
  | .noItems kind => s!"'{kind}' object is not iterable"
  | .noFields kind => s!"'{kind}' object has no attribute 'items'"
  | .noText kind => s!"'{kind}' object has no attribute 'strip'"
  | .noOperation kind operation => s!"'{kind}' object has no attribute '{operation}'"
  | .noMember kind => s!"unhashable type: '{kind}'"
  | .noSubject kind => s!"expected string or bytes-like object, got '{kind}'"
  | .noWord index kind => s!"sequence item {index}: expected str instance, {kind} found"
  | .tooLarge => "int too large to convert to float"
  | .unknownName given =>
    match given.quoted with
    | .ok name => name
    | .error fault => fault.message
  | .unsupportedVersion given => s!"Unsupported MathML schema version: {given}"
  | .integer fault => fault.message
  | .unknownDisplay given => s!"display must be one of ('block', 'inline'), got {given}"
  | .blankLatex => "Enter LaTeX input before converting."
  | .conversion reason => s!"LaTeX conversion failed: {reason}"
  | .nulInPath => "embedded null byte"
  | .utf8 fault => fault.message

/-- A value in words: as text, with texts in quotes. -/
def Value.shown (v : Value) : Except Fault String := v.quoted.mapError .integer

/-- A value as text. -/
def Value.text : Value → Except Fault String
  | .str s => .ok s
  | v => v.shown

/-- The items of a list, the characters of a text, or the names of an object's fields. -/
def Value.items : Value → Except Fault (List Value)
  | .list items => .ok items
  | .str s => .ok (s.toList.map fun c => .str (String.singleton c))
  | .object fields => .ok (fields.map fun f => .str f.1)
  | v => .error (.noItems v.kind)

/-- What tells values apart in a set. -/
inductive Key where
  | null
  /-- The number `m / 10 ^ p`, with the fewest places. -/
  | number (mantissa : Int) (places : Nat)
  | text (s : String)
  deriving DecidableEq, Repr

/-- The key of the number `m / 10 ^ p`. -/
def Key.ofFraction (mantissa : Int) : (places : Nat) → Key
  | 0 => .number mantissa 0
  | places + 1 =>
    if mantissa % 10 = 0 then ofFraction (mantissa / 10) places
    else .number mantissa (places + 1)

/-- The key of a value. A truth value counts as one or zero. -/
def Value.key : Value → Except Fault Key
  | .null => .ok .null
  | .bool b => .ok (.number (if b then 1 else 0) 0)
  | .int n => .ok (.number n 0)
  | .fraction m p => .ok (.ofFraction m p)
  | .str s => .ok (.text s)
  | v => .error (.noMember v.kind)

/-- A value that is wanted as text; one that counts as false is the empty text. -/
def Value.asText : Value → Except Fault String
  | .str s => .ok s
  | v => if v.truthy then .error (.noText v.kind) else .ok ""

/-- Whether a fault lies in what a value says, and not in its kind or in a name. -/
def Fault.isBadValue : Fault → Bool
  | .unsupportedVersion _ | .integer _ | .unknownDisplay _ | .blankLatex | .conversion _
  | .nulInPath | .utf8 _ => true
  | .sourceKind _ | .noItems _ | .noFields _ | .noText _ | .noOperation _ _ | .noMember _
  | .noSubject _ | .noWord _ _ | .tooLarge | .unknownName _ => false

end MathLint

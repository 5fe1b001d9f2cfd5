import MathLint.Fault
import MathLint.Schema.Rule

/-!
# Schema fragments as loosely typed values

A schema fragment may come as a loosely typed value. The functions here read tags, child lists,
attribute lists, child counts and overrides from such values.
-/

namespace MathLint.Loose

/-- A value as a name: its text, or nothing if the value counts as false. -/
def label (v : Value) : Except Fault String := if v.truthy then v.text else .ok ""

/-- A value as a name in lower case. -/
def name (v : Value) : Except Fault String := return Text.lower (← label v)

/-- The texts that stand for every child. -/
def anyMarks : List String := ["any-content", "any-xml", anyChild]

/-- The entries of child lists that are no elements. -/
def pseudoChildren : List String := ["text", "html-phrasing"]

/-- A value as a child list: the names of a list without repeats and entries that are no elements,
or a text that stands for every child. -/
def children : Value → Except Fault (List String)
  | .str s => .ok (if anyMarks.contains s then [anyChild] else [])
  | .list items =>
    return distinct ((← items.mapM name).filter fun n => !n.isEmpty && !pseudoChildren.contains n)
  | _ => .ok []

/-- A value as an attribute list, with or without the entry for event handlers. -/
def attributes (withHandlers : Bool) : Value → Except Fault (List String)
  | .list items =>
    return distinct ((← items.mapM name).filter fun n => !n.isEmpty && (withHandlers || n != "on*"))
  | _ => .ok []

/-- A value as an integer; a truth value is one or zero. -/
def int? : Value → Option Int
  | .int n => some n
  | .bool b => some (if b then 1 else 0)
  | _ => none

/-- An arity whose bounds are kept as they were given. -/
structure GivenArity where
  exact : Option Value := none
  min : Option Value := none

/-- The arity that bounds on a number of children give. Equal bounds fix the number; else a lower
bound counts if it is positive. Bounds that are no integers do not count. -/
def arityOfBounds (low high : Value) : Option GivenArity :=
  match int? low, int? high with
  | some m, some n =>
    if m = n then some { exact := low } else if 0 < m then some { min := low } else none
  | some m, none => if 0 < m then some { min := low } else none
  | none, _ => none

/-- The least integer that rounds to `2 ^ 1024`, beyond all fractions of 64 bits. -/
def fractionBound : Int := Nat.pow 2 1024 - Nat.pow 2 970

/-- A value as an arity: an object with bounds `min` and `max`. The upper bound is compared with
infinity, and must not be too large for that. -/
def arity? : Value → Except Fault (Option GivenArity)
  | .object fields =>
    let high := (fields.lookup "max").getD .null
    if (int? high).any fun n => fractionBound ≤ n.natAbs then .error .tooLarge
    else .ok (arityOfBounds ((fields.lookup "min").getD .null) high)
  | _ => .ok none

/-- The names that a field of an object lists. -/
def names (field : String) (v : Value) : Except Fault (List String) :=
  match v.field? field with
  | some items => do (← items.items).mapM label
  | none => return []

/-- The items of a value without repeats. -/
def distinctItems (v : Value) : Except Fault (List Value) := do
  let keyed ← (← v.items).mapM fun item => return (← item.key, item)
  return (distinctBy (·.1) keyed).map (·.2)

/-- The texts in a set that a value gives. -/
def textSet (v : Value) : Except Fault (List String) := do
  let keys ← (← v.items).mapM Value.key
  return keys.filterMap fun
    | .text s => some s
    | _ => none

/-- Whether a set of attribute names, given as a value, allows an attribute. -/
def allows (allowed given : Value) : Except Fault Bool := do
  let name ← label given
  return allowsAttribute (← textSet allowed) name

/-- The words that a value lists, all of which must be texts. -/
def words (v : Value) : Except Fault (List String) := do
  let items ← v.items
  let _ ← items.mapM Value.key
  items.zipIdx.mapM fun
    | (.str s, _) => .ok s
    | (item, index) => .error (.noWord index item.kind)

/-- A value as an override. Its arity is an object with fields `exact` and `min`. -/
def override (v : Value) : Except Fault Override := do
  let children ← names "children" v
  let attributes ← names "attributes" v
  let arity := match v.field? "arity" with
    | some (.object fields) =>
      some ⟨(fields.lookup "exact").bind int?, (fields.lookup "min").bind int?⟩
    | _ => none
  return { children, attributes, arity, deprecated := (v.field? "deprecated").map Value.truthy }

end MathLint.Loose

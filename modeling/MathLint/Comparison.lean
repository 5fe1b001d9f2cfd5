import MathLint.Lint

/-!
# Comparing two sources

A `Comparison` holds the reports on two sources under the same options and says which codes occur in
one of them only, and which in both.
-/

namespace MathLint

/-- The reports on two sources, and how their codes compare. -/
structure Comparison where
  first : Report
  second : Report
  onlyFirst : List String
  onlySecond : List String
  shared : List String

namespace Comparison

/-- The comparison of two reports. Codes stand in the order in which they first occur. -/
def ofReports (first second : Report) : Comparison :=
  let a := distinct first.codes
  let b := distinct second.codes
  { first, second
    onlyFirst := a.filter fun code => !b.contains code
    onlySecond := b.filter fun code => !a.contains code
    shared := a.filter b.contains }

/-- A comparison as a loosely typed value. -/
def toValue (c : Comparison) : Value :=
  .object [
    ("a", c.first.toValue),
    ("b", c.second.toValue),
    ("onlyA", .list (c.onlyFirst.map .str)),
    ("onlyB", .list (c.onlySecond.map .str)),
    ("shared", .list (c.shared.map .str))]

end Comparison

/-- The comparison of the reports on two sources by all checks. -/
def compareSources (read : XmlReader) (options : Options) (first second : Value) :
    Except Fault Comparison := do
  let a ← lint read options Check.all (← sourceOf first)
  let b ← lint read options Check.all (← sourceOf second)
  return Comparison.ofReports a b

end MathLint

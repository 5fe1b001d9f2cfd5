import MathLint.Finding.Basic
import MathLint.Profile

/-!
# Reports

A `Report` holds the findings on a source.
-/

namespace MathLint

/-- The findings on a source under a profile. -/
structure Report where
  sourceLength : Nat
  profile : Profile
  findings : List Finding
  deriving DecidableEq, Repr

namespace Report

/-- The codes of the findings, in order. -/
def codes (r : Report) : List String := r.findings.map (·.code)

/-- Whether one of the findings is an error. -/
def hasErrors (r : Report) : Bool := Finding.anyError r.findings

/-- A report as a loosely typed value. -/
def toValue (r : Report) : Value :=
  .object [
    ("sourceLength", .int r.sourceLength),
    ("profile", .str r.profile.id),
    ("findings", .list (r.findings.map Finding.toValue))]

end Report

end MathLint

/-!
# Ranges of code points

A character class beyond ASCII is a list of ranges, in ascending order.
-/

namespace MathLint.Text

/-- Ranges of code points, each given by its first and its last member. -/
abbrev Ranges := List (Nat × Nat)

/-- Whether a character lies in one of the ranges. -/
def Ranges.has (ranges : Ranges) (c : Char) : Bool :=
  ranges.any fun r => r.1 ≤ c.toNat && c.toNat ≤ r.2

end MathLint.Text

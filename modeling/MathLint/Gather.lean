import MathLint.Fault

/-!
# Gathering

`gather f` appends what `f` gives for the items of a list, in order, and stops at the first fault.
-/

namespace MathLint

variable {α β : Type}

/-- What all items of a list give, in order, or the first fault. -/
def gather (f : α → Except Fault (List β)) : List α → Except Fault (List β)
  | [] => .ok []
  | a :: as => do
    let first ← f a
    let rest ← gather f as
    return first ++ rest

end MathLint

/-!
# Lists without repeats

`distinctBy key` keeps the first item of each key, `distinct` the first of equal items, both in
their order. `inOrder` gives a set of names as a list, sorted by code points. `table` gives every
key its last value.
-/

namespace MathLint

variable {α β : Type}

/-- The items of a list without those whose key an earlier item has. -/
def distinctBy [DecidableEq β] (key : α → β) : List α → List α
  | [] => []
  | a :: as => a :: (distinctBy key as).filter fun b => key b ≠ key a

/-- The items of a list without those that occurred before. -/
def distinct [DecidableEq α] (as : List α) : List α := distinctBy id as

/-- The names of a set, each once and sorted by code points. -/
def inOrder (names : List String) : List String :=
  distinct (names.mergeSort fun a b => decide (a ≤ b))

/-- A table with one entry set: in its place if the key is there, and else at the end. -/
def setEntry [DecidableEq α] (entries : List (α × β)) (e : α × β) : List (α × β) :=
  if entries.any (·.1 = e.1) then entries.map fun k => if k.1 = e.1 then e else k
  else entries ++ [e]

/-- The table of the given entries. Of two entries of one key the last value counts, at the place of
the first. -/
def table [DecidableEq α] (entries : List (α × β)) : List (α × β) := entries.foldl setEntry []

end MathLint

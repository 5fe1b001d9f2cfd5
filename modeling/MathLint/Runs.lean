/-!
# Runs

`runs p` gives the maximal blocks of items of a list that satisfy `p`.
-/

namespace MathLint

variable {α : Type}

/-- The runs of a list, the first of them continuing `run`, which is held backwards. -/
def runsFrom (p : α → Bool) (run : List α) : List α → List (List α)
  | [] => if run.isEmpty then [] else [run.reverse]
  | a :: as =>
    if p a then runsFrom p (a :: run) as
    else if run.isEmpty then runsFrom p [] as
    else run.reverse :: runsFrom p [] as

/-- The maximal blocks of items that satisfy `p`, in order. -/
def runs (p : α → Bool) (as : List α) : List (List α) := runsFrom p [] as

end MathLint

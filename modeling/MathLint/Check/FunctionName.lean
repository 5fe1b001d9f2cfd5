/-!
# Function names

`FunctionName.find` gives the names of functions that a run of letters spells.
-/

namespace MathLint.FunctionName

/-- The names that have a LaTeX command. -/
def commands : List String := [
  "sin", "cos", "tan", "cot", "sec", "csc", "sinh", "cosh", "tanh", "coth", "arcsin", "arccos",
  "arctan", "exp", "log", "ln", "lg", "det", "dim", "gcd", "hom", "ker", "lim", "liminf", "limsup",
  "max", "min", "sup", "inf", "deg", "arg"]

/-- The names that are written as operators in LaTeX. -/
def operators : List String := [
  "sech", "csch", "arcsec", "arccsc", "arccot", "arcsinh", "arccosh", "arctanh", "arcsech",
  "arccsch", "arccoth", "sgn", "sign", "tr", "rank", "lcm", "erf", "erfc", "span", "diag"]

/-- All known names. -/
def all : List String := commands ++ operators

/-- The first of the longest texts of a list. -/
def longest? : List String → Option String
  | [] => none
  | s :: ss =>
    match longest? ss with
    | some t => if s.length < t.length then some t else some s
    | none => some s

/-- The name that counts at the front of `rest`, in a run of `size` letters. A name counts if it
stands right behind another name or at the front of the run, or if it ends the run; a name of two
letters counts only as the whole run. -/
def nameAt? (size : Nat) (anchored : Bool) (rest : List Char) : Option String :=
  longest? <| all.filter fun name =>
    name.toList.isPrefixOf rest && (anchored || name.length == rest.length) &&
      (3 ≤ name.length || name.length == size)

/-- The names in the rest of a run, of which `skip` letters belong to a name that was found. -/
def findFrom (size : Nat) (anchored : Bool) (skip : Nat) : List Char → List String
  | [] => []
  | c :: cs =>
    match skip with
    | skip + 1 => findFrom size true skip cs
    | 0 =>
      match nameAt? size anchored (c :: cs) with
      | some name => name :: findFrom size true (name.length - 1) cs
      | none => findFrom size false 0 cs

/-- The names that a run of letters spells, in order. -/
def find (word : String) : List String := findFrom word.length true 0 word.toList

end MathLint.FunctionName

/-!
# Paths

`Path.normalize` writes a path in its plain form: without empty parts and parts that stand for the
same directory. Two slashes at the front, and no more, are kept as they are.
-/

namespace MathLint.Path

/-- The parts of a path between slashes that name something. -/
def parts (path : String) : List String := (path.splitOn "/").filter fun p => p != "" && p != "."

/-- The slashes at the front of a path that count. -/
def root (path : String) : String :=
  match (path.toList.takeWhile (· == '/')).length with
  | 0 => ""
  | 2 => "//"
  | _ => "/"

/-- The plain form of a path with a root and parts. -/
def render (root : String) (parts : List String) : String :=
  let plain := root ++ "/".intercalate parts
  if plain.isEmpty then "." else plain

/-- A path in its plain form. -/
def normalize (path : String) : String := render (root path) (parts path)

/-- The path of a name in a directory, in its plain form. -/
def inside (directory name : String) : String := render (root directory) (parts directory ++ [name])

end MathLint.Path

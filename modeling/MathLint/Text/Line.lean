/-!
# Line ends

`unifyLines` turns each line end, a line feed with or without a carriage return before it or a
carriage return alone, into one line feed.
-/

namespace MathLint.Text

/-- The characters of a text with every line end written as a line feed. -/
def unifyLines : List Char → List Char
  | '\r' :: '\n' :: cs => '\n' :: unifyLines cs
  | '\r' :: cs => '\n' :: unifyLines cs
  | c :: cs => c :: unifyLines cs
  | [] => []

end MathLint.Text

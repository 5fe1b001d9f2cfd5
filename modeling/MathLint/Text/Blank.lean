/-!
# White space

* `isBlank`: the white space characters.
* `trim`: a text without white space at its ends.
* `words`: the maximal runs of other characters.
* `collapse`: the words of a text with one space between them.
-/

namespace MathLint.Text

/-- White space: the Unicode property, and the four separators U+001C to U+001F. -/
def isBlank (c : Char) : Bool :=
  let n := c.toNat
  (0x09 ≤ n && n ≤ 0x0D) || (0x1C ≤ n && n ≤ 0x20) || n == 0x85 || n == 0xA0 || n == 0x1680 ||
    (0x2000 ≤ n && n ≤ 0x200A) || n == 0x2028 || n == 0x2029 || n == 0x202F || n == 0x205F ||
    n == 0x3000

/-- The characters of a text without leading white space. -/
def trimLeft (cs : List Char) : List Char := cs.dropWhile isBlank

/-- The characters of a text without trailing white space. -/
def trimRight (cs : List Char) : List Char := (cs.reverse.dropWhile isBlank).reverse

/-- A text without white space at its ends. -/
def trim (s : String) : String := String.ofList (trimRight (trimLeft s.toList))

/-- A text of white space only. -/
def isBlankText (s : String) : Bool := s.toList.all isBlank

/-- The words of `cs`, the first of them continuing `word`, which is held backwards. -/
def wordsFrom (word : List Char) : List Char → List (List Char)
  | [] => if word.isEmpty then [] else [word.reverse]
  | c :: cs =>
    if isBlank c then
      if word.isEmpty then wordsFrom [] cs else word.reverse :: wordsFrom [] cs
    else wordsFrom (c :: word) cs

/-- The maximal runs of characters other than white space. -/
def words (s : String) : List String := (wordsFrom [] s.toList).map String.ofList

/-- The words of a text with one space between them. -/
def collapse (s : String) : String := " ".intercalate (words s)

end MathLint.Text

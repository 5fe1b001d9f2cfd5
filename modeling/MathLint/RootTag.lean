import MathLint.Text.Blank
import MathLint.Text.Letter

/-!
# The start tag of the root

`RootTag.find?` looks for the start tag of the root in a source that need not be well-formed XML: it
skips white space, processing instructions, comments and document type declarations. An instruction
or a comment may reach beyond its first end mark if no start tag is found behind that.

* `RootTag.source`: the parts of a tag that was found make up the source.
* `declaresPrefix`: whether the text of attributes declares a namespace prefix.
-/

namespace MathLint

/-- The start tag of the root in a source: what stands before its name, the name, the text of its
attributes, and what follows the `>` that ends it. -/
structure RootTag where
  lead : List Char
  name : List Char
  attributes : List Char
  rest : List Char
  deriving DecidableEq, Repr

namespace RootTag

/-- The source of a tag. -/
def source (t : RootTag) : List Char := t.lead ++ t.name ++ t.attributes ++ '>' :: t.rest

/-- A tag with a text before it. -/
def behind (lead : List Char) (t : RootTag) : RootTag := { t with lead := lead ++ t.lead }

/-- What the search is inside of. -/
inductive Mode where
  | between
  | instruction
  | comment
  | doctype
  deriving DecidableEq, Repr

/-- A character that a name may go on with. -/
def isNameChar (c : Char) : Bool := Text.isWordChar c || c == '.' || c == '-'

/-- The name at the front of a text, with at most one colon that name characters follow. -/
def nameAt (cs : List Char) : List Char :=
  let first := cs.takeWhile isNameChar
  match cs.dropWhile isNameChar with
  | ':' :: after =>
    let second := after.takeWhile isNameChar
    if second.isEmpty then first else first ++ ':' :: second
  | _ => first

/-- The tag whose name begins at the front of a text. -/
def tagAt? (cs : List Char) : Option RootTag :=
  let name := nameAt cs
  let after := cs.drop name.length
  match after.dropWhile (· != '>') with
  | _ :: rest => some ⟨[], name, after.takeWhile (· != '>'), rest⟩
  | [] => none

/-- A character that a name may begin with. -/
def isNameStart (c : Char) : Bool := c.isAlpha || c == '_'

/-- Looks for the tag from inside of something. -/
def findFrom : Mode → List Char → Option RootTag
  | .between, '<' :: '?' :: cs => (findFrom .instruction cs).map (behind ['<', '?'])
  | .between, '<' :: '!' :: '-' :: '-' :: cs =>
    (findFrom .comment cs).map (behind ['<', '!', '-', '-'])
  | .between, '<' :: '!' :: 'D' :: 'O' :: 'C' :: 'T' :: 'Y' :: 'P' :: 'E' :: cs =>
    (findFrom .doctype cs).map (behind "<!DOCTYPE".toList)
  | .between, '<' :: c :: cs =>
    if isNameStart c then (tagAt? (c :: cs)).map (behind ['<']) else none
  | .between, c :: cs => if Text.isBlank c then (findFrom .between cs).map (behind [c]) else none
  | .instruction, '?' :: '>' :: cs =>
    ((findFrom .between cs).map (behind ['?', '>'])).or
      ((findFrom .instruction ('>' :: cs)).map (behind ['?']))
  | .instruction, c :: cs => (findFrom .instruction cs).map (behind [c])
  | .comment, '-' :: '-' :: '>' :: cs =>
    ((findFrom .between cs).map (behind ['-', '-', '>'])).or
      ((findFrom .comment ('-' :: '>' :: cs)).map (behind ['-']))
  | .comment, c :: cs => (findFrom .comment cs).map (behind [c])
  | .doctype, c :: cs =>
    if c == '>' then (findFrom .between cs).map (behind [c])
    else (findFrom .doctype cs).map (behind [c])
  | _, [] => none

/-- The start tag of the root. -/
def find? (source : String) : Option RootTag := findFrom .between source.toList

/-- The name of the root as written, or nothing if no start tag is found. -/
def rootName (source : String) : String :=
  match find? source with
  | some t => String.ofList t.name
  | none => ""

end RootTag

/-- Whether a text begins with the declaration of a namespace prefix. -/
def opensDeclaration (short cs : List Char) : Bool :=
  let word := "xmlns:".toList ++ short
  word.isPrefixOf cs && ((cs.drop word.length).dropWhile Text.isBlank).head? == some '='

/-- Whether a namespace prefix is declared somewhere in the text of attributes. The declaration must
not follow a word character; `inWord` says that the text before ends with one. -/
def declaresPrefixFrom (short : List Char) (inWord : Bool) : List Char → Bool
  | [] => false
  | c :: cs =>
    (!inWord && opensDeclaration short (c :: cs)) || declaresPrefixFrom short (Text.isWordChar c) cs

/-- Whether the text of attributes declares a namespace prefix. -/
def declaresPrefix (attributes short : List Char) : Bool :=
  declaresPrefixFrom short false attributes

end MathLint

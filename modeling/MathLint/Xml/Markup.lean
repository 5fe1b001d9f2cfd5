import MathLint.Xml.Error
import MathLint.Xml.Scan

/-!
# Markup of content

`Markup.scan` reads what comes next inside an element: a run of characters, a reference, a tag, or a
remark. All of it is given as written, line ends included.
-/

namespace MathLint.Xml

/-- The error of a token that begins at `start` and cannot be read. -/
def Stop.error (start : List Char) : Stop → Error
  | cut => ⟨.unclosedToken, start⟩
  | half => ⟨.partialCharacter, start⟩
  | bad here => ⟨.invalidToken, here⟩

/-- An attribute as written: its name, the source from the name on, its value, and the source behind
the value. -/
structure WrittenAttribute where
  name : List Char
  here : List Char
  value : List Char
  after : List Char

/-- A start tag as written. The tag of an element without content is closed. -/
structure StartTag where
  name : List Char
  attributes : List WrittenAttribute
  closed : Bool

/-- What can come next inside an element. -/
inductive Markup where
  | chars (run : List Char)
  | reference (r : Scan.Reference)
  | start (tag : StartTag)
  | finish (name : List Char)
  | remark (body : List Char)
  /-- An XML declaration, which cannot stand here. -/
  | declaration
  /-- The end of the source, and the carriage return or the brackets that stand there, if any. -/
  | ended (trail : List Char)

/-- Whether markup is a reference to an entity with a text of its own. -/
def Markup.opensEntity : Markup → Bool
  | .reference (.entity name) => (Scan.predefined? name).isNone
  | _ => false

namespace Scan

/-- Reads a run of character data. At the end of the source, a carriage return, closing brackets and
half a character are left. -/
def charsRun : List Char → Except Stop (Read (List Char))
  | [] => .ok ([], [])
  | ['\r'] => .ok ([], ['\r'])
  | [']'] => .ok ([], [']'])
  | [']', ']'] => .ok ([], [']', ']'])
  | ']' :: ']' :: '>' :: cs => .error (.bad ('>' :: cs))
  | c :: cs =>
    if c == '<' || c == '&' || c == Characters.half then .ok ([], c :: cs)
    else if isAllowed c then do
      let (run, rest) ← charsRun cs
      return (c :: run, rest)
    else .error (.bad (c :: cs))

/-- Reads the text of a section of character data and its end. -/
def sectionBody : List Char → Except Error (Read (List Char))
  | [] => .error ⟨.unclosedSection, []⟩
  | ['\r'] => .error ⟨.unclosedSection, ['\r']⟩
  | [']'] => .error ⟨.unclosedSection, [']']⟩
  | [']', ']'] => .error ⟨.unclosedSection, [']', ']']⟩
  | ']' :: ']' :: '>' :: cs => .ok ([], cs)
  | c :: cs =>
    if isAllowed c then do
      let (run, rest) ← sectionBody cs
      return (c :: run, rest)
    else .error ((Stop.before (c :: cs)).error (c :: cs))

/-- Reads a given word. -/
def literally : List Char → List Char → Except Stop (Read Unit)
  | [], cs => .ok ((), cs)
  | c :: word, cs => do
    let ((), rest) ← exactly c cs
    literally word rest

/-- The word that opens a section of character data, behind `<![`. -/
def sectionWord : List Char := "CDATA[".toList

/-- Reads the word that opens a section of character data. A source with fewer units than the word
is cut off. -/
def sectionOpening (form : Form) (cs : List Char) : Except Stop (Read Unit) :=
  let size := (form.encode (cs.take sectionWord.length)).length
  if size < form.unit * sectionWord.length then .error .cut else literally sectionWord cs

/-! ## Tags -/

/-- Reads an attribute value up to the quote that ends it. -/
def attributeValue (form : Form) (quote : Char) : List Char → Except Stop (Read (List Char))
  | [] => .error .cut
  | c :: cs =>
    if c == quote then .ok ([], c :: cs)
    else if c == '<' || !isAllowed c then .error (.before (c :: cs))
    else do
      if c == '&' then let _ ← reference form cs
      let (value, rest) ← attributeValue form quote cs
      return (c :: value, rest)

/-- Reads an attribute up to the quote that ends its value. -/
def writtenAttribute (form : Form) (cs : List Char) : Except Stop (Read WrittenAttribute) := do
  let (name, rest) ← qualifiedName form cs
  let ((), rest) ← exactly '=' (rest.dropWhile isSpace)
  match rest.dropWhile isSpace with
  | [] => .error .cut
  | quote :: rest =>
    if quote == '"' || quote == '\'' then
      let (value, after) ← attributeValue form quote rest
      return (⟨name, cs, value, after⟩, after)
    else .error (.bad (quote :: rest))

/-- Reads the attributes of a start tag, no more than `limit`, and the end of the tag. Says whether
it is closed. -/
def tagRest (form : Form) : Nat → List Char → Except Stop (Read (List WrittenAttribute × Bool))
  | 0, _ => .error .cut
  | limit + 1, cs =>
    match cs.dropWhile isSpace with
    | [] => .error .cut
    | '>' :: rest => .ok (([], false), rest)
    | '/' :: rest => do
      let ((), rest) ← exactly '>' rest
      return (([], true), rest)
    | c :: rest =>
      if cs.head?.any isSpace then do
        let (attr, after) ← writtenAttribute form (c :: rest)
        let ((attributes, closed), rest) ← tagRest form limit (after.drop 1)
        return ((attr :: attributes, closed), rest)
      else .error (.bad (c :: rest))

/-- Reads a start tag behind `<`. -/
def startTag (form : Form) (limit : Nat) (cs : List Char) : Except Stop (Read StartTag) := do
  let (name, rest) ← qualifiedName form cs
  let ((attributes, closed), rest) ← tagRest form limit rest
  return (⟨name, attributes, closed⟩, rest)

/-- Reads an end tag behind `</`. Colons may stand anywhere in its name but at the front. -/
def endTag (form : Form) : List Char → Except Stop (Read (List Char))
  | [] => .error .cut
  | c :: cs =>
    if form.isNameStart c then do
      let (text, rest) ← run (fun d => form.isNameChar d || d == ':') cs
      let ((), rest) ← exactly '>' (rest.dropWhile isSpace)
      return (c :: text, rest)
    else .error (.before (c :: cs))

end Scan

/-- What a scanner gives for the token at the front of a source, as markup. -/
def Markup.ofScan {α : Type} (source : List Char) (f : α → Markup) :
    Except Stop (Read α) → Except Error (Read Markup)
  | .ok (a, rest) => .ok (f a, rest)
  | .error s => .error (s.error source)

/-- The markup of a processing instruction. -/
def Markup.ofInstruction (i : Scan.Instruction) : Markup :=
  if i.isDeclaration then .declaration else .remark i.text

/-- Reads what comes next in a content. A tag has no more than `limit` attributes. -/
def Markup.scan (form : Form) (limit : Nat) (source : List Char) : Except Error (Read Markup) :=
  match source with
  | [] => .ok (.ended [], [])
  | ['\r'] => .ok (.ended ['\r'], ['\r'])
  | [']'] => .ok (.ended [']'], [])
  | [']', ']'] => .ok (.ended [']', ']'], [])
  | '<' :: '!' :: '-' :: cs => ofScan source .remark (Scan.comment cs)
  | '<' :: '!' :: '[' :: cs => do
    match Scan.sectionOpening form cs with
    | .ok ((), rest) =>
      let (run, rest) ← Scan.sectionBody rest
      return (.chars run, rest)
    | .error s => .error (s.error source)
  | '<' :: '!' :: cs => .error ((if cs.isEmpty then Stop.cut else .bad cs).error source)
  | '<' :: '?' :: cs => ofScan source ofInstruction (Scan.instruction form cs)
  | '<' :: '/' :: cs => ofScan source .finish (Scan.endTag form cs)
  | '<' :: cs => ofScan source .start (Scan.startTag form limit cs)
  | '&' :: cs => ofScan source .reference (Scan.reference form cs)
  | c :: cs =>
    if c == Characters.half then .error (Stop.half.error source)
    else ofScan source .chars (Scan.charsRun (c :: cs))

end MathLint.Xml

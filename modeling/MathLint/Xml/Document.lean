import MathLint.Text.Line
import MathLint.Xml.Doctype.Prolog
import MathLint.Xml.Scope

/-!
# Documents

`Document.parse` reads a source as an XML document and gives its root. References to entities are
replaced by what the entities stand for. An element ends in the text in which it begins; only behind
an entity whose text ends with a reference may elements that begin in it be open.

* `Document.parse`: the root without remarks.
* `Document.parseWithRemarks`: the root with the comments and processing instructions inside it.
-/

namespace MathLint.Xml

/-- An element whose end has not been read: the octets of its name, the scope inside it, the element
itself without content, and the parts of its content, the last of which comes first. -/
structure OpenElement where
  written : List UInt8
  scope : Scope
  element : Element
  parts : List Part

/-- How far a document is read: inside an element and those around it, or past its root. -/
inductive Progress where
  | inside (e : OpenElement) (around : List OpenElement)
  | complete (root : Element)

/-- The element with the content that was read. -/
def OpenElement.finish (e : OpenElement) : Element :=
  { e.element with content := Content.ofParts e.parts }

/-- The open element with one more part. -/
def OpenElement.add (e : OpenElement) (p : Part) : OpenElement := { e with parts := p :: e.parts }

/-- What is read after an element inside others. -/
def Progress.after (e : Element) : List OpenElement → Progress
  | [] => complete e
  | outer :: around => inside (outer.add (.element e)) around

/-- The open element with a run of characters, which continues a run before it. -/
def OpenElement.addChars (e : OpenElement) (run : List Char) : OpenElement :=
  match e.parts, run with
  | _, [] => e
  | .chars before :: parts, run => { e with parts := .chars (run.foldl .push before) :: parts }
  | _, run => e.add (.chars (String.ofList run))

namespace Document

/-- The progress in a text, and how many elements that began in the text are still open. -/
structure State where
  progress : Progress
  level : Nat := 0

/-- Reads the text of an entity, inside the entities that are open. -/
abbrev Expand := (name text : List Char) → Progress → Expanding Cause State

/-- The state after a reference, with the elements counted that it leaves open. -/
def refer (d : Doctype) (opened : List (List Char)) (expand : Expand) (e : OpenElement)
    (around : List OpenElement) : Scan.Reference → Expanding Cause State
  | .number n =>
    match Scan.character? n with
    | some c => return { progress := .inside (e.addChars [c]) around }
    | none => throw .characterNumber
  | .entity name =>
    match Scan.predefined? name with
    | some c => return { progress := .inside (e.addChars [c]) around }
    | none => do
      match ← d.entity? opened name with
      | some (.inside text) => expand name text (.inside e around)
      | _ => throw (.unknownEntity name)

/-- Character data as they are read inside the entities `opened`: in the document itself every line
end is a line feed, and the text of an entity is kept as it is. -/
def readChars (opened : List (List Char)) (run : List Char) : List Char :=
  if opened.isEmpty then Text.unifyLines run else run

/-- The state after markup at `here`, in the innermost open element. The text of an entity ends
with no element of it open. Names are compared octet by octet. -/
def step (d : Doctype) (opened : List (List Char)) (expand : Expand) (here : List Char)
    (e : OpenElement) (around : List OpenElement) (level : Nat) : Markup → Expanding Error State
  | .chars run => return ⟨.inside (e.addChars (readChars opened run)) around, level⟩
  | .ended run =>
    if opened.isEmpty || level = 0 then
      return ⟨.inside (e.addChars (readChars opened run)) around, level⟩
    else throw ⟨.splitEntity, here⟩
  | .remark body =>
    return ⟨.inside (e.add (.remark (String.ofList (Text.unifyLines body)))) around, level⟩
  | .declaration => throw ⟨.lateDeclaration, here⟩
  | .reference r => do
    let s ← (refer d opened expand e around r).withError (⟨·, here⟩)
    return { s with level := level + s.level }
  | .start tag => do
    let (scope, element) ← e.scope.enter d opened tag here
    let written := (d.formWithin opened).encode tag.name
    if tag.closed then return ⟨.after element (e :: around), level⟩
    else return ⟨.inside ⟨written, scope, element, []⟩ (e :: around), level + 1⟩
  | .finish name =>
    if level = 0 then throw ⟨.splitEntity, here⟩
    else if (d.formWithin opened).encode name != e.written then
      throw ⟨.mismatchedTag, here.drop 2⟩
    else return ⟨.after e.finish around, level - 1⟩

/-- Reads content, no more than `limit` pieces of markup, up to the end of the root or of the text
of an entity. Gives the text from there on. An entity whose last piece opens another has no end of
its own. -/
def readContent (d : Doctype) (opened : List (List Char)) (expand : Expand) :
    (limit : Nat) → State → List Char → Expanding Error (Read State)
  | 0, s, cs => return (s, cs)
  | limit + 1, s, cs =>
    match s.progress with
    | .complete _ => return (s, cs)
    | .inside e around => do
      let (markup, rest) ← Markup.scan (d.formWithin opened) (limit + 1) cs
      let s ← step d opened expand cs e around s.level markup
      match markup with
      | .ended trail =>
        if !opened.isEmpty then return (s, rest)
        else throw ⟨if trail.isEmpty then d.endCause else .noElement, rest⟩
      | _ =>
        if !opened.isEmpty && rest.isEmpty && markup.opensEntity then return (s, rest)
        else readContent d opened expand limit s rest

/-- Reads the text of an entity, with references replaced `depth` levels deep. -/
def readEntity (d : Doctype) : (depth : Nat) → (opened : List (List Char)) → Expand
  | 0, _, _, _, _ => throw .recursiveEntity
  | depth + 1, opened, name, text, p => do
    Expanding.spend text
    let opened := name :: opened
    let (s, _) ← (readContent d opened (readEntity d depth opened) (text.length + 1)
      { progress := p } text).withError (·.cause)
    return s

/-- Reads what stands behind the root, no more than `limit` tokens: white space and remarks only. -/
def readEpilog (d : Doctype) : (limit : Nat) → List Char → Except Error Unit
  | 0, _ | _, [] => if d.remainder then .error ⟨.unclosedToken, []⟩ else .ok ()
  | limit + 1, cs =>
    match Token.scan d.form cs with
    | .error s => .error (s.error cs)
    | .ok (.space, rest) | .ok (.remark, rest) => readEpilog d limit rest
    | .ok _ => .error ⟨.afterRoot, cs⟩

/-- Reads the root, which begins at the front of the source. -/
def readRoot (d : Doctype) (cs : List Char) : Except Error (Read Element) := do
  let (markup, rest) ← Markup.scan d.form cs.length cs
  match markup with
  | .start tag =>
    let ((scope, element), allowance) ← Scope.outermost.enter d [] tag cs d.allowance
    if tag.closed then return (element, rest)
    else
      let expand := readEntity d d.depth []
      let start : State := ⟨.inside ⟨d.form.encode tag.name, scope, element, []⟩ [], 1⟩
      match ← readContent d [] expand cs.length start rest allowance with
      | ((⟨.complete root, _⟩, rest), _) => return (root, rest)
      | ((_, rest), _) => .error ⟨.noElement, rest⟩
  | _ => .error ⟨.noElement, cs⟩

/-- Characters without a byte order mark before them. -/
def withoutMark : List Char → List Char
  | '\uFEFF' :: cs => cs
  | cs => cs

/-- The root of a document, with the remarks inside it. -/
def parseWithRemarks (source : String) : Except Error Element := do
  let cs := withoutMark (Characters.ofSource source)
  let (d, cs) ← (Doctype.ofSource source).read cs
  let (root, rest) ← readRoot d cs
  readEpilog d rest.length rest
  return root

/-- The root of a document, without remarks. -/
def parse (source : String) : Except Error Element :=
  (parseWithRemarks source).map fun e => { e with content := e.content.withoutRemarks }

end Document

end MathLint.Xml

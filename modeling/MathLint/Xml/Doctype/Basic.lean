import MathLint.Xml.Markup

/-!
# Document types

A `Doctype` is what the declarations before the root say about a document: the entities, and the
attributes that have a default value or are no plain text.

* `Doctype.entity?`: the entity that a reference stands for.
* `Doctype.value`: the value of an attribute, with its references replaced.

Entities can make a short document very long. So there is an allowance: the number of octets of
entity text that may still be read.
-/

namespace MathLint.Xml

/-- What an entity stands for. -/
inductive Entity where
  | inside (text : List Char)
  /-- A text outside the document, which is not read. -/
  | outside
  /-- Data that are no text. -/
  | unparsed

/-- A declared attribute of an element. White space in the value of one that is not plain text is
collapsed. -/
structure Declared where
  element : List Char
  name : List Char
  plain : Bool
  value : Option (List Char)

/-- What the declarations before the root say. -/
structure Doctype where
  /-- The form of the document. -/
  form : Form
  /-- Whether part of a character stands behind the document. -/
  remainder : Bool
  entities : List (List Char × Entity) := []
  attributes : List Declared := []
  /-- Whether the document says that nothing outside it matters. -/
  standalone : Bool := false
  /-- Whether there may be declarations outside the document. -/
  partly : Bool := false
  /-- Whether further declarations count. -/
  heeded : Bool := true
  /-- How many octets of entity text may still be read. -/
  allowance : Nat

namespace Doctype

variable (d : Doctype)

/-- The document type with an entity, unless one of its name is known or declarations do not
count. -/
def withEntity (name : List Char) (e : Entity) : Doctype :=
  if d.heeded && (Scan.predefined? name).isNone && (d.entities.lookup name).isNone then
    { d with entities := d.entities ++ [(name, e)] }
  else d

/-- The first declaration of an attribute of an element. -/
def attribute? (element name : List Char) : Option Declared :=
  d.attributes.find? fun a => a.element == element && a.name == name

/-- The document type with an attribute, unless it is declared already or declarations do not
count. -/
def withAttribute (a : Declared) : Doctype :=
  if d.heeded && (d.attribute? a.element a.name).isNone then
    { d with attributes := d.attributes ++ [a] }
  else d

/-- The entity of a name, inside the entities `opened`; none if it may be declared outside the
document. -/
def entity? (opened : List (List Char)) (name : List Char) : Except Cause (Option Entity) :=
  match d.entities.lookup name with
  | none => if !d.partly || d.standalone then .error .undefinedEntity else .ok none
  | some e =>
    if opened.contains name then .error .recursiveEntity
    else
      match e with
      | .unparsed => .error .unparsedEntity
      | e => .ok (some e)

/-- The form of a text inside the entities `opened`. Entities are kept in UTF-8. -/
def formWithin (opened : List (List Char)) : Form := if opened.isEmpty then d.form else .utf8

/-- What is wrong with a document that ends between two tokens. -/
def endCause : Cause := if d.remainder then .unclosedToken else .noElement

/-- How deep references can be nested. -/
def depth : Nat := d.entities.length + 1

/-- How many octets of entity text may be read in a document of a size: with them it is shorter than
8 MiB, or no longer than a hundred times its size. -/
def allowanceFor (size : Nat) : Nat := max (8 * 1024 * 1024 - 1 - size) (99 * size)

end Doctype

/-- How many octets a text has. -/
def octets (text : List Char) : Nat := text.foldl (fun n c => n + c.utf8Size) 0

/-- Reading that may open entities. The state is the allowance. -/
abbrev Expanding (ε : Type) := StateT Nat (Except ε)

namespace Expanding

/-- Takes the text of an entity from the allowance. -/
def spend (text : List Char) : Expanding Cause Unit := fun allowance =>
  let size := octets text
  if size ≤ allowance then .ok ((), allowance - size) else .error .growth

/-- Reading whose error is given in another way. -/
def withError {ε δ α : Type} (f : ε → δ) (x : Expanding ε α) : Expanding δ α := fun allowance =>
  (x allowance).mapError f

end Expanding

/-! ## Values -/

/-- Why a value has no text, and where, if it is in the value itself and not in an entity. -/
structure ValueError where
  cause : Cause
  here : Option (List Char)

/-- The error of a value, which is followed by `after` and belongs to what begins at `start`. -/
def ValueError.error (e : ValueError) (start after : List Char) : Error :=
  ⟨e.cause, match e.here with | some here => here ++ after | none => start⟩

/-- The text of a value in a form. White space becomes spaces, and references are replaced: `entity`
gives the text of an entity for the source from a reference to it on. Behind an ampersand all is
skipped up to the semicolon. A carriage return before a line feed is dropped if `paired` says so. -/
def valueChars (form : Form) (entity : List Char → List Char → Expanding ValueError (List Char))
    (paired skipping : Bool) : List Char → Expanding ValueError (List Char)
  | [] => return []
  | c :: cs =>
    if skipping then valueChars form entity paired (c != ';') cs
    else if paired && c == '\r' && cs.head? == some '\n' then
      valueChars form entity paired false cs
    else if c == '<' then throw ⟨.invalidToken, some (c :: cs)⟩
    else if c == '&' then do
      let run ← match Scan.reference form cs with
        | .error (.bad here) => throw ⟨.invalidToken, some here⟩
        | .error _ => throw ⟨.invalidToken, some (c :: cs)⟩
        | .ok (.number n, _) =>
          match Scan.character? n with
          | some d => pure [d]
          | none => throw ⟨.characterNumber, some (c :: cs)⟩
        | .ok (.entity name, _) =>
          match Scan.predefined? name with
          | some d => pure [d]
          | none => entity name (c :: cs)
      return run ++ (← valueChars form entity paired true cs)
    else do
      return (if isSpace c then ' ' else c) :: (← valueChars form entity paired false cs)

/-- The text of a value inside the entities `opened`, with entities replaced `depth` levels deep.
Only outside every entity do a carriage return and a line feed make one line end. -/
def Doctype.valueWithin (d : Doctype) :
    (depth : Nat) → (opened : List (List Char)) → List Char → Expanding ValueError (List Char)
  | 0, _, _ => throw ⟨.recursiveEntity, none⟩
  | depth + 1, opened, value =>
    let entity (name here : List Char) : Expanding ValueError (List Char) :=
      match d.entity? opened name with
      | .error cause => throw ⟨cause, if cause = .unparsedEntity then some here else none⟩
      | .ok (some (.inside text)) => do
        (Expanding.spend text).withError fun cause => ⟨cause, none⟩
        (d.valueWithin depth (name :: opened) text).withError fun e => ⟨e.cause, none⟩
      | .ok (some _) => throw ⟨.externalEntity, some here⟩
      | .ok none => pure []
    valueChars (d.formWithin opened) entity opened.isEmpty false value

/-- A text without spaces at its ends and with single spaces elsewhere. The flag says that a space
is to be dropped. -/
def collapseSpaces (drop : Bool) : List Char → List Char
  | [] => []
  | c :: cs =>
    if c != ' ' then c :: collapseSpaces false cs
    else if drop || cs.all (· == ' ') then collapseSpaces true cs
    else c :: collapseSpaces true cs

/-- The value of an attribute, which is plain text or not, inside the entities `opened`. -/
def Doctype.value (d : Doctype) (opened : List (List Char)) (plain : Bool) (written : List Char) :
    Expanding ValueError (List Char) := do
  let text ← d.valueWithin d.depth opened written
  return if plain then text else collapseSpaces true text

end MathLint.Xml

import MathLint.Xml.Characters

/-!
# Errors in XML

An `Error` has a cause and a place, which is given by the rest of the source from there on.
`Error.message` puts both into words, with the line and the column of the place.
-/

namespace MathLint.Xml

/-- What is wrong with a document. -/
inductive Cause where
  | noElement
  | invalidToken
  | unclosedToken
  /-- The document ends inside a character. -/
  | partialCharacter
  | unclosedSection
  | outOfPlace
  | mismatchedTag
  | afterRoot
  | duplicateAttribute
  | unboundPrefix
  | undeclaredPrefix
  | reservedXml
  | reservedXmlns
  | reservedNamespace
  | undefinedEntity
  /-- A reference to an entity that declarations outside the document may define. -/
  | unknownEntity (name : List Char)
  | recursiveEntity
  | splitEntity
  /-- The texts of entities make the document too long. -/
  | growth
  | unparsedEntity
  | externalEntity
  | characterNumber
  | parameterReference
  | publicId
  | declaration
  | lateDeclaration
  deriving DecidableEq, Repr

/-- The characters that fit into a number of octets; of one that does not, a mark remains. -/
def withinOctets : Nat → List Char → List Char
  | _, [] => []
  | n, c :: cs =>
    if c.utf8Size ≤ n then c :: withinOctets (n - c.utf8Size) cs
    else if n = 0 then [] else ['\uFFFD']

/-- A cause in words. -/
def Cause.message : Cause → String
  | noElement => "no element found"
  | invalidToken => "not well-formed (invalid token)"
  | unclosedToken => "unclosed token"
  | partialCharacter => "partial character"
  | unclosedSection => "unclosed CDATA section"
  | outOfPlace => "syntax error"
  | mismatchedTag => "mismatched tag"
  | afterRoot => "junk after document element"
  | duplicateAttribute => "duplicate attribute"
  | unboundPrefix => "unbound prefix"
  | undeclaredPrefix => "must not undeclare prefix"
  | reservedXml => "reserved prefix (xml) must not be undeclared or bound to another namespace name"
  | reservedXmlns => "reserved prefix (xmlns) must not be declared or undeclared"
  | reservedNamespace => "prefix must not be bound to one of the reserved namespace names"
  | undefinedEntity => "undefined entity"
  | unknownEntity name =>
    "undefined entity " ++ String.ofList (withinOctets 100 ('&' :: name ++ [';']))
  | recursiveEntity => "recursive entity reference"
  | splitEntity => "asynchronous entity"
  | growth => "limit on input amplification factor (from DTD and entities) breached"
  | unparsedEntity => "reference to binary entity"
  | externalEntity => "reference to external entity in attribute"
  | characterNumber => "reference to invalid character number"
  | parameterReference => "illegal parameter entity reference"
  | publicId => "illegal character(s) in public id"
  | declaration => "XML declaration not well-formed"
  | lateDeclaration => "XML or text declaration not at start of entity"

/-- An error: its cause and the source from its place on. -/
structure Error where
  cause : Cause
  here : List Char
  deriving Repr

/-- The line, from one, and the column, from zero, behind a text. -/
def place (line column : Nat) : List Char → Nat × Nat
  | [] => (line, column)
  | '\r' :: '\n' :: cs => place (line + 1) 0 cs
  | c :: cs => if c == '\n' || c == '\r' then place (line + 1) 0 cs else place line (column + 1) cs

/-- An error in a source in words. -/
def Error.message (source : String) (e : Error) : String :=
  let cs := Characters.ofSource source
  let (line, column) := place 1 0 (cs.take (cs.length - e.here.length))
  s!"{e.cause.message}: line {line}, column {column}"

end MathLint.Xml

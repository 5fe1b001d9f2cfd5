/-!
# XML trees

An `Element` has a name, attributes and content. `Content` lists what stands inside an element: runs
of text, elements, and remarks (comments and processing instructions, where they are kept).

* `Content.text`: the text of the content and all elements in it.
* `Content.elements`: the elements at the top level of the content.
* `Content.ofParts`: the content that consists of given parts.
-/

namespace MathLint.Xml

/-- The namespace of the prefix `xml`. -/
def xmlNamespace : String := "http://www.w3.org/XML/1998/namespace"

/-- A name with the namespace that it belongs to; a name without one has the empty namespace. -/
structure Name where
  space : String
  base : String
  deriving DecidableEq, Repr, Inhabited

/-- The name that a text stands for in which the namespace comes first, in braces. -/
def Name.ofClark (text : String) : Name :=
  match text.toList with
  | '\x7b' :: cs =>
    ⟨String.ofList (cs.takeWhile (· != '\x7d')),
      String.ofList ((cs.dropWhile (· != '\x7d')).drop 1)⟩
  | _ => ⟨"", text⟩

/-- What stands inside an element. -/
inductive Content where
  | nil
  | chars (run : String) (rest : Content)
  | element (name : Name) (attributes : List (Name × String)) (inner rest : Content)
  | remark (body : String) (rest : Content)
  deriving Inhabited, Repr

/-- An element with its content. -/
structure Element where
  name : Name
  attributes : List (Name × String)
  content : Content
  deriving Inhabited, Repr

namespace Content

/-- All text, remarks included, in document order. -/
def text : Content → String
  | nil => ""
  | chars run rest => run ++ rest.text
  | element _ _ inner rest => inner.text ++ rest.text
  | remark body rest => body ++ rest.text

/-- The elements at the top level. -/
def elements : Content → List Element
  | nil => []
  | chars _ rest => rest.elements
  | element name attributes inner rest => ⟨name, attributes, inner⟩ :: rest.elements
  | remark _ rest => rest.elements

/-- The content without remarks. -/
def withoutRemarks : Content → Content
  | nil => nil
  | chars run rest => chars run rest.withoutRemarks
  | element name attributes inner rest =>
    element name attributes inner.withoutRemarks rest.withoutRemarks
  | remark _ rest => rest.withoutRemarks

end Content

/-- One part of a content. -/
inductive Part where
  | chars (run : String)
  | element (e : Element)
  | remark (body : String)

/-- The content that begins with a part. -/
def Part.before (rest : Content) : Part → Content
  | chars run => .chars run rest
  | element e => .element e.name e.attributes e.content rest
  | remark body => .remark body rest

/-- The content of the given parts, the last of which comes first. -/
def Content.ofParts (parts : List Part) : Content := parts.foldl Part.before .nil

end MathLint.Xml

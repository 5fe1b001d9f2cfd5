import MathLint.Distinct
import MathLint.Text.Blank
import MathLint.Text.Lowercase
import MathLint.Xml.Content

/-!
# Nodes

A `Node` is an element of a document together with its place there: the nodes above it, and its
index among the elements of its parent. Tags and attribute names are taken in lower case.

* `Node.children`, `Node.nextSibling?`, `Node.followingSiblings`, `Node.ancestors`: the nodes around
  a node.
* `Node.subtree`: a node and all nodes below it, in document order.
* `Node.lintable`: those of them that are MathML.
-/

namespace MathLint

open Xml

/-- The namespace of MathML. -/
def mathNamespace : String := "http://www.w3.org/1998/Math/MathML"

/-- An element and its place in the document. -/
inductive Node where
  | root (e : Element)
  | child (parent : Node) (index : Nat) (e : Element)
  deriving Inhabited

namespace Node

/-- The element at a node. -/
def element : Node → Element
  | root e => e
  | child _ _ e => e

/-- The node above a node. -/
def parent? : Node → Option Node
  | root _ => none
  | child p _ _ => some p

/-- The number of elements before a node in its parent. -/
def index : Node → Nat
  | root _ => 0
  | child _ i _ => i

/-- The nodes above a node, the nearest first. -/
def ancestors : Node → List Node
  | root _ => []
  | child p _ _ => p :: p.ancestors

/-! ## The element at a node -/

variable (n : Node)

/-- The tag, in lower case. -/
def tag : String := Text.lower n.element.name.base

/-- The namespace, or nothing. -/
def space : String := n.element.name.space

/-- Whether a node is in a namespace other than that of MathML. -/
def isForeign : Bool := n.space != "" && n.space != mathNamespace

/-- The namespaces whose attributes keep a prefix, with the prefix. -/
def attributePrefixes : List (String × String) :=
  [(xmlNamespace, "xml"), ("http://www.w3.org/1999/xlink", "xlink")]

/-- The name of an attribute: in lower case, and without a namespace but for a known prefix. -/
def attributeName (name : Name) : String :=
  Text.lower <| match attributePrefixes.lookup name.space with
    | some short => short ++ ":" ++ name.base
    | none => name.base

/-- The attributes by name. Of two attributes of one name the last value counts, at the place of the
first. -/
def attributes : List (String × String) :=
  table (n.element.attributes.map fun a => (attributeName a.1, a.2))

/-- The value of an attribute. -/
def attribute? (name : String) : Option String := n.attributes.lookup name

/-- Whether a node has an attribute. -/
def hasAttribute (name : String) : Bool := (n.attribute? name).isSome

/-- The text inside a node. -/
def text : String := n.element.content.text

/-- The text inside a node without white space at its ends. -/
def trimmed : String := Text.trim n.text

/-! ## The nodes around a node -/

/-- The nodes of elements in a parent, the first of them at an index. -/
def childrenFrom (parent : Node) : (index : Nat) → List Element → List Node
  | _, [] => []
  | index, e :: es => child parent index e :: childrenFrom parent (index + 1) es

/-- The nodes directly below a node. -/
def children : List Node := n.childrenFrom 0 n.element.content.elements

/-- The first node below a node. -/
def firstChild? : Option Node := n.children.head?

/-- The nodes that follow a node in its parent. -/
def followingSiblings : List Node :=
  match n with
  | root _ => []
  | child p i _ => p.children.drop (i + 1)

/-- The node that follows a node directly in its parent. -/
def nextSibling? : Option Node := n.followingSiblings.head?

/-- Whether a node above has a tag. -/
def hasAncestor (tag : String) : Bool := n.ancestors.any fun a => a.tag == tag

/-- The nodes of a content below a node, the first element of which has an index, in document
order. -/
def nodesFrom (parent : Node) : (index : Nat) → Content → List Node
  | _, .nil => []
  | index, .chars _ rest | index, .remark _ rest => nodesFrom parent index rest
  | index, .element name attributes inner rest =>
    let n := child parent index ⟨name, attributes, inner⟩
    n :: nodesFrom n 0 inner ++ nodesFrom parent (index + 1) rest

/-- The nodes below a node, in document order. -/
def descendants : List Node := n.nodesFrom 0 n.element.content

/-- A node and the nodes below it, in document order. -/
def subtree : List Node := n :: n.descendants

/-- The nodes of a subtree that are MathML, in document order. -/
def lintable : List Node := n.subtree.filter fun m => !m.isForeign

end Node

end MathLint

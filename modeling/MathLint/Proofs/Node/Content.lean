import MathLint.Proofs.Node.DocumentOrder

/-!
# Nodes with other content

A document in which the content of one element is replaced has a node at the place of that element,
and all else is where it was.

* `Xml.Content.replaceInner`: a content with another content inside one of its elements.
* `Node.withContent`: the node with other content, in the document that has it there.
* `Node.withContent_mem_subtree`: it is a node of that document.
-/

namespace MathLint

open Xml

namespace Xml

/-- An element with other content. -/
def Element.withContent (e : Element) (inner : Content) : Element := { e with content := inner }

/-- The content with other content inside the element of an index. -/
def Content.replaceInner : (c inner : Content) → (index : Nat) → Content
  | nil, _, _ => nil
  | chars run rest, inner, i => chars run (rest.replaceInner inner i)
  | remark body rest, inner, i => remark body (rest.replaceInner inner i)
  | element name attributes _ rest, inner, 0 => element name attributes inner rest
  | element name attributes old rest, inner, i + 1 =>
    element name attributes old (rest.replaceInner inner i)

theorem Content.elements_replaceInner (c inner : Content) (i : Nat) :
    (c.replaceInner inner i).elements = c.elements.modify i (·.withContent inner) := by
  induction c generalizing i with
  | nil => simp [replaceInner, elements]
  | chars run rest ih => exact ih i
  | remark body rest ih => exact ih i
  | element name attributes old rest _ ih =>
    cases i with
    | zero => rfl
    | succ i =>
      rw [replaceInner, elements, elements, ih, List.modify_succ_cons]

end Xml

namespace Node

/-- The root of the document that a node belongs to. -/
def top : Node → Node
  | root e => root e
  | child p _ _ => p.top

/-- The node at the same place in the document that has other content there. -/
def withContent : Node → Content → Node
  | root e, inner => root (e.withContent inner)
  | child p i e, inner =>
    child (p.withContent (p.element.content.replaceInner inner i)) i (e.withContent inner)

variable {n : Node} {inner : Content}

@[simp] theorem element_withContent :
    (n.withContent inner).element = n.element.withContent inner := by
  cases n <;> rfl

@[simp] theorem tag_withContent : (n.withContent inner).tag = n.tag := by
  rw [tag, tag, element_withContent]
  rfl

@[simp] theorem index_withContent : (n.withContent inner).index = n.index := by
  cases n <;> rfl

@[simp] theorem address_withContent : (n.withContent inner).address = n.address := by
  induction n generalizing inner with
  | root e => rfl
  | child p i e ih => exact congrArg (· ++ [i]) ih

theorem top_of_mem_subtree {e : Element} (hn : n ∈ (root e).subtree) : n.top = root e := by
  induction n with
  | root e' =>
    rcases mem_subtree_cases hn with he | ⟨q, -, hchild⟩
    · exact he
    · cases parent?_of_mem_children hchild
  | child p i e' ih => exact ih (parent_of_mem_subtree hn rfl).1

/-- A node of a document with other content is a node of the document that has it there. -/
theorem withContent_mem_subtree {e : Element} (hn : n ∈ (root e).subtree) :
    n.withContent inner ∈ (n.withContent inner).top.subtree := by
  induction n generalizing inner with
  | root e' => exact List.mem_cons_self
  | child p i e' ih =>
    obtain ⟨hp, hchild⟩ := parent_of_mem_subtree hn rfl
    have hparent := @ih (p.element.content.replaceInner inner i) hp
    refine mem_subtree_of_mem_children hparent ?_
    have helement : p.element.content.elements[i]? = some e' := getElem?_elements_index hchild
    refine List.mem_of_getElem? (i := i) ?_
    rw [getElem?_children, element_withContent]
    simp [Element.withContent, Content.elements_replaceInner, helement, withContent]

end Node

end MathLint

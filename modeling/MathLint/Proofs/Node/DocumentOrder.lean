import Mathlib.Data.List.Lex
import Mathlib.Data.List.Nodup
import Mathlib.Data.List.Perm.Basic
import MathLint.Proofs.Node

/-!
# Document order

The nodes of a document are a copy of its elements, and the nodes around a node are those that the
document has there. Nodes are compared by their addresses: the indexes on the way down from the
root, of which the first that differs decides.

* `Node.pairwise_address_subtree`: the nodes of a subtree stand in the order of their addresses, so
  none stands there twice.
* `Node.map_element_subtree`: their elements are those of the document, in document order.
* `Node.mem_subtree_iff`: the nodes below a node of a document are those that have it among their
  ancestors.
* `Node.walk_eq_flatMap_subtree`, `Node.perm_build`: loops with a stack that walk through a
  document, or give every node its children, pass every node once.
* `Node.subtree_copies_document`: all of it for every document.
-/

namespace MathLint

open Xml

/-! ## Contents -/

namespace Xml

/-- The element that a part is, if it is one. -/
def Part.element? : Part → Option Element
  | .element e => some e
  | .chars _ | .remark _ => none

namespace Content

/-- The parts of a content, in order. -/
def parts : Content → List Part
  | nil => []
  | chars run rest => .chars run :: rest.parts
  | element name attributes inner rest => .element ⟨name, attributes, inner⟩ :: rest.parts
  | remark body rest => .remark body :: rest.parts

theorem ofParts_reverse_cons (p : Part) (ps : List Part) :
    ofParts (p :: ps).reverse = p.before (ofParts ps.reverse) := by
  simp [ofParts, List.foldl_append]

theorem ofParts_reverse_parts (c : Content) : ofParts c.parts.reverse = c := by
  induction c with
  | nil => rfl
  | chars run rest ih => rw [parts, ofParts_reverse_cons, ih]; rfl
  | remark body rest ih => rw [parts, ofParts_reverse_cons, ih]; rfl
  | element name attributes inner rest _ ih => rw [parts, ofParts_reverse_cons, ih]; rfl

theorem filterMap_element?_parts (c : Content) : c.parts.filterMap Part.element? = c.elements := by
  induction c with
  | nil => rfl
  | chars run rest ih => exact ih
  | remark body rest ih => exact ih
  | element name attributes inner rest _ ih => exact congrArg _ ih

/-- An element of a content stands behind as many elements as its index says. -/
theorem exists_parts {c : Content} {i : Nat} {e : Element} (h : c.elements[i]? = some e) :
    ∃ before after, c = ofParts (before ++ .element e :: after).reverse ∧
      (before.filterMap Part.element?).length = i ∧
      after.filterMap Part.element? = c.elements.drop (i + 1) := by
  obtain ⟨hi, he⟩ := List.getElem?_eq_some_iff.mp h
  have hsplit : c.parts.filterMap Part.element? =
      c.elements.take i ++ e :: c.elements.drop (i + 1) := by
    rw [filterMap_element?_parts, ← he, List.getElem_cons_drop, List.take_append_drop]
  obtain ⟨first, second, hparts, hfirst, hsecond⟩ := List.filterMap_eq_append_iff.mp hsplit
  obtain ⟨others, part, after, rfl, hothers, hpart, hafter⟩ :=
    List.filterMap_eq_cons_iff.mp hsecond
  obtain rfl : part = .element e := by
    cases part with
    | element e' => exact congrArg Part.element (Option.some.inj hpart)
    | chars run => cases hpart
    | remark body => cases hpart
  refine ⟨first ++ others, after, ?_, ?_, hafter⟩
  · rw [List.append_assoc, ← hparts, ofParts_reverse_parts]
  · rw [List.filterMap_append, hfirst, List.filterMap_eq_nil_iff.mpr hothers, List.append_nil,
      List.length_take_of_le hi.le]

/-- The elements of a content, at all depths: each before those inside it, and these before those
that follow it. -/
def documentOrder : Content → List Element
  | nil => []
  | chars _ rest | remark _ rest => rest.documentOrder
  | element name attributes inner rest =>
    ⟨name, attributes, inner⟩ :: inner.documentOrder ++ rest.documentOrder

end Content

/-- An element and those inside it, in document order. -/
def Element.documentOrder (e : Element) : List Element := e :: e.content.documentOrder

end Xml

namespace Node

variable {n m p q : Node} {i : Nat} {c : Content}

/-! ## Children -/

theorem getElem?_childrenFrom (p : Node) (i j : Nat) (es : List Element) :
    (childrenFrom p i es)[j]? = es[j]?.map (child p (i + j)) := by
  induction es generalizing i j with
  | nil => rfl
  | cons e es ih =>
    cases j with
    | zero => rfl
    | succ j =>
      rw [childrenFrom, List.getElem?_cons_succ, List.getElem?_cons_succ, ih, Nat.add_right_comm]
      rfl

theorem getElem?_children (p : Node) (j : Nat) :
    p.children[j]? = p.element.content.elements[j]?.map (child p j) := by
  rw [children, getElem?_childrenFrom, Nat.zero_add]

/-- A child of a node is the one at its index. -/
theorem getElem?_index (h : n ∈ p.children) : p.children[n.index]? = some n := by
  obtain ⟨j, hj⟩ := List.mem_iff_getElem?.mp h
  obtain ⟨e, -, rfl⟩ := Option.map_eq_some_iff.mp (getElem?_children p j ▸ hj)
  exact hj

theorem getElem?_elements_index (h : n ∈ p.children) :
    p.element.content.elements[n.index]? = some n.element := by
  obtain ⟨e, he, hn⟩ := Option.map_eq_some_iff.mp (getElem?_children p _ ▸ getElem?_index h)
  rw [he, ← hn]
  rfl

theorem map_element_childrenFrom (p : Node) (i : Nat) (es : List Element) :
    (childrenFrom p i es).map element = es := by
  induction es generalizing i with
  | nil => rfl
  | cons e es ih => exact congrArg (e :: ·) (ih (i + 1))

/-- The children of a node are its elements, in order. -/
theorem map_element_children (p : Node) : p.children.map element = p.element.content.elements :=
  map_element_childrenFrom p 0 _

theorem followingSiblings_of_mem_children (h : n ∈ p.children) :
    n.followingSiblings = p.children.drop (n.index + 1) := by
  cases n with
  | root e => cases parent?_of_mem_children h
  | child q i e =>
    obtain rfl : q = p := Option.some.inj (parent?_of_mem_children h)
    rfl

theorem children_eq_append (h : n ∈ p.children) :
    ∃ earlier, p.children = earlier ++ n :: n.followingSiblings := by
  obtain ⟨hi, hn⟩ := List.getElem?_eq_some_iff.mp (getElem?_index h)
  refine ⟨p.children.take n.index, ?_⟩
  nth_rewrite 2 [← hn]
  rw [followingSiblings_of_mem_children h, List.getElem_cons_drop, List.take_append_drop]

/-- Where a child stands in its parent: behind as many elements as its index says, and before the
elements of the nodes that follow it. -/
theorem exists_parts_of_mem_children (h : n ∈ p.children) :
    ∃ before after,
      p.element.content = Content.ofParts (before ++ .element n.element :: after).reverse ∧
      (before.filterMap Part.element?).length = n.index ∧
      after.filterMap Part.element? = n.followingSiblings.map element := by
  obtain ⟨before, after, hparts, hbefore, hafter⟩ :=
    Content.exists_parts (getElem?_elements_index h)
  refine ⟨before, after, hparts, hbefore, ?_⟩
  rw [hafter, followingSiblings_of_mem_children h, List.map_drop, map_element_children]

/-! ## Subtrees -/

theorem nodesFrom_eq_flatMap (p : Node) (i : Nat) (c : Content) :
    nodesFrom p i c = (childrenFrom p i c.elements).flatMap subtree := by
  induction c generalizing i with
  | nil => rfl
  | chars run rest ih => exact ih i
  | remark body rest ih => exact ih i
  | element name attributes inner rest _ ih =>
    rw [nodesFrom_element, ih]
    rfl

/-- A node comes before its children, and all that is below a child before the next child. -/
theorem subtree_eq_cons_flatMap (n : Node) : n.subtree = n :: n.children.flatMap subtree :=
  congrArg (n :: ·) (nodesFrom_eq_flatMap n 0 n.element.content)

theorem map_element_nodesFrom (p : Node) (i : Nat) (c : Content) :
    (nodesFrom p i c).map element = c.documentOrder := by
  induction c generalizing p i with
  | nil => rfl
  | chars run rest ih => exact ih p i
  | remark body rest ih => exact ih p i
  | element name attributes inner rest ihInner ihRest =>
    rw [nodesFrom_element, List.map_append, ihRest, subtree, List.map_cons]
    exact congrArg (_ :: · ++ _) (ihInner _ 0)

/-- The elements of a subtree are those of its element, in document order. -/
theorem map_element_subtree (n : Node) : n.subtree.map element = n.element.documentOrder :=
  congrArg (n.element :: ·) (map_element_nodesFrom n 0 n.element.content)

theorem subtree_infix_nodesFrom (h : n ∈ nodesFrom p i c) : n.subtree <:+: nodesFrom p i c := by
  induction c generalizing p i with
  | nil => cases h
  | chars run rest ih => exact ih h
  | remark body rest ih => exact ih h
  | element name attributes inner rest ihInner ihRest =>
    rw [nodesFrom_element] at h ⊢
    rcases List.mem_append.mp h with h | h
    · refine List.IsInfix.trans ?_ (List.prefix_append _ _).isInfix
      rcases List.mem_cons.mp h with rfl | h
      · exact List.infix_refl _
      · exact (ihInner h).trans (List.suffix_cons _ _).isInfix
    · exact (ihRest h).trans (List.suffix_append _ _).isInfix

/-- The subtree of a node in a subtree is a block of it. -/
theorem subtree_infix_subtree (h : n ∈ m.subtree) : n.subtree <:+: m.subtree := by
  rcases List.mem_cons.mp h with rfl | h
  · exact List.infix_refl _
  · exact (subtree_infix_nodesFrom h).trans (List.suffix_cons _ _).isInfix

theorem mem_subtree_of_mem_children (hq : q ∈ m.subtree) (h : n ∈ q.children) : n ∈ m.subtree := by
  refine (subtree_infix_subtree hq).subset ?_
  rw [subtree_eq_cons_flatMap]
  exact List.mem_cons_of_mem _ (List.mem_flatMap.mpr ⟨n, h, List.mem_cons_self⟩)

/-- A node of a document is below those of its ancestors. -/
theorem mem_subtree_of_mem_ancestors {root : Element} (hm : m ∈ (Node.root root).subtree)
    (h : n ∈ m.ancestors) : m ∈ n.subtree := by
  induction m with
  | root e => cases h
  | child q i e ih =>
    obtain ⟨hq, hchild⟩ := parent_of_mem_subtree hm rfl
    refine mem_subtree_of_mem_children ?_ hchild
    rcases List.mem_cons.mp h with rfl | h
    · exact List.mem_cons_self
    · exact ih hq h

/-- The nodes of a subtree in a document are its top and the nodes that have it among their
ancestors. -/
theorem mem_subtree_iff {root : Element} (hn : n ∈ (Node.root root).subtree) :
    m ∈ n.subtree ↔ m ∈ (Node.root root).subtree ∧ (m = n ∨ n ∈ m.ancestors) := by
  constructor
  · intro h
    refine ⟨(subtree_infix_subtree hn).subset h, ?_⟩
    exact (List.mem_cons.mp h).imp id mem_ancestors_of_mem_nodesFrom
  · rintro ⟨hm, rfl | h⟩
    · exact List.mem_cons_self
    · exact mem_subtree_of_mem_ancestors hm h

/-! ## Addresses -/

/-- The indexes on the way from the root down to a node. -/
def address : Node → List Nat
  | root _ => []
  | child p i _ => p.address ++ [i]

/-- The address of a node below another one goes on behind that of the other one. -/
theorem exists_address (h : n ∈ nodesFrom p i c) :
    ∃ j rest, i ≤ j ∧ n.address = p.address ++ j :: rest := by
  induction c generalizing p i with
  | nil => cases h
  | chars run rest ih => exact ih h
  | remark body rest ih => exact ih h
  | element name attributes inner rest ihInner ihRest =>
    rw [nodesFrom_element, List.mem_append] at h
    rcases h with h | h
    · rcases List.mem_cons.mp h with rfl | h
      · exact ⟨i, [], le_rfl, rfl⟩
      · obtain ⟨j, below, -, hn⟩ := ihInner h
        exact ⟨i, j :: below, le_rfl, by rw [hn, address, List.append_assoc]; rfl⟩
    · obtain ⟨j, below, hj, hn⟩ := ihRest h
      exact ⟨j, below, by omega, hn⟩

theorem address_lt_of_mem_descendants (h : m ∈ n.descendants) : n.address < m.address := by
  obtain ⟨j, rest, -, hm⟩ := exists_address h
  have hlex : List.Lex (· < ·) (n.address ++ []) (n.address ++ j :: rest) :=
    List.Lex.append_left _ .nil _
  rw [hm]
  rwa [List.append_nil] at hlex

/-- All below a child comes before all below a later one. -/
theorem address_lt_of_index_lt {i j : Nat} {e : Element} (hn : n ∈ (child p i e).subtree)
    (hm : m ∈ nodesFrom p j c) (hij : i < j) : n.address < m.address := by
  obtain ⟨k, below, hk, hm⟩ := exists_address hm
  obtain ⟨rest, hn⟩ : ∃ rest, n.address = p.address ++ i :: rest := by
    rcases List.mem_cons.mp hn with rfl | hn
    · exact ⟨[], rfl⟩
    · obtain ⟨l, rest, -, hn⟩ := exists_address hn
      exact ⟨l :: rest, by rw [hn, address, List.append_assoc]; rfl⟩
  rw [hn, hm]
  exact List.Lex.append_left _ (.rel (by omega)) _

theorem pairwise_address_nodesFrom (p : Node) (i : Nat) (c : Content) :
    (nodesFrom p i c).Pairwise fun m n => m.address < n.address := by
  induction c generalizing p i with
  | nil => exact .nil
  | chars run rest ih => exact ih p i
  | remark body rest ih => exact ih p i
  | element name attributes inner rest ihInner ihRest =>
    rw [nodesFrom_element]
    refine List.pairwise_append.mpr ⟨?_, ihRest p (i + 1), fun m hm n hn => ?_⟩
    · exact .cons (fun m => address_lt_of_mem_descendants) (ihInner _ 0)
    · exact address_lt_of_index_lt hm hn (Nat.lt_succ_self i)

/-- The nodes of a subtree stand in the order of their addresses. -/
theorem pairwise_address_subtree (n : Node) :
    n.subtree.Pairwise fun m n => m.address < n.address :=
  .cons (fun _ => address_lt_of_mem_descendants) (pairwise_address_nodesFrom n 0 _)

theorem nodup_subtree (n : Node) : n.subtree.Nodup := by
  refine (pairwise_address_subtree n).imp fun {m m'} h he => ?_
  rw [he] at h
  exact List.lt_irrefl _ h

/-! ## Ancestors -/

theorem isChain_ancestors (n : Node) :
    (n :: n.ancestors).IsChain fun m p => m.parent? = some p := by
  induction n with
  | root e => exact .singleton _
  | child p i e ih => exact .cons_cons rfl ih

/-- The way up from a node of a document ends at the root. -/
theorem getLast?_ancestors {root : Element} (hn : n ∈ (Node.root root).subtree) :
    (n :: n.ancestors).getLast? = some (Node.root root) := by
  induction n with
  | root e =>
    rcases mem_subtree_cases hn with he | ⟨q, -, hchild⟩
    · rw [he]; rfl
    · cases parent?_of_mem_children hchild
  | child p i e ih =>
    rw [ancestors, List.getLast?_cons_cons]
    exact ih (parent_of_mem_subtree hn rfl).1

/-- A node of a document other than the root has a parent there, of which it is a child. -/
theorem exists_parent {root : Element} (hn : n ∈ (Node.root root).subtree)
    (hne : n ≠ Node.root root) :
    ∃ p ∈ (Node.root root).subtree, n.parent? = some p ∧ n ∈ p.children := by
  rcases mem_subtree_cases hn with rfl | ⟨p, hp, hchild⟩
  · exact absurd rfl hne
  · exact ⟨p, hp, parent?_of_mem_children hchild, hchild⟩

/-! ## Loops with a stack -/

theorem flatMap_subtree_cons (n : Node) (stack : List Node) :
    (n :: stack).flatMap subtree = n :: (n.children ++ stack).flatMap subtree := by
  rw [List.flatMap_cons, subtree_eq_cons_flatMap, List.flatMap_append]
  rfl

/-- The nodes that a loop takes from a stack, the top of which comes first. In place of the node
that it takes it puts the children, the first on top. -/
def walk : (stack : List Node) → List Node
  | [] => []
  | n :: stack => n :: walk (n.children ++ stack)
termination_by stack => (stack.flatMap subtree).length
decreasing_by
  rw [flatMap_subtree_cons]
  exact Nat.lt_succ_self _

/-- The loop takes the nodes in document order. -/
theorem walk_eq_flatMap_subtree (stack : List Node) : walk stack = stack.flatMap subtree := by
  fun_induction walk stack with
  | case1 => rfl
  | case2 n stack ih => rw [ih, flatMap_subtree_cons]

/-- The children of a node behind `children`: for every element of a content one, whose index is the
number of those before it. -/
def attach (p : Node) (children : List Node) : Content → List Node
  | .nil => children
  | .chars _ rest | .remark _ rest => attach p children rest
  | .element name attributes inner rest =>
    attach p (children ++ [child p children.length ⟨name, attributes, inner⟩]) rest

theorem attach_eq (p : Node) (children : List Node) (c : Content) :
    attach p children c = children ++ childrenFrom p children.length c.elements := by
  induction c generalizing children with
  | nil => exact (List.append_nil _).symm
  | chars run rest ih => exact ih children
  | remark body rest ih => exact ih children
  | element name attributes inner rest _ ih =>
    rw [attach, ih, List.length_append, List.append_assoc]
    rfl

theorem attach_nil (n : Node) : attach n [] n.element.content = n.children :=
  attach_eq n [] n.element.content

theorem perm_flatMap_reverse (ns stack : List Node) :
    ((ns.reverse ++ stack).flatMap subtree).Perm ((ns ++ stack).flatMap subtree) :=
  ((List.reverse_perm ns).append_right stack).flatMap_right subtree

/-- The nodes that a loop takes from a stack, each with the children that it attaches. It puts them
on the stack, the last on top. -/
def build : (stack : List Node) → List (Node × List Node)
  | [] => []
  | n :: stack =>
    let children := attach n [] n.element.content
    (n, children) :: build (children.reverse ++ stack)
termination_by stack => (stack.flatMap subtree).length
decreasing_by
  rw [attach_nil, (perm_flatMap_reverse _ _).length_eq, flatMap_subtree_cons]
  exact Nat.lt_succ_self _

/-- The loop gives every node its children, and no node twice. -/
theorem perm_build (stack : List Node) :
    (build stack).Perm ((stack.flatMap subtree).map fun n => (n, n.children)) := by
  fun_induction build stack with
  | case1 => exact .nil
  | case2 n stack children ih =>
    have hchildren : children = n.children := attach_nil n
    rw [hchildren] at ih ⊢
    rw [flatMap_subtree_cons, List.map_cons]
    exact .cons _ (ih.trans ((perm_flatMap_reverse _ _).map _))

/-! ## Every document -/

theorem not_isForeign_iff : n.isForeign = false ↔ n.space = "" ∨ n.space = mathNamespace := by
  simp only [isForeign, bne, Bool.and_eq_false_iff, Bool.not_eq_false', beq_iff_eq]

/-- The nodes of a document are a copy of it. A loop that gives every node its children gives all
nodes of the document theirs. The nodes stand in document order, each once, and so do those below
every node. A node other than the root is the child at its index of a node of the document, where it
stands behind as many elements as the index says and before the elements of the nodes that follow
it. The way up from a node goes from parent to parent and ends at the root. The nodes that are
looked at are those without a namespace or in that of MathML. -/
theorem subtree_copies_document (root : Element) :
    let t := Node.root root
    (build [t]).Perm (t.subtree.map fun n => (n, n.children)) ∧
    t.subtree.map element = root.documentOrder ∧
    t.subtree.Nodup ∧
    (t.subtree.Pairwise fun m n => m.address < n.address) ∧
    (∀ n ∈ t.subtree,
      n.children.map element = n.element.content.elements ∧
      walk [n] = n.subtree ∧
      n.subtree = n :: n.children.flatMap subtree ∧
      n.descendants = n.subtree.tail ∧
      n.subtree <:+: t.subtree ∧
      ∀ m, m ∈ n.subtree ↔ m ∈ t.subtree ∧ (m = n ∨ n ∈ m.ancestors)) ∧
    (∀ n ∈ t.subtree, n ≠ t → ∃ p ∈ t.subtree, ∃ earlier before after,
      n.parent? = some p ∧
      p.children[n.index]? = some n ∧
      p.element.content = Content.ofParts (before ++ .element n.element :: after).reverse ∧
      n.index = (before.filterMap Part.element?).length ∧
      n.followingSiblings.map element = after.filterMap Part.element? ∧
      p.children = earlier ++ n :: n.followingSiblings ∧
      n.nextSibling? = n.followingSiblings.head?) ∧
    (∀ n ∈ t.subtree,
      ((n :: n.ancestors).IsChain fun m p => m.parent? = some p) ∧
      (n :: n.ancestors).getLast? = some t) ∧
    t.lintable = t.subtree.filter fun n => n.space = "" ∨ n.space = mathNamespace := by
  intro t
  refine ⟨?_, map_element_subtree t, nodup_subtree t, pairwise_address_subtree t, fun n hn => ?_,
    fun n hn hne => ?_, fun n hn => ⟨isChain_ancestors n, getLast?_ancestors hn⟩, ?_⟩
  · simpa using perm_build [t]
  · refine ⟨map_element_children n, ?_, subtree_eq_cons_flatMap n, rfl, subtree_infix_subtree hn,
      fun m => mem_subtree_iff hn⟩
    rw [walk_eq_flatMap_subtree, List.flatMap_singleton]
  · obtain ⟨p, hp, hparent, hchild⟩ := exists_parent hn hne
    obtain ⟨earlier, hearlier⟩ := children_eq_append hchild
    obtain ⟨before, after, hparts, hbefore, hafter⟩ := exists_parts_of_mem_children hchild
    exact ⟨p, hp, earlier, before, after, hparent, getElem?_index hchild, hparts, hbefore.symm,
      hafter.symm, hearlier, rfl⟩
  · refine List.filter_congr fun n _ => ?_
    rw [← Bool.decide_coe (!n.isForeign)]
    simp only [Bool.not_eq_true', not_isForeign_iff]

/-- A remark has no address. -/
example : (Node.root ⟨⟨"", "math"⟩, [], .element ⟨"", "mrow"⟩ []
      (.remark "r" (.element ⟨"", "mi"⟩ [] .nil .nil))
      (.element ⟨"", "mo"⟩ [] .nil .nil)⟩).subtree.map address = [[], [0], [0, 0], [1]] := by
  decide

end Node

end MathLint

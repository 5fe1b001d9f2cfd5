import MathLint.Node

/-!
# The nodes of a document

The nodes below a node are its children and the nodes below them, and each of them has the node
among its ancestors.

* `Node.mem_subtree_cases`: a node of a subtree is its top or a child of another node of it.
* `Node.parent_of_mem_subtree`: the parent of a node of a document.
* `Node.mem_ancestors_of_mem_nodesFrom`, `Node.ancestors_cases`: the nodes above a node that is
  below another one.
-/

namespace MathLint.Node

open Xml

variable {n m p : Node} {i : Nat} {c : Content}

theorem nodesFrom_element {name : Name} {attributes : List (Name × String)} {inner rest : Content} :
    nodesFrom p i (.element name attributes inner rest) =
      (child p i ⟨name, attributes, inner⟩).subtree ++ nodesFrom p (i + 1) rest := rfl

theorem mem_lintable : n ∈ m.lintable ↔ n ∈ m.subtree ∧ n.isForeign = false := by
  simp [lintable]

/-! ## Parents -/

theorem parent?_of_mem_childrenFrom {es : List Element} (h : n ∈ childrenFrom p i es) :
    n.parent? = some p := by
  induction es generalizing i with
  | nil => cases h
  | cons e es ih =>
    rcases List.mem_cons.mp h with rfl | h
    · rfl
    · exact ih h

theorem parent?_of_mem_children (h : n ∈ p.children) : n.parent? = some p :=
  parent?_of_mem_childrenFrom h

/-- A node of a content is at its top level or a child of another node of it. -/
theorem mem_nodesFrom_cases (h : n ∈ nodesFrom p i c) :
    n ∈ childrenFrom p i c.elements ∨ ∃ q ∈ nodesFrom p i c, n ∈ q.children := by
  induction c generalizing p i with
  | nil => cases h
  | chars run rest ih => exact ih h
  | remark body rest ih => exact ih h
  | element name attributes inner rest ihInner ihRest =>
    rw [nodesFrom_element, List.mem_append] at h
    rcases h with h | h
    · rcases List.mem_cons.mp h with rfl | h
      · exact .inl List.mem_cons_self
      · rcases ihInner h with hchild | ⟨q, hq, hchild⟩
        · exact .inr ⟨_, List.mem_append_left _ List.mem_cons_self, hchild⟩
        · exact .inr ⟨q, List.mem_append_left _ (List.mem_cons_of_mem _ hq), hchild⟩
    · rcases ihRest h with hchild | ⟨q, hq, hchild⟩
      · exact .inl (List.mem_cons_of_mem _ hchild)
      · exact .inr ⟨q, List.mem_append_right _ hq, hchild⟩

/-- A node of a subtree is its top or a child of another node of it. -/
theorem mem_subtree_cases (h : n ∈ m.subtree) : n = m ∨ ∃ q ∈ m.subtree, n ∈ q.children := by
  rcases List.mem_cons.mp h with rfl | h
  · exact .inl rfl
  · rcases mem_nodesFrom_cases h with hchild | ⟨q, hq, hchild⟩
    · exact .inr ⟨m, List.mem_cons_self, hchild⟩
    · exact .inr ⟨q, List.mem_cons_of_mem _ hq, hchild⟩

/-- A node of a document has its parent there, too, and is one of its children. -/
theorem parent_of_mem_subtree {root : Element} (hn : n ∈ (Node.root root).subtree)
    (hp : n.parent? = some p) : p ∈ (Node.root root).subtree ∧ n ∈ p.children := by
  rcases mem_subtree_cases hn with rfl | ⟨q, hq, hchild⟩
  · cases hp
  · obtain rfl : q = p := Option.some.inj ((parent?_of_mem_children hchild).symm.trans hp)
    exact ⟨hq, hchild⟩

/-! ## Ancestors -/

theorem mem_ancestors_trans (h : m ∈ n.ancestors) (h' : p ∈ m.ancestors) : p ∈ n.ancestors := by
  induction n with
  | root e => cases h
  | child q i e ih =>
    rcases List.mem_cons.mp h with rfl | h
    · exact List.mem_cons_of_mem _ h'
    · exact List.mem_cons_of_mem _ (ih h)

theorem mem_ancestors_of_mem_nodesFrom (h : n ∈ nodesFrom p i c) : p ∈ n.ancestors := by
  induction c generalizing p i with
  | nil => cases h
  | chars run rest ih => exact ih h
  | remark body rest ih => exact ih h
  | element name attributes inner rest ihInner ihRest =>
    rw [nodesFrom_element, List.mem_append] at h
    rcases h with h | h
    · rcases List.mem_cons.mp h with rfl | h
      · exact List.mem_cons_self
      · exact mem_ancestors_trans (ihInner h) List.mem_cons_self
    · exact ihRest h

/-- The ancestors of a node below another one are that node, the ones above it, and the ones below
it. -/
theorem ancestors_cases {a : Node} (h : n ∈ nodesFrom p i c) (ha : a ∈ n.ancestors) :
    a = p ∨ a ∈ p.ancestors ∨ p ∈ a.ancestors := by
  induction c generalizing p i with
  | nil => cases h
  | chars run rest ih => exact ih h
  | remark body rest ih => exact ih h
  | element name attributes inner rest ihInner ihRest =>
    rw [nodesFrom_element, List.mem_append] at h
    rcases h with h | h
    · rcases List.mem_cons.mp h with rfl | h
      · rcases List.mem_cons.mp ha with rfl | ha
        · exact .inl rfl
        · exact .inr (.inl ha)
      · rcases ihInner h with rfl | habove | hbelow
        · exact .inr (.inr List.mem_cons_self)
        · rcases List.mem_cons.mp habove with rfl | habove
          · exact .inl rfl
          · exact .inr (.inl habove)
        · exact .inr (.inr (mem_ancestors_trans hbelow List.mem_cons_self))
    · exact ihRest h

end MathLint.Node

import MathLint.Proofs.Node.Alike

/-!
# Foreign elements without attributes

`bareForeign` takes the attributes from all foreign elements of a tree and leaves everything else.
Two trees that become the same differ in the attributes of foreign elements only. A tree looks the
same without them, unless a padded element of it reads the width of a foreign space.

* `Xml.Element.bareForeign`, `Node.bareForeign`: the tree, and a node of it with all nodes above.
* `Node.children_bareForeign`, `Node.lintable_bareForeign`: the nodes below a bare node are those
  below the node, bare.
* `Xml.Element.PadsOwnSpace`: no padded element of MathML has a foreign space directly in it.
* `Xml.Element.alike_bareForeign`: such a tree looks the same without the attributes.
-/

namespace MathLint

/-! ## Elements -/

namespace Xml

/-- The attributes of an element of a name, or none if it is foreign. -/
def Name.ownAttributes (name : Name) (attributes : List (Name × String)) : List (Name × String) :=
  if name.isForeign then [] else attributes

/-- The content without the attributes of foreign elements. -/
def Content.bareForeign : Content → Content
  | nil => nil
  | chars run rest => chars run rest.bareForeign
  | element name attributes inner rest =>
    element name (name.ownAttributes attributes) inner.bareForeign rest.bareForeign
  | remark body rest => remark body rest.bareForeign

/-- The element without the attributes of foreign elements in it, itself included. -/
def Element.bareForeign (e : Element) : Element :=
  ⟨e.name, e.name.ownAttributes e.attributes, e.content.bareForeign⟩

/-- Attributes look the same where only foreign elements lose them, unless they are read there. -/
theorem sameAttributes_ownAttributes {padded : Bool} {name : Name}
    (hspace : padded = true → Text.lower name.base = "mspace" → name.isForeign = false)
    (as : List (Name × String)) : SameAttributes padded name (name.ownAttributes as) as := by
  intro hread
  have hown : name.isForeign = false := by
    rcases Name.isRead_iff.mp hread with hown | ⟨hpadded, htag⟩
    · exact hown
    · exact hspace hpadded htag
  rw [Name.ownAttributes, if_neg (Bool.eq_false_iff.mp hown)]

@[simp] theorem Content.text_bareForeign (c : Content) : c.bareForeign.text = c.text := by
  induction c with
  | nil => rfl
  | chars run rest ih => rw [bareForeign, text, text, ih]
  | remark body rest ih => rw [bareForeign, text, text, ih]
  | element name attributes inner rest ihInner ihRest =>
    rw [bareForeign, text, text, ihInner, ihRest]

@[simp] theorem Content.elements_bareForeign (c : Content) :
    c.bareForeign.elements = c.elements.map Element.bareForeign := by
  induction c with
  | nil => rfl
  | chars run rest ih => exact ih
  | remark body rest ih => exact ih
  | element name attributes inner rest _ ih => exact congrArg (List.cons _) ih

end Xml

open Xml

/-! ## Nodes -/

namespace Node

/-- A node of the tree without the attributes of foreign elements. -/
def bareForeign : Node → Node
  | root e => root e.bareForeign
  | child p i e => child p.bareForeign i e.bareForeign

variable (n : Node)

theorem element_bareForeign : n.bareForeign.element = n.element.bareForeign := by
  cases n <;> rfl

theorem name_bareForeign : n.bareForeign.element.name = n.element.name := by
  rw [element_bareForeign]
  rfl

@[simp] theorem tag_bareForeign : n.bareForeign.tag = n.tag := by
  rw [tag, tag, name_bareForeign]

@[simp] theorem isForeign_bareForeign : n.bareForeign.isForeign = n.isForeign := by
  rw [isForeign, isForeign, space, space, name_bareForeign]

/-! ### The nodes below -/

theorem childrenFrom_bareForeign (i : Nat) (es : List Element) :
    n.bareForeign.childrenFrom i (es.map Element.bareForeign) =
      (n.childrenFrom i es).map bareForeign := by
  induction es generalizing i with
  | nil => rfl
  | cons e es ih => exact congrArg (List.cons _) (ih (i + 1))

@[simp] theorem children_bareForeign :
    n.bareForeign.children = n.children.map bareForeign := by
  rw [children, children, element_bareForeign, ← childrenFrom_bareForeign]
  exact congrArg _ (Content.elements_bareForeign _)

theorem nodesFrom_bareForeign (i : Nat) (c : Content) :
    n.bareForeign.nodesFrom i c.bareForeign = (n.nodesFrom i c).map bareForeign := by
  induction c generalizing n i with
  | nil => rfl
  | chars run rest ih => exact ih n i
  | remark body rest ih => exact ih n i
  | element name attributes inner rest ihInner ihRest =>
    have hinner := ihInner (child n i ⟨name, attributes, inner⟩) 0
    rw [nodesFrom_element, List.map_append, ← ihRest]
    exact congrArg (· ++ _) (congrArg (List.cons _) hinner)

@[simp] theorem descendants_bareForeign :
    n.bareForeign.descendants = n.descendants.map bareForeign := by
  rw [descendants, descendants, element_bareForeign, ← nodesFrom_bareForeign]
  rfl

theorem lintable_bareForeign : n.bareForeign.lintable = n.lintable.map bareForeign := by
  have hsubtree : n.bareForeign.subtree = n.subtree.map bareForeign :=
    congrArg (List.cons _) n.descendants_bareForeign
  rw [lintable, lintable, hsubtree, List.filter_map]
  simp only [Function.comp_def, isForeign_bareForeign]

/-- A node that has no foreign space in it, if it is padded. -/
def PadsOwnSpace : Prop :=
  n.tag = "mpadded" → ∀ m ∈ n.children, m.tag = "mspace" → m.isForeign = false

instance : Decidable n.PadsOwnSpace :=
  inferInstanceAs (Decidable (n.tag = "mpadded" →
    ∀ m ∈ n.children, m.tag = "mspace" → m.isForeign = false))

@[simp] theorem padsOwnSpace_bareForeign : n.bareForeign.PadsOwnSpace ↔ n.PadsOwnSpace := by
  simp [PadsOwnSpace]

/-- A content looks the same without the attributes if its padded elements have no foreign space
directly in them, nor has it one itself where it is the content of a padded element. -/
theorem alike_bareForeign {p : Node} {padded : Bool} {i : Nat} {c : Content}
    (hspace : padded = true →
      ∀ m ∈ p.childrenFrom i c.elements, m.tag = "mspace" → m.isForeign = false)
    (hbelow : ∀ m ∈ p.nodesFrom i c, m.isForeign = false → m.PadsOwnSpace) :
    c.bareForeign.Alike padded c := by
  induction c generalizing p padded i with
  | nil => exact .nil
  | chars run rest ih => exact .chars_left (.chars_right (ih hspace hbelow))
  | remark body rest ih => exact .remark_left (.remark_right (ih hspace hbelow))
  | element name as inner rest ihInner ihRest =>
    rw [nodesFrom_element] at hbelow
    have hattributes : SameAttributes padded name (name.ownAttributes as) as :=
      sameAttributes_ownAttributes (fun hpadded => hspace hpadded _ List.mem_cons_self) as
    have htext : SameText name inner.bareForeign.text inner.text := by
      rw [Content.text_bareForeign]
      exact .refl _ _
    have hinner : inner.bareForeign.Alike name.isPadded inner := by
      refine ihInner (p := child p i ⟨name, as, inner⟩) (i := 0) (fun hpadded => ?_) fun m hm => ?_
      · -- a padded element of MathML, so the spaces in it are its own
        obtain ⟨hown, htag⟩ := Name.isPadded_iff.mp hpadded
        exact hbelow _ (List.mem_append_left _ List.mem_cons_self) hown htag
      · exact hbelow m (List.mem_append_left _ (List.mem_cons_of_mem _ hm))
    have hrest : rest.bareForeign.Alike padded rest :=
      ihRest (p := p) (i := i + 1)
        (fun hpadded m hm => hspace hpadded m (List.mem_cons_of_mem _ hm))
        fun m hm => hbelow m (List.mem_append_right _ hm)
    exact .element hattributes htext hinner hrest

end Node

/-! ## Documents -/

namespace Xml.Element

variable (e : Element)

theorem lintable_bareForeign :
    (Node.root e.bareForeign).lintable = (Node.root e).lintable.map Node.bareForeign :=
  (Node.root e).lintable_bareForeign

/-- No foreign space stands directly in a padded element of MathML. -/
def PadsOwnSpace : Prop := ∀ n ∈ (Node.root e).lintable, n.PadsOwnSpace

instance : Decidable e.PadsOwnSpace :=
  inferInstanceAs (Decidable (∀ n ∈ (Node.root e).lintable, n.PadsOwnSpace))

theorem padsOwnSpace_bareForeign : e.bareForeign.PadsOwnSpace ↔ e.PadsOwnSpace := by
  unfold PadsOwnSpace
  rw [lintable_bareForeign, List.forall_mem_map]
  simp only [Node.padsOwnSpace_bareForeign]

variable {e}

/-- A tree looks the same without the attributes of foreign elements if it has no foreign space
directly in a padded element of MathML. -/
theorem alike_bareForeign (h : e.PadsOwnSpace) : e.bareForeign.Alike false e := by
  have hnode : ∀ m ∈ (Node.root e).subtree, m.isForeign = false → m.PadsOwnSpace := fun m hm hown =>
    h m (Node.mem_lintable.mpr ⟨hm, hown⟩)
  have hattributes : SameAttributes false e.name (e.name.ownAttributes e.attributes) e.attributes :=
    sameAttributes_ownAttributes (fun hpadded => by cases hpadded) _
  have hcontent : e.content.bareForeign.Alike e.name.isPadded e.content := by
    refine Node.alike_bareForeign (p := .root e) (i := 0) (fun hpadded => ?_) fun m hm =>
      hnode m (List.mem_cons_of_mem _ hm)
    obtain ⟨hown, htag⟩ := Name.isPadded_iff.mp hpadded
    exact hnode (.root e) List.mem_cons_self hown htag
  refine ⟨rfl, hattributes, ?_, hcontent⟩
  rw [bareForeign, Content.text_bareForeign]
  exact .refl _ _

end Xml.Element

end MathLint

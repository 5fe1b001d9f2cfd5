import Mathlib.Data.List.Forall2
import MathLint.Proofs.Distinct
import MathLint.Proofs.Node
import MathLint.Proofs.Text.Blank
import MathLint.Schema.Bundle

/-!
# Nodes that look alike

Two elements look alike if they differ only in white space at the ends of attribute values, in
attributes that nobody reads, and in text that nobody reads. Of the text in an element it counts
whether there is any, and the text in a `mi`, `mn` or `mo` counts up to white space at its ends. Of
a foreign element the attributes count only if it is a space directly in a padded element, which
reads the width of the spaces in it. Two nodes look alike if their elements do and they stand at the
same place. A `math` element that stands free looks like the root of a document: its ancestors have
no tag that matters to the elements below.

* `Xml.Element.Alike`, `Node.Alike`: the relations.
* `Node.Alike.tag`, `Node.Alike.trimmed`: what alike nodes agree in.
* `Node.Alike.attributes`: alike nodes agree in their attributes, if these are read.
* `Node.Alike.children`, `Node.Alike.lintable`: the nodes below alike nodes are alike, one by one.
* `Node.Alike.place`, `Node.Alike.followingSiblings`: the nodes around alike nodes.
-/

namespace MathLint

open List (Forall₂)

/-! ## Elements -/

namespace Xml

/-- Whether elements of a name are in a namespace other than that of MathML. -/
def Name.isForeign (name : Name) : Bool := name.space != "" && name.space != mathNamespace

/-- Whether an element of a name reads the width of the spaces directly in it. -/
def Name.isPadded (name : Name) : Bool := !name.isForeign && Text.lower name.base == "mpadded"

/-- Whether the attributes of an element of a name are read, directly in a padded element or not. -/
def Name.isRead (padded : Bool) (name : Name) : Bool :=
  !name.isForeign || padded && Text.lower name.base == "mspace"

theorem Name.isPadded_iff {name : Name} :
    name.isPadded = true ↔ name.isForeign = false ∧ Text.lower name.base = "mpadded" := by
  simp [isPadded]

theorem Name.isRead_iff {padded : Bool} {name : Name} :
    name.isRead padded = true ↔
      name.isForeign = false ∨ padded = true ∧ Text.lower name.base = "mspace" := by
  simp [isRead]

/-- The tags of the elements whose text is read. -/
def textTags : List String := ["mi", "mn", "mo"]

/-- Whether the text in an element of a name is read. -/
def Name.isToken (name : Name) : Bool := textTags.contains (Text.lower name.base)

/-- An attribute with its value trimmed. -/
def settle {α : Type} (a : α × String) : α × String := (a.1, Text.trim a.2)

/-- Attributes that look alike in an element of a name, directly in a padded element or not. -/
def SameAttributes (padded : Bool) (name : Name) (as bs : List (Name × String)) : Prop :=
  name.isRead padded = true → as.map settle = bs.map settle

/-- Texts that look alike in an element of a name. -/
structure SameText (name : Name) (s t : String) : Prop where
  blank : Text.isBlankText s = Text.isBlankText t
  trimmed : name.isToken = true → Text.trim s = Text.trim t

theorem SameText.refl (name : Name) (s : String) : SameText name s s := ⟨rfl, fun _ => rfl⟩

/-- Contents whose elements look alike, one by one, directly in a padded element or not. -/
inductive Content.Alike : (padded : Bool) → Content → Content → Prop
  | nil {padded : Bool} : Alike padded .nil .nil
  | chars_left {padded : Bool} {run : String} {c d : Content} :
    Alike padded c d → Alike padded (.chars run c) d
  | chars_right {padded : Bool} {run : String} {c d : Content} :
    Alike padded c d → Alike padded c (.chars run d)
  | remark_left {padded : Bool} {body : String} {c d : Content} :
    Alike padded c d → Alike padded (.remark body c) d
  | remark_right {padded : Bool} {body : String} {c d : Content} :
    Alike padded c d → Alike padded c (.remark body d)
  | element {padded : Bool} {name : Name} {as bs : List (Name × String)} {c d c' d' : Content} :
    SameAttributes padded name as bs → SameText name c.text d.text → Alike name.isPadded c d →
      Alike padded c' d' → Alike padded (.element name as c c') (.element name bs d d')

theorem Content.Alike.refl (padded : Bool) (c : Content) : Alike padded c c := by
  induction c generalizing padded with
  | nil => exact .nil
  | chars run rest ih => exact .chars_left (.chars_right (ih padded))
  | remark body rest ih => exact .remark_left (.remark_right (ih padded))
  | element name as inner rest ihInner ihRest =>
    exact .element (fun _ => rfl) (.refl _ _) (ihInner _) (ihRest padded)

/-- Elements that look alike, directly in a padded element or not. -/
structure Element.Alike (padded : Bool) (e e' : Element) : Prop where
  name : e.name = e'.name
  attributes : SameAttributes padded e.name e.attributes e'.attributes
  text : SameText e.name e.content.text e'.content.text
  content : e.content.Alike e.name.isPadded e'.content

theorem Element.Alike.refl (padded : Bool) (e : Element) : Alike padded e e :=
  ⟨rfl, fun _ => rfl, .refl _ _, .refl _ _⟩

end Xml

open Xml

/-! ## Tables -/

theorem map_settle_setEntry {α : Type} [DecidableEq α] (entries : List (α × String))
    (e : α × String) :
    (setEntry entries e).map settle = setEntry (entries.map settle) (settle e) := by
  have hkey (a : α × String) : (settle a).1 = a.1 := rfl
  unfold setEntry
  simp only [List.any_map, Function.comp_def, hkey]
  split
  · rw [List.map_map, List.map_map]
    refine List.map_congr_left fun k _ => ?_
    simp only [Function.comp_apply, hkey, apply_ite settle]
  · rw [List.map_append]
    rfl

theorem map_settle_table {α : Type} [DecidableEq α] (entries : List (α × String)) :
    (table entries).map settle = table (entries.map settle) := by
  have hfold : ∀ start : List (α × String), (entries.foldl setEntry start).map settle =
      (entries.map settle).foldl setEntry (start.map settle) := by
    induction entries with
    | nil => exact fun _ => rfl
    | cons e entries ih =>
      intro start
      rw [List.foldl_cons, ih, map_settle_setEntry]
      rfl
  exact hfold []

theorem lookup_map_settle {α : Type} [DecidableEq α] (entries : List (α × String)) (name : α) :
    (entries.map settle).lookup name = (entries.lookup name).map Text.trim := by
  induction entries with
  | nil => rfl
  | cons e entries ih =>
    obtain ⟨key, value⟩ := e
    simp only [List.map_cons, settle, List.lookup_cons]
    split
    · rfl
    · exact ih

/-! ## Nodes -/

/-- The tags that matter to the elements below. -/
def outerTags : List String := ["annotation-xml", "msub", "msubsup", "mmultiscripts"]

/-- Rules under which `math` may have any parent. -/
def RuleSet.FreesMath (s : RuleSet) : Prop := ∀ r, s.rule? "math" = some r → r.onlyValidIn = []

namespace Node

/-- Whether a node stands directly in a padded element. -/
def inPadded (n : Node) : Bool := n.parent?.any fun p => p.element.name.isPadded

/-- Whether the attributes of a node are read. -/
def isRead (n : Node) : Bool := n.element.name.isRead n.inPadded

/-- The attributes of MathML are read. -/
theorem isRead_of_own {n : Node} (h : n.isForeign = false) : n.isRead = true :=
  Name.isRead_iff.mpr (.inl h)

/-- The attributes of a space directly in a padded element are read. -/
theorem isRead_of_space {n p : Node} (h : n ∈ p.children) (hown : p.isForeign = false)
    (hpadded : p.tag = "mpadded") (hspace : n.tag = "mspace") : n.isRead = true := by
  have hin : n.inPadded = true := by
    rw [inPadded, parent?_of_mem_children h, Option.any_some]
    exact Name.isPadded_iff.mpr ⟨hown, hpadded⟩
  exact Name.isRead_iff.mpr (.inr ⟨hin, hspace⟩)

/-- A `math` element all of whose ancestors have tags that do not matter to it. -/
structure StandsFree (n : Node) : Prop where
  tag : n.tag = "math"
  ancestors : ∀ a ∈ n.ancestors, a.tag ∉ outerTags

/-- Nodes that look alike under rules: at the same place in documents that look alike, or below a
`math` element that stands free in one of them and is the root of the other. -/
inductive Alike (s : RuleSet) : Node → Node → Prop
  | root {e e' : Element} : e.Alike false e' → Alike s (.root e) (.root e')
  | math {n : Node} : s.FreesMath → n.StandsFree → Alike s (.root n.element) n
  | child {p q : Node} {i : Nat} {e e' : Element} :
    Alike s p q → e.Alike p.element.name.isPadded e' → Alike s (.child p i e) (.child q i e')

/-- Nodes that look alike and have the same index. -/
def Paired (s : RuleSet) (n m : Node) : Prop := Alike s n m ∧ n.index = m.index

namespace Alike

variable {s : RuleSet} {n m : Node}

theorem element (h : Alike s n m) : n.element.Alike n.inPadded m.element := by
  cases h with
  | root he => exact he
  | math _ _ => exact .refl _ _
  | child _ he => exact he

theorem tag (h : Alike s n m) : n.tag = m.tag := by
  rw [Node.tag, Node.tag, h.element.name]

theorem isForeign (h : Alike s n m) : n.isForeign = m.isForeign := by
  rw [Node.isForeign, Node.isForeign, space, space, h.element.name]

theorem trimmed (h : Alike s n m) (htag : n.tag ∈ textTags) : n.trimmed = m.trimmed :=
  h.element.text.trimmed (List.contains_iff_mem.mpr htag)

theorem isEmpty_trimmed (h : Alike s n m) : n.trimmed.isEmpty = m.trimmed.isEmpty := by
  rw [Node.trimmed, Node.trimmed, Text.isEmpty_trim, Text.isEmpty_trim]
  exact h.element.text.blank

theorem map_settle_attributes (h : Alike s n m) (hread : n.isRead = true) :
    n.attributes.map settle = m.attributes.map settle := by
  have hnames : ∀ e : Element, (e.attributes.map fun a => (attributeName a.1, a.2)).map settle =
      (e.attributes.map settle).map fun a => (attributeName a.1, a.2) := by
    intro e
    simp [settle]
  rw [Node.attributes, Node.attributes, map_settle_table, map_settle_table, hnames, hnames,
    h.element.attributes hread]

theorem attributes (h : Alike s n m) (hread : n.isRead = true) :
    Forall₂ (fun a b => a.1 = b.1 ∧ Text.trim a.2 = Text.trim b.2) n.attributes m.attributes := by
  have hmap := h.map_settle_attributes hread
  rw [← List.forall₂_eq_eq_eq, List.forall₂_map_left_iff, List.forall₂_map_right_iff] at hmap
  exact hmap.imp fun a b hab => Prod.mk.inj hab

theorem attribute? (h : Alike s n m) (hread : n.isRead = true) (name : String) :
    (n.attribute? name).map Text.trim = (m.attribute? name).map Text.trim := by
  rw [Node.attribute?, Node.attribute?, ← lookup_map_settle, h.map_settle_attributes hread,
    lookup_map_settle]

theorem hasAttribute (h : Alike s n m) (hread : n.isRead = true) (name : String) :
    n.hasAttribute name = m.hasAttribute name := by
  have := congrArg Option.isSome (h.attribute? hread name)
  simpa [Node.hasAttribute] using this

/-! ### The nodes below -/

theorem childrenFrom {p q : Node} (hpq : Alike s p q) {c d : Content}
    (h : c.Alike p.element.name.isPadded d) (i : Nat) :
    Forall₂ (Paired s) (p.childrenFrom i c.elements) (q.childrenFrom i d.elements) := by
  generalize hpadded : p.element.name.isPadded = padded at h
  induction h generalizing i with
  | nil => exact .nil
  | chars_left _ ih => exact ih i hpadded
  | chars_right _ ih => exact ih i hpadded
  | remark_left _ ih => exact ih i hpadded
  | remark_right _ ih => exact ih i hpadded
  | element has htext hinner _ _ ihRest =>
    exact .cons ⟨.child hpq ⟨rfl, hpadded ▸ has, htext, hinner⟩, rfl⟩ (ihRest (i + 1) hpadded)

theorem children (h : Alike s n m) : Forall₂ (Paired s) n.children m.children :=
  h.childrenFrom h.element.content 0

theorem nodesFrom {p q : Node} (hpq : Alike s p q) {c d : Content}
    (h : c.Alike p.element.name.isPadded d) (i : Nat) :
    Forall₂ (Alike s) (p.nodesFrom i c) (q.nodesFrom i d) := by
  generalize hpadded : p.element.name.isPadded = padded at h
  induction h generalizing p q i with
  | nil => exact .nil
  | chars_left _ ih => exact ih hpq i hpadded
  | chars_right _ ih => exact ih hpq i hpadded
  | remark_left _ ih => exact ih hpq i hpadded
  | remark_right _ ih => exact ih hpq i hpadded
  | @element _ name as bs c d _ _ has htext hinner _ ihInner ihRest =>
    have hchild : Alike s (.child p i ⟨name, as, c⟩) (.child q i ⟨name, bs, d⟩) :=
      .child hpq ⟨rfl, hpadded ▸ has, htext, hinner⟩
    exact List.rel_append (.cons hchild (ihInner hchild 0 rfl)) (ihRest hpq (i + 1) hpadded)

theorem descendants (h : Alike s n m) : Forall₂ (Alike s) n.descendants m.descendants :=
  h.nodesFrom h.element.content 0

theorem lintable (h : Alike s n m) : Forall₂ (Alike s) n.lintable m.lintable := by
  refine List.rel_filter (fun a b hab => ?_) (.cons h h.descendants)
  simp [hab.isForeign]

/-! ### The nodes around -/

theorem hasAncestor (h : Alike s n m) :
    n.hasAncestor "annotation-xml" = m.hasAncestor "annotation-xml" := by
  induction h with
  | root _ => rfl
  | math _ hn =>
    refine (List.any_eq_false.mpr fun a ha hmatch => ?_).symm
    exact hn.ancestors a ha (by rw [beq_iff_eq.mp hmatch]; decide)
  | child hpq _ ih =>
    simp only [Node.hasAncestor, ancestors, List.any_cons] at ih ⊢
    rw [ih, hpq.tag]

/-- Alike nodes have parents of the same tag, and the same index, but for a `math` element. -/
theorem place (h : Alike s n m) (htag : n.tag ≠ "math") :
    n.parent?.map Node.tag = m.parent?.map Node.tag ∧ n.index = m.index := by
  cases h with
  | root _ => exact ⟨rfl, rfl⟩
  | math _ hn => exact absurd hn.tag htag
  | child hpq _ => exact ⟨congrArg some hpq.tag, rfl⟩

theorem followingSiblings (h : Alike s n m) (htag : n.tag ≠ "math") :
    Forall₂ (Paired s) n.followingSiblings m.followingSiblings := by
  cases h with
  | root _ => exact .nil
  | math _ hn => exact absurd hn.tag htag
  | child hpq _ => exact List.forall₂_drop _ hpq.children

end Alike

end Node

end MathLint

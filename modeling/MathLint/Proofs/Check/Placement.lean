import Mathlib.Logic.Basic
import MathLint.Proofs.Diagnostics
import MathLint.Proofs.Node

/-!
# Misplaced elements

Two checks watch where elements stand: one looks up from an element that is tied to some parents,
the other looks down from a parent that lists its children. They split the work, so that a misplaced
element is reported by one of them and not by both. Only below a foreign parent whose tag has a rule
that rejects the element does each of them leave it to the other: the first one relies on the
parent, and no check looks at foreign elements.

* `Check.Adds`: what a check adds to a sweep about a node.
* `Structure.report_mem_parent_iff`: when the look up from a misplaced element reports it.
* `Structure.report_mem_children_iff`: when the look down reports a child.
* `Check.sweep_misplaced`: who reports a misplaced element.
-/

namespace MathLint

open Xml

variable {c : Context} {n p : Node}

/-! ## The two checks -/

namespace Structure

/-- Whether an element is tied to some parents and stands in none of them. -/
def isMisplaced (c : Context) (n : Node) : Bool :=
  (c.rules.rule? n.tag).any fun rule => !rule.onlyValidIn.isEmpty &&
    !n.parent?.any fun p => rule.onlyValidIn.contains p.tag

/-- Whether the parent of an element is foreign, and yet its tag has a rule that rejects the
element. -/
def isShadowed (c : Context) (n : Node) : Bool :=
  n.parent?.any fun p => p.isForeign && rejects c p n.tag

/-- The report on a child that the rule of its parent does not list. -/
def invalidChild (p n : Node) : Finding :=
  Diagnostic.invalidChild.finding .warn s!"<{n.tag}> is not listed as a valid child of <{p.tag}>."

theorem tag_eq_of_invalidChild_eq {m : Node} (h : invalidChild p n = invalidChild p m) :
    n.tag = m.tag := by
  have hmessage : toString n.tag = toString m.tag := by
    simpa [invalidChild, Diagnostic.finding] using congrArg Finding.message h
  exact hmessage

/-- A parent reports a child exactly if its rule rejects the tag of the child. -/
theorem report_mem_children_iff (hn : n ∈ p.children) (hgenuine : n.isForeign = false) :
    invalidChild p n ∈ children c p ↔ rejects c p n.tag = true := by
  constructor
  · intro h
    -- the report may be about another child, but one of the same tag
    obtain ⟨m, hm, heq⟩ := List.mem_map.mp h
    have hrejects := (List.mem_filter.mp hm).2
    rw [Bool.and_eq_true] at hrejects
    rw [← tag_eq_of_invalidChild_eq heq]
    exact hrejects.2
  · intro h
    refine List.mem_map.mpr ⟨n, List.mem_filter.mpr ⟨hn, ?_⟩, rfl⟩
    rw [hgenuine, h]
    rfl

/-- A misplaced element is reported exactly if it is not left to its parent. -/
theorem report_mem_parent_iff (h : isMisplaced c n = true) :
    (∃ f ∈ parent c n, f.code = "L013") ↔ (n.parent?.any fun p => rejects c p n.tag) = false := by
  obtain ⟨rule, hrule, hastray⟩ := Option.any_eq_true _ _ |>.mp h
  simp only [Bool.and_eq_true, Bool.not_eq_true'] at hastray
  have hexcused : (n.parent?.any fun p => rule.onlyValidIn.contains p.tag || rejects c p n.tag) =
      n.parent?.any fun p => rejects c p n.tag := by
    cases hp : n.parent? with
    | none => rfl
    | some p =>
      rw [hp, Option.any_some] at hastray
      rw [Option.any_some, Option.any_some, hastray.2, Bool.false_or]
  unfold parent
  rw [hrule]
  dsimp only
  rw [hastray.1, Bool.false_or, hexcused]
  split
  · rename_i hleft
    simp [hleft]
  · rename_i hreported
    simp only [List.mem_singleton, exists_eq_left]
    exact ⟨fun _ => Bool.eq_false_iff.mpr hreported, fun _ => rfl⟩

end Structure

/-! ## Sweeps -/

namespace Check

open Structure

/-- Whether a check adds a finding about a node to a sweep. -/
def Adds (c : Context) (checks : List Check) (nodes : List Node) (k : Check) (n : Node)
    (f : Finding) : Prop := n ∈ nodes ∧ k ∈ checks ∧ f ∈ reports c n k

/-- Whether a sweep over a document reports an element as misplaced from below. -/
def ReportsSelf (c : Context) (root : Element) (n : Node) : Prop :=
  ∃ f, Adds c all (Node.root root).lintable .parent n f ∧ f.code = "L013"

/-- Whether a sweep over a document reports an element as misplaced from above. -/
def ReportsChild (c : Context) (root : Element) (n : Node) : Prop :=
  ∃ p, n.parent? = some p ∧
    Adds c all (Node.root root).lintable .children p (invalidChild p n)

variable {root : Element}

/-- The look up is left to a parent that rejects the element, foreign or not. -/
theorem reportsSelf_iff (hn : n ∈ (Node.root root).lintable) (h : isMisplaced c n = true) :
    ReportsSelf c root n ↔ (n.parent?.any fun p => rejects c p n.tag) = false := by
  rw [← report_mem_parent_iff h]
  constructor
  · rintro ⟨f, ⟨-, -, hf⟩, hcode⟩
    exact ⟨f, hf, hcode⟩
  · rintro ⟨f, hf, hcode⟩
    exact ⟨f, ⟨hn, mem_all _, hf⟩, hcode⟩

/-- Only a parent that is not foreign looks down. -/
theorem reportsChild_iff (hn : n ∈ (Node.root root).lintable) :
    ReportsChild c root n ↔
      (n.parent?.any fun p => !p.isForeign && rejects c p n.tag) = true := by
  obtain ⟨hbelow, hgenuine⟩ := Node.mem_lintable.mp hn
  simp only [Option.any_eq_true, Bool.and_eq_true, Bool.not_eq_true']
  constructor
  · rintro ⟨p, hp, hlooked, -, hf⟩
    obtain ⟨-, hchild⟩ := Node.parent_of_mem_subtree hbelow hp
    exact ⟨p, hp, (Node.mem_lintable.mp hlooked).2, (report_mem_children_iff hchild hgenuine).mp hf⟩
  · rintro ⟨p, hp, hforeign, hrejects⟩
    obtain ⟨habove, hchild⟩ := Node.parent_of_mem_subtree hbelow hp
    exact ⟨p, hp, Node.mem_lintable.mpr ⟨habove, hforeign⟩, mem_all _,
      (report_mem_children_iff hchild hgenuine).mpr hrejects⟩

/-- A misplaced element is reported from below or from above, and never both. In the shadow of a
foreign parent it is not reported at all. -/
theorem sweep_misplaced (hn : n ∈ (Node.root root).lintable) (h : isMisplaced c n = true) :
    (isShadowed c n = false → Xor (ReportsSelf c root n) (ReportsChild c root n)) ∧
      (isShadowed c n = true → ¬ ReportsSelf c root n ∧ ¬ ReportsChild c root n) := by
  rw [reportsSelf_iff hn h, reportsChild_iff hn, isShadowed]
  cases n.parent? with
  | none => simp [Xor]
  | some p =>
    -- what is left depends on whether the parent is foreign and whether its rule rejects the element
    simp only [Option.any_some]
    cases p.isForeign <;> cases rejects c p n.tag <;> simp [Xor]

/-- A formula with a cell in an element of a name. -/
def strayCell (wrapper : Name) : Element :=
  { name := ⟨mathNamespace, "math"⟩
    attributes := []
    content := .element wrapper []
      (.element ⟨mathNamespace, "mtd"⟩ [] .nil .nil) .nil }

/-- The node of the cell. -/
def strayCellNode (wrapper : Name) : Node :=
  .child (.child (.root (strayCell wrapper)) 0
    ⟨wrapper, [], .element ⟨mathNamespace, "mtd"⟩ [] .nil .nil⟩) 0 ⟨⟨mathNamespace, "mtd"⟩, [], .nil⟩

theorem strayCellNode_mem_lintable (wrapper : Name) :
    strayCellNode wrapper ∈ (Node.root (strayCell wrapper)).lintable :=
  List.mem_filter.mpr ⟨.tail _ (.tail _ (.head _)), rfl⟩

/-- The law on a cell in a row, which the row reports, and on a cell in other foreign markup, which
is reported itself. -/
theorem sweep_misplaced_strayCell :
    let c : Context := { profile := Profile.default, rules := RuleSet.mathml3 }
    let row : Name := ⟨mathNamespace, "mrow"⟩
    let foreign : Name := ⟨"urn:x", "p"⟩
    isMisplaced c (strayCellNode row) = true ∧ isShadowed c (strayCellNode row) = false ∧
    Xor (ReportsSelf c (strayCell row) (strayCellNode row))
      (ReportsChild c (strayCell row) (strayCellNode row)) ∧
    isMisplaced c (strayCellNode foreign) = true ∧ isShadowed c (strayCellNode foreign) = false ∧
    Xor (ReportsSelf c (strayCell foreign) (strayCellNode foreign))
      (ReportsChild c (strayCell foreign) (strayCellNode foreign)) := by
  intro c row foreign
  have hrow : isMisplaced c (strayCellNode row) = true := by decide +kernel
  have hrow' : isShadowed c (strayCellNode row) = false := by decide +kernel
  have hforeign : isMisplaced c (strayCellNode foreign) = true := by decide +kernel
  have hforeign' : isShadowed c (strayCellNode foreign) = false := by decide +kernel
  exact ⟨hrow, hrow', (sweep_misplaced (strayCellNode_mem_lintable row) hrow).1 hrow',
    hforeign, hforeign', (sweep_misplaced (strayCellNode_mem_lintable foreign) hforeign).1 hforeign'⟩

/-- A cell in a foreign row is misplaced, and nobody reports it. -/
theorem not_reported_in_foreign_row :
    let c : Context := { profile := Profile.default, rules := RuleSet.mathml3 }
    let row : Name := ⟨"urn:x", "mrow"⟩
    strayCellNode row ∈ (Node.root (strayCell row)).lintable ∧
    isMisplaced c (strayCellNode row) = true ∧
    ¬ ReportsSelf c (strayCell row) (strayCellNode row) ∧
    ¬ ReportsChild c (strayCell row) (strayCellNode row) := by
  intro c row
  have hmisplaced : isMisplaced c (strayCellNode row) = true := by decide +kernel
  have hmem := strayCellNode_mem_lintable row
  refine ⟨hmem, hmisplaced, ?_, ?_⟩
  · rw [reportsSelf_iff hmem hmisplaced]
    decide +kernel
  · rw [reportsChild_iff hmem]
    decide +kernel

end Check

end MathLint

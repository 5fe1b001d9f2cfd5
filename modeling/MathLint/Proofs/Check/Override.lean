import Mathlib.Data.List.Basic
import MathLint.Proofs.Check.Attributes
import MathLint.Proofs.Check.Rules
import MathLint.Proofs.Schema.Override

/-!
# Linting under overrides

Overrides that give children and attributes only can but relax the schema: unknown attributes and
unlisted children may no longer be reported, and nothing else goes away. An element that its parent
no longer rejects may now be reported as misplaced itself.

* `Relaxed`: how findings change under such overrides.
* `Check.run_relaxed`: the law for one check on one node.
* `Check.sweep_relaxed`: the law for sweeps.
-/

namespace MathLint

/-! ## Relaxed findings -/

/-- The codes of the findings that overrides can change. -/
def overrideCodes : List String := ["L013", "L020", "L030"]

/-- The findings of a code. -/
def ofCode (code : String) (fs : List Finding) : List Finding := fs.filter (·.code == code)

/-- How findings change where the schema is relaxed: of unknown attributes and of unlisted children
some may no longer be reported, more elements may be reported as misplaced, and all other findings
stay. -/
structure Relaxed (strict relaxed : List Finding) : Prop where
  others : (relaxed.filter fun f => !overrideCodes.contains f.code) =
    strict.filter fun f => !overrideCodes.contains f.code
  attributes : (ofCode "L020" relaxed).Sublist (ofCode "L020" strict)
  children : (ofCode "L030" relaxed).Sublist (ofCode "L030" strict)
  misplaced : (ofCode "L013" strict).Sublist (ofCode "L013" relaxed)

namespace Relaxed

variable {fs gs fs' gs' : List Finding}

theorem refl (fs : List Finding) : Relaxed fs fs :=
  ⟨rfl, List.Sublist.refl _, List.Sublist.refl _, List.Sublist.refl _⟩

theorem append (h : Relaxed fs gs) (h' : Relaxed fs' gs') : Relaxed (fs ++ fs') (gs ++ gs') := by
  refine ⟨?_, ?_, ?_, ?_⟩
  · rw [List.filter_append, List.filter_append, h.others, h'.others]
  · simpa only [ofCode, List.filter_append] using h.attributes.append h'.attributes
  · simpa only [ofCode, List.filter_append] using h.children.append h'.children
  · simpa only [ofCode, List.filter_append] using h.misplaced.append h'.misplaced

theorem ite {p : Prop} [Decidable p] (h : Relaxed fs gs) (h' : Relaxed fs' gs') :
    Relaxed (if p then fs else fs') (if p then gs else gs') := by
  split
  · exact h
  · exact h'

theorem flatMap {α : Type} {as : List α} {f g : α → List Finding}
    (h : ∀ a ∈ as, Relaxed (f a) (g a)) : Relaxed (as.flatMap f) (as.flatMap g) := by
  induction as with
  | nil => exact refl []
  | cons a as ih =>
    exact (h a List.mem_cons_self).append (ih fun b hb => h b (List.mem_cons_of_mem _ hb))

theorem ofCode_eq_nil {code : String} (h : ∀ f ∈ fs, f.code ≠ code) : ofCode code fs = [] :=
  List.filter_eq_nil_iff.mpr fun f hf heq => h f hf (beq_iff_eq.mp heq)

theorem others_eq_nil (h : ∀ f ∈ fs, f.code ∈ overrideCodes) :
    (fs.filter fun f => !overrideCodes.contains f.code) = [] :=
  List.filter_eq_nil_iff.mpr fun f hf => by simp [h f hf]

/-- Fewer reports on unknown attributes, or on unlisted children. -/
theorem of_fewer (code : String) (hcode : code ∈ ["L020", "L030"]) (hsub : gs.Sublist fs)
    (hfs : ∀ f ∈ fs, f.code = code) : Relaxed fs gs := by
  have hcodes : ∀ code ∈ ["L020", "L030"], code ∈ overrideCodes ∧ code ≠ "L013" := by decide
  have hchanged := hcodes code hcode
  refine ⟨?_, hsub.filter _, hsub.filter _, ?_⟩
  · rw [others_eq_nil fun f hf => hfs f hf ▸ hchanged.1,
      others_eq_nil fun f hf => hfs f (hsub.subset hf) ▸ hchanged.1]
  · rw [ofCode_eq_nil fun f hf => hfs f hf ▸ hchanged.2]
    exact List.nil_sublist _

/-- More reports on misplaced elements. -/
theorem of_more (hsub : fs.Sublist gs) (hgs : ∀ f ∈ gs, f.code = "L013") : Relaxed fs gs := by
  have hcode : ∀ f ∈ gs, f.code ∈ overrideCodes := fun f hf => hgs f hf ▸ (by decide)
  have hnone {code : String} (hne : "L013" ≠ code) : ofCode code gs = [] :=
    ofCode_eq_nil fun f hf => hgs f hf ▸ hne
  refine ⟨?_, ?_, ?_, hsub.filter _⟩
  · rw [others_eq_nil hcode, others_eq_nil fun f hf => hcode f (hsub.subset hf)]
  · rw [hnone (by decide)]
    exact List.nil_sublist _
  · rw [hnone (by decide)]
    exact List.nil_sublist _

end Relaxed

/-- Two runs fail in the same way, or the findings of the second are relaxed. -/
inductive RelaxedRun : Except Fault (List Finding) → Except Fault (List Finding) → Prop
  | failed (e : Fault) : RelaxedRun (.error e) (.error e)
  | reported {fs gs : List Finding} (h : Relaxed fs gs) : RelaxedRun (.ok fs) (.ok gs)

namespace RelaxedRun

theorem refl (run : Except Fault (List Finding)) : RelaxedRun run run := by
  cases run with
  | error e => exact .failed e
  | ok fs => exact .reported (.refl fs)

theorem of_eq {run run' : Except Fault (List Finding)} (h : run' = run) : RelaxedRun run run' :=
  h ▸ refl run

/-- What is relaxed item by item is relaxed as a whole, and the first fault is the same. -/
theorem gather {α : Type} {as : List α} {f g : α → Except Fault (List Finding)}
    (h : ∀ a ∈ as, RelaxedRun (f a) (g a)) :
    RelaxedRun (MathLint.gather f as) (MathLint.gather g as) := by
  induction as with
  | nil => exact .reported (.refl [])
  | cons a as ih =>
    have hrest := ih fun b hb => h b (List.mem_cons_of_mem _ hb)
    have hfirst := h a List.mem_cons_self
    rw [gather_cons, gather_cons]
    generalize f a = fa at hfirst ⊢
    generalize g a = ga at hfirst ⊢
    generalize MathLint.gather f as = fr at hrest ⊢
    generalize MathLint.gather g as = gr at hrest ⊢
    cases hfirst with
    | failed e => exact .failed e
    | reported hfirst =>
      cases hrest with
      | failed e => exact .failed e
      | reported hrest => exact .reported (hfirst.append hrest)

end RelaxedRun

/-- A report with fewer excuses is made where it was made before. -/
theorem ite_nil_sublist {p q : Bool} (h : p = true → q = true) (fs : List Finding) :
    (if q then [] else fs).Sublist (if p then [] else fs) := by
  cases p with
  | true => rw [h rfl]
  | false => cases q <;> simp

/-! ## The checks that read rules -/

/-- A context with other rules. -/
def Context.withRules (c : Context) (rules : RuleSet) : Context := { c with rules }

namespace Structure

open RuleSet

variable {bundle : Bundle} {overrides : List (String × Override)} {c : Context} {n : Node}
  (h : ∀ o ∈ overrides, o.2.IsExtension)

include h

/-- The rule of a tag with and without the overrides. -/
theorem rule?_relaxed (c : Context) (tag : String) :
    (c.withRules (build bundle overrides)).rules.rule? tag =
        (c.withRules (build bundle [])).rules.rule? tag ∨
      ∃ narrow children attributes,
        (c.withRules (build bundle [])).rules.rule? tag = some narrow ∧
        (c.withRules (build bundle overrides)).rules.rule? tag =
          some { narrow with children, attributes } ∧
        narrow.children ⊆ children ∧ narrow.attributes ⊆ attributes := by
  rcases rule?_build_cases bundle h tag with
    ⟨hn, hw⟩ | ⟨narrow, wide, hn, hw, children, attributes, rfl, hsub⟩
  · exact .inl (hw.trans hn.symm)
  · exact .inr ⟨narrow, children, attributes, hn, hw, hsub⟩

theorem relisted_relaxed (c : Context) (tag : String) :
    (c.withRules (build bundle [])).rules.Relisted (c.withRules (build bundle overrides)).rules
      tag := by
  rcases rule?_relaxed h c tag with hr | ⟨narrow, children, attributes, hn, hw, -⟩
  · exact relisted_of_eq hr
  · refine ⟨children, attributes, ?_⟩
    rw [hn, hw, Option.map_some]

theorem tag_relaxed :
    tag (c.withRules (build bundle overrides)) n = tag (c.withRules (build bundle [])) n := by
  unfold tag
  rw [legacy_of_relisted (relisted_relaxed h c n.tag) rfl]
  rfl

/-- A parent that rejects a tag under the overrides does so without them. -/
theorem rejects_of_relaxed {parent : Node} {tag : String}
    (hrejects : rejects (c.withRules (build bundle overrides)) parent tag = true) :
    rejects (c.withRules (build bundle [])) parent tag = true := by
  unfold rejects at hrejects ⊢
  rcases rule?_relaxed h c parent.tag with hr | ⟨narrow, children, attributes, hn, hw, hsub, -⟩
  · rwa [hr] at hrejects
  · rw [hw] at hrejects
    rw [hn]
    simp only [Option.any_some, Rule.acceptsAnyChild, Bool.and_eq_true, Bool.not_eq_true',
      List.contains_eq_mem, decide_eq_false_iff_not] at hrejects ⊢
    exact ⟨fun hany => hrejects.1 (hsub hany), fun hlisted => hrejects.2 (hsub hlisted)⟩

/-- Fewer children are unlisted. -/
theorem children_relaxed :
    Relaxed (children (c.withRules (build bundle [])) n)
      (children (c.withRules (build bundle overrides)) n) := by
  refine .of_fewer "L030" (by decide) ?_ ?_
  · refine (List.monotone_filter_right _ fun m hm => ?_).map _
    rw [Bool.and_eq_true] at hm ⊢
    exact ⟨hm.1, rejects_of_relaxed h hm.2⟩
  · intro f hf
    obtain ⟨m, -, rfl⟩ := List.mem_map.mp hf
    rfl

/-- More elements are misplaced: an element that its parent rejects is excused. -/
theorem parent_relaxed :
    Relaxed (parent (c.withRules (build bundle [])) n)
      (parent (c.withRules (build bundle overrides)) n) := by
  have hexcused (rule : Rule) :
      (rule.onlyValidIn.isEmpty || n.parent?.any fun p => rule.onlyValidIn.contains p.tag ||
        rejects (c.withRules (build bundle overrides)) p n.tag) = true →
      (rule.onlyValidIn.isEmpty || n.parent?.any fun p => rule.onlyValidIn.contains p.tag ||
        rejects (c.withRules (build bundle [])) p n.tag) = true := by
    cases n.parent? with
    | none => exact id
    | some p =>
      simp only [Option.any_some, Bool.or_eq_true]
      exact Or.imp_right (Or.imp_right (rejects_of_relaxed h))
  refine .of_more ?_ fun f hf => ?_
  · unfold parent
    rcases rule?_relaxed h c n.tag with hr | ⟨narrow, children, attributes, hn, hw, -⟩
    · rw [hr]
      cases (c.withRules (build bundle [])).rules.rule? n.tag with
      | none => exact List.Sublist.refl _
      | some rule => exact ite_nil_sublist (hexcused rule) _
    · rw [hn, hw]
      exact ite_nil_sublist (hexcused narrow) _
  · have hcode := (covers_parent _ n false).code_mem hf
    exact List.mem_singleton.mp hcode

theorem allowsAttribute_relaxed {name : String}
    (hallows : allowsAttribute (allowedAttributes (c.withRules (build bundle [])) n) name = true) :
    allowsAttribute (allowedAttributes (c.withRules (build bundle overrides)) n) name = true := by
  have hsub : allowedAttributes (c.withRules (build bundle [])) n ⊆
      allowedAttributes (c.withRules (build bundle overrides)) n := by
    unfold allowedAttributes
    rcases rule?_relaxed h c n.tag with hr | ⟨narrow, children, attributes, hn, hw, -, hsub⟩
    · rw [hr]
      exact List.Subset.refl _
    · rw [hn, hw]
      exact List.append_subset.mpr ⟨List.subset_append_left _ _,
        List.Subset.trans hsub (List.subset_append_right _ _)⟩
  unfold allowsAttribute at hallows ⊢
  simp only [Bool.or_eq_true, Bool.and_eq_true, List.contains_iff_mem] at hallows ⊢
  rcases hallows with (hname | hdata) | hevent
  · exact .inl (.inl (hsub hname))
  · exact .inl (.inr ⟨hsub hdata.1, hdata.2⟩)
  · exact .inr ⟨hsub hevent.1, hevent.2⟩

/-- Fewer attributes are unknown. -/
theorem attributeName_relaxed (name : String) :
    Relaxed (attributeName (c.withRules (build bundle [])) n name)
      (attributeName (c.withRules (build bundle overrides)) n name) := by
  unfold attributeName
  -- the rule of the node counts in the last of the cases only
  refine .ite (.refl _) (.ite (.refl _) (.ite (.refl _) (.ite (.refl _) ?_)))
  refine .of_fewer "L020" (by decide) (ite_nil_sublist (allowsAttribute_relaxed h) _) ?_
  intro f hf
  split at hf
  · cases hf
  · rw [List.mem_singleton.mp hf]
    rfl

theorem attributes_relaxed :
    Relaxed (attributes (c.withRules (build bundle [])) n)
      (attributes (c.withRules (build bundle overrides)) n) :=
  .flatMap fun a _ => attributeName_relaxed h a.1

end Structure

/-! ## Sweeps -/

namespace Check

open RuleSet

variable {bundle : Bundle} {overrides : List (String × Override)} {c : Context}

/-- What a check reports about a node under extensions of the rules is relaxed. -/
theorem run_relaxed (h : ∀ o ∈ overrides, o.2.IsExtension) (n : Node) (k : Check) :
    RelaxedRun (k.run (c.withRules (build bundle [])) n)
      (k.run (c.withRules (build bundle overrides)) n) := by
  have hlists : (c.withRules (build bundle [])).rules.Relisted
      (c.withRules (build bundle overrides)).rules n.tag := Structure.relisted_relaxed h c n.tag
  cases k with
  | parent => exact .reported (Structure.parent_relaxed h)
  | attributes => exact .reported (Structure.attributes_relaxed h)
  | children => exact .reported (Structure.children_relaxed h)
  | tag => exact .of_eq (Structure.tag_relaxed h)
  | deprecatedAttributes =>
    exact .of_eq (congrArg Except.ok (Structure.deprecatedAttributes_of_relisted hlists rfl))
  | requiredAttributes =>
    exact .of_eq (congrArg Except.ok (Structure.requiredAttributes_of_relisted hlists))
  | arity => exact .of_eq (congrArg Except.ok (Structure.arity_of_relisted hlists))
  -- the other checks read no rules of elements
  | attributeValues | mathvariant | tokens | coreSupport | splitNumber | scriptBase | functionNames
  | functionApplication | operand | semantics | negativeSpace | times | separator | plus | hints =>
    exact .of_eq rfl

/-- Overrides that give children and attributes only can but relax a schema. A sweep under them
fails as one without them does, or its findings are relaxed: without the reports on misplaced
elements, unknown attributes and unlisted children the findings are the same, those on attributes
and on children are among those without overrides, and those on misplaced elements are all still
there. Overrides for tags that the bundle does not have change nothing, and all of this holds as
well of overrides that are given as loosely typed values. -/
theorem sweep_relaxed (h : ∀ o ∈ overrides, o.2.IsExtension) (bundle : Bundle) (c : Context)
    (checks : List Check) (nodes : List Node) :
    RelaxedRun (sweep (c.withRules (build bundle [])) checks nodes)
        (sweep (c.withRules (build bundle overrides)) checks nodes) ∧
      build bundle (overrides.filter fun o => bundle.knownTags.contains o.1) =
        build bundle overrides ∧
      buildLoose bundle (overrides.map fun o => (o.1, o.2.toValue)) =
        .ok (build bundle overrides) :=
  ⟨.gather fun n _ => .gather fun k _ => run_relaxed h n k, build_filter_knownTags bundle overrides,
    buildLoose_toValue h⟩

/-- A formula with a cell and an unknown attribute in a row. -/
def glowingRow : Xml.Element :=
  { name := ⟨mathNamespace, "math"⟩
    attributes := []
    content := .element ⟨mathNamespace, "mrow"⟩ [(⟨"", "glow"⟩, "1"), (⟨"", "dim"⟩, "1")]
      (.element ⟨mathNamespace, "mtd"⟩ [] .nil .nil) .nil }

/-- The law on `glowingRow` with a row that may hold cells and glow: of the two unknown attributes
one is left, and the cell is now reported itself. -/
theorem sweep_relaxed_glowingRow :
    let bundle := Bundle.build .mathml3 true
    let overrides : List (String × Override) :=
      [("mrow", { children := ["MTD"], attributes := ["Glow"] }),
        ("nosuch", { children := ["mi"] })]
    let c : Context := { profile := Profile.default, rules := mathml3 }
    let checks := [tag, parent, attributes, children]
    ∃ strict relaxed,
      sweep (c.withRules (build bundle [])) checks (Node.root glowingRow).lintable = .ok strict ∧
      sweep (c.withRules (build bundle overrides)) checks (Node.root glowingRow).lintable =
        .ok relaxed ∧
      strict.map (·.code) = ["L020", "L020", "L030"] ∧
      relaxed.map (·.code) = ["L020", "L013"] ∧ Relaxed strict relaxed := by
  intro bundle overrides c checks
  have hext : ∀ o ∈ overrides, o.2.IsExtension := by decide
  have hstrict : ((sweep (c.withRules (build bundle [])) checks
      (Node.root glowingRow).lintable).toOption.map fun fs => fs.map (·.code)) =
      some ["L020", "L020", "L030"] := by
    decide +kernel
  have hrelaxed : ((sweep (c.withRules (build bundle overrides)) checks
      (Node.root glowingRow).lintable).toOption.map fun fs => fs.map (·.code)) =
      some ["L020", "L013"] := by
    decide +kernel
  have law := (sweep_relaxed hext bundle c checks (Node.root glowingRow).lintable).1
  generalize sweep (c.withRules (build bundle [])) checks (Node.root glowingRow).lintable = s at *
  generalize sweep (c.withRules (build bundle overrides)) checks (Node.root glowingRow).lintable = r
    at *
  cases law with
  | failed e => cases hstrict
  | reported hlaw =>
    exact ⟨_, _, rfl, rfl, Option.some.inj hstrict, Option.some.inj hrelaxed, hlaw⟩

end Check

end MathLint

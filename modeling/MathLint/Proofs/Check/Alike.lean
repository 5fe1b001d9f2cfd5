import MathLint.Proofs.Node.Alike
import MathLint.Proofs.Sweep

/-!
# What checks see

No check of MathML tells nodes apart that look alike: it trims what it reads of attribute values and
of text, reads the attributes of the node only, but for the spaces in a padded element, and the text
of tokens only, and looks above a node no further than its alike nodes agree.

* `map_filter_of_forall₂`, `forall₂_longRuns`, `forall₂_neighbours`: what a list of items gives
  follows from what its items give.
* `Check.run_of_alike`: a check reports the same about alike nodes, if they are MathML.
* `Check.sweep_of_alike`: so does a sweep over the nodes below them.
-/

namespace MathLint

open List (Forall₂)
open Xml

/-! ## Lists of corresponding items -/

section Lists

variable {α β γ : Type} {R : α → β → Prop} {as : List α} {bs : List β}

theorem map_of_forall₂ {f : α → γ} {g : β → γ} (h : Forall₂ R as bs)
    (hfg : ∀ a b, R a b → f a = g b) : as.map f = bs.map g := by
  induction h with
  | nil => rfl
  | cons hab _ ih => rw [List.map_cons, List.map_cons, hfg _ _ hab, ih]

theorem flatMap_of_forall₂ {f : α → List γ} {g : β → List γ} (h : Forall₂ R as bs)
    (hfg : ∀ a b, R a b → f a = g b) : as.flatMap f = bs.flatMap g := by
  rw [List.flatMap_def, List.flatMap_def, map_of_forall₂ h hfg]

theorem map_filter_of_forall₂ {p : α → Bool} {q : β → Bool} {f : α → γ} {g : β → γ}
    (h : Forall₂ R as bs) (hpq : ∀ a b, R a b → p a = q b)
    (hfg : ∀ a b, R a b → p a = true → f a = g b) :
    (as.filter p).map f = (bs.filter q).map g := by
  induction h with
  | nil => rfl
  | @cons a b _ _ hab _ ih =>
    rw [List.filter_cons, List.filter_cons, ← hpq a b hab]
    split
    · rename_i hp
      rw [List.map_cons, List.map_cons, hfg a b hab hp, ih]
    · exact ih

theorem gather_of_forall₂ {f : α → Except Fault (List γ)} {g : β → Except Fault (List γ)}
    (h : Forall₂ R as bs) (hfg : ∀ a b, R a b → f a = g b) : gather f as = gather g bs := by
  induction h with
  | nil => rfl
  | cons hab _ ih => rw [gather_cons, gather_cons, hfg _ _ hab, ih]

theorem isEmpty_of_forall₂ (h : Forall₂ R as bs) : as.isEmpty = bs.isEmpty := by
  cases h <;> rfl

theorem head?_of_forall₂ (h : Forall₂ R as bs) : Option.Rel R as.head? bs.head? := by
  cases h with
  | nil => exact .none
  | cons hab _ => exact .some hab

theorem forall₂_neighbours (h : Forall₂ R as bs) :
    Forall₂ (fun a b => R a.1 b.1 ∧ R a.2 b.2) (Shape.neighbours as) (Shape.neighbours bs) := by
  induction h with
  | nil => exact .nil
  | cons hab htail ih =>
    cases htail with
    | nil => exact .nil
    | cons hab' _ => exact .cons ⟨hab, hab'⟩ ih

end Lists

/-! ## One test on corresponding items -/

section Tests

variable {α : Type} {R Q : α → α → Prop} {p : α → Bool} {as bs : List α}

theorem any_of_forall₂ (h : Forall₂ R as bs) (hp : ∀ a b, R a b → p a = p b) :
    as.any p = bs.any p := by
  induction h with
  | nil => rfl
  | cons hab _ ih => rw [List.any_cons, List.any_cons, hp _ _ hab, ih]

theorem any_of_rel {a b : Option α} (h : Option.Rel R a b) (hp : ∀ a b, R a b → p a = p b) :
    a.any p = b.any p := by
  cases h with
  | none => rfl
  | some hab => exact hp _ _ hab

theorem find?_of_forall₂ (h : Forall₂ R as bs) (hp : ∀ a b, R a b → p a = p b) :
    Option.Rel R (as.find? p) (bs.find? p) := by
  induction h with
  | nil => exact .none
  | @cons a b _ _ hab _ ih =>
    rw [List.find?_cons, List.find?_cons, ← hp a b hab]
    split
    · exact .some hab
    · exact ih

theorem forall₂_runsFrom (hp : ∀ a b, R a b → p a = p b)
    (hQ : ∀ a b, R a b → p a = true → Q a b) {run run' : List α} (hrun : Forall₂ Q run run')
    (h : Forall₂ R as bs) : Forall₂ (Forall₂ Q) (runsFrom p run as) (runsFrom p run' bs) := by
  induction h generalizing run run' with
  | nil =>
    unfold runsFrom
    rw [isEmpty_of_forall₂ hrun]
    split
    · exact .nil
    · exact .cons (List.rel_reverse hrun) .nil
  | @cons a b as bs hab _ ih =>
    unfold runsFrom
    rw [← hp a b hab, isEmpty_of_forall₂ hrun]
    split
    · rename_i hpass
      exact ih (.cons (hQ a b hab hpass) hrun)
    · split
      · exact ih .nil
      · exact .cons (List.rel_reverse hrun) (ih .nil)

/-- The runs of some length in corresponding lists correspond, and so do their items. -/
theorem forall₂_longRuns (k : Nat) (hp : ∀ a b, R a b → p a = p b)
    (hQ : ∀ a b, R a b → p a = true → Q a b) (h : Forall₂ R as bs) :
    Forall₂ (Forall₂ Q) ((runs p as).filter fun run => k ≤ run.length)
      ((runs p bs).filter fun run => k ≤ run.length) := by
  refine List.rel_filter (fun run run' hrun => ?_) (forall₂_runsFrom hp hQ .nil h)
  simp only [hrun.length_eq]

end Tests

variable {s : RuleSet} {c : Context} {n m : Node}

/-! ## Shapes -/

namespace Shape

open Node

/-- What is said of the text of a token is the same for alike nodes. -/
theorem tokenText_of_alike (h : Alike s n m) {tag : String} (htag : tag ∈ textTags) {a b : Bool}
    (hab : n.trimmed = m.trimmed → a = b) : (n.tag == tag && a) = (m.tag == tag && b) := by
  by_cases hn : n.tag = tag
  · rw [hab (h.trimmed (hn ▸ htag)), h.tag]
  · rw [← h.tag, beq_eq_false_iff_ne.mpr hn, Bool.false_and, Bool.false_and]

theorem textIs_of_alike (h : Alike s n m) {tag : String} (htag : tag ∈ textTags)
    (texts : List String) : textIs n tag texts = textIs m tag texts :=
  tokenText_of_alike h htag fun htext => by rw [htext]

theorem isSingleLetter_of_alike (h : Alike s n m) : isSingleLetter n = isSingleLetter m :=
  tokenText_of_alike h (by decide) fun htext => by rw [htext]

theorem isSingleLower_of_alike (h : Alike s n m) : isSingleLower n = isSingleLower m :=
  tokenText_of_alike h (by decide) fun htext => by rw [htext]

theorem isFunctionName_of_alike (h : Alike s n m) : isFunctionName n = isFunctionName m :=
  textIs_of_alike h (by decide) _

theorem isLargeOperatorToken_of_alike (h : Alike s n m) :
    isLargeOperatorToken n = isLargeOperatorToken m := by
  simp only [isLargeOperatorToken, Bool.and_or_distrib_right]
  refine congrArg₂ or (tokenText_of_alike h (by decide) fun htext => ?_)
    (tokenText_of_alike h (by decide) fun htext => ?_) <;> rw [htext]

theorem firstChild?_of_alike (h : Alike s n m) :
    Option.Rel (Paired s) n.firstChild? m.firstChild? := head?_of_forall₂ h.children

theorem isLargeOperator_of_alike (h : Alike s n m) : isLargeOperator n = isLargeOperator m := by
  rw [isLargeOperator, isLargeOperator, isLargeOperatorToken_of_alike h, h.tag,
    any_of_rel (firstChild?_of_alike h) fun a b hab => isLargeOperatorToken_of_alike hab.1]

theorem isFunctionHead_of_alike (h : Alike s n m) : isFunctionHead n = isFunctionHead m := by
  rw [isFunctionHead, isFunctionHead, isFunctionName_of_alike h, h.tag,
    any_of_rel (firstChild?_of_alike h) fun a b hab => isFunctionName_of_alike hab.1]

theorem isIndexLike_of_alike (h : Alike s n m) : isIndexLike n = isIndexLike m := by
  cases h with
  | root _ => rfl
  | math _ hn =>
    cases m with
    | root e => rfl
    | child p i e =>
      have hp := hn.ancestors p List.mem_cons_self
      simp only [outerTags, List.mem_cons, List.not_mem_nil, or_false, not_or] at hp
      simp [isIndexLike, parent?, hp]
  | child hpq he =>
    simp only [isIndexLike, parent?, index]
    rw [hpq.tag, (Alike.child hpq he).tag]
    rfl

theorem isRow_of_alike (h : Alike s n m) : isRow n = isRow m := by
  rw [isRow, isRow, h.tag, isIndexLike_of_alike h]

theorem wordIndices_of_alike (h : Alike s n m) :
    wordIndices n.children = wordIndices m.children := by
  have hlong := forall₂_longRuns (Q := fun a b => a.index = b.index) 3
    (fun a b hab => isSingleLetter_of_alike hab.1) (fun a b hab _ => hab.2) h.children
  exact map_of_forall₂ (List.rel_flatten hlong) fun a b hab => hab

end Shape

/-! ## Structural checks -/

namespace Structure

open Node

theorem tag_of_alike (h : Alike s n m) : tag c n = tag c m := by
  unfold tag boundary legacy isAnnotationContent
  rw [h.tag, h.hasAncestor]

theorem rejects_of_alike (h : Alike s n m) (tag : String) : rejects c n tag = rejects c m tag := by
  rw [rejects, rejects, h.tag]

theorem parent_of_alike (h : Alike c.rules n m) : parent c n = parent c m := by
  cases h with
  | root he =>
    unfold parent
    rw [(Alike.root he : Alike c.rules _ _).tag]
    rfl
  | math hfree hn =>
    -- the rule of `math` does not look at the parent
    have hnone : ∀ n : Node, n.tag = "math" → parent c n = [] := by
      intro n htag
      unfold parent
      rw [htag]
      split
      · rfl
      · rename_i rule hrule
        simp [hfree rule hrule]
    rw [hnone m hn.tag, hnone (.root m.element) hn.tag]
  | child hpq he =>
    unfold parent
    simp only [parent?, Option.any_some, rejects_of_alike hpq]
    rw [(Alike.child hpq he).tag, hpq.tag]
    rfl

theorem attributeName_of_alike (h : Alike s n m) (name : String) :
    attributeName c n name = attributeName c m name := by
  unfold attributeName allowedAttributes
  rw [h.tag]

theorem attributes_of_alike (h : Alike s n m) (hread : n.isRead = true) :
    attributes c n = attributes c m :=
  flatMap_of_forall₂ (h.attributes hread) fun a b hab => by rw [hab.1, attributeName_of_alike h]

theorem deprecatedAttributes_of_alike (h : Alike s n m) (hread : n.isRead = true) :
    deprecatedAttributes c n = deprecatedAttributes c m := by
  have hnames : deprecatedNames c n = deprecatedNames c m := by
    unfold deprecatedNames
    rw [h.tag]
  refine map_filter_of_forall₂ (h.attributes hread) (fun a b hab => ?_) fun a b hab _ => ?_
  · rw [hnames, hab.1]
  · rw [hab.1, h.tag]

theorem requiredAttributes_of_alike (h : Alike s n m) (hread : n.isRead = true) :
    requiredAttributes c n = requiredAttributes c m := by
  have hhas : n.hasAttribute = m.hasAttribute := funext (h.hasAttribute hread)
  unfold requiredAttributes
  rw [h.tag, hhas]

theorem valueAgainst_of_alike (h : Alike s n m) (name value : String) :
    valueAgainst n name value = valueAgainst m name value := by
  funext rule
  unfold valueAgainst
  rw [h.tag]

theorem attributeValues_of_alike (h : Alike s n m) (hread : n.isRead = true) :
    attributeValues c n = attributeValues c m :=
  gather_of_forall₂ (h.attributes hread) fun a b hab => by
    rw [hab.1, hab.2, valueAgainst_of_alike h, h.tag]

theorem mathvariant_of_alike (h : Alike s n m) (hread : n.isRead = true) :
    mathvariant c n = mathvariant c m := by
  have hvalue := h.attribute? hread "mathvariant"
  unfold mathvariant
  cases hn : n.attribute? "mathvariant" with
  | none =>
    cases hm : m.attribute? "mathvariant" with
    | none => rfl
    | some value => simp [hn, hm] at hvalue
  | some value =>
    cases hm : m.attribute? "mathvariant" with
    | none => simp [hn, hm] at hvalue
    | some value' =>
      rw [hn, hm] at hvalue
      dsimp only
      rw [h.tag, Option.some.inj hvalue]

theorem children_of_alike (h : Alike s n m) : children c n = children c m := by
  refine map_filter_of_forall₂ h.children (fun a b hab => ?_) fun a b hab _ => ?_
  · rw [hab.1.isForeign, hab.1.tag, rejects_of_alike h]
  · rw [hab.1.tag, h.tag]

theorem arity_of_alike (h : Alike s n m) : arity c n = arity c m := by
  unfold arity
  rw [h.tag, h.children.length_eq]

theorem tokens_of_alike (h : Alike s n m) : tokens n = tokens m := by
  have hany := any_of_forall₂ (p := fun m => !isInnerToken m) h.children fun a b hab => by
    rw [isInnerToken, isInnerToken, hab.1.tag]
  unfold tokens
  rw [h.tag, hany]

theorem attributeConcern?_of_alike (h : Alike s n m) (name : String) {value value' : String}
    (hvalue : Text.trim value = Text.trim value') :
    attributeConcern? n name value = attributeConcern? m name value' := by
  rw [attributeConcern?, attributeConcern?, h.tag, hvalue]

theorem coreSupport_of_alike (h : Alike s n m) (hread : n.isRead = true) :
    coreSupport c n = coreSupport c m := by
  unfold coreSupport
  rw [h.tag]
  refine congrArg _ ?_
  refine flatMap_of_forall₂ (h.attributes hread) fun a b hab => ?_
  dsimp only
  rw [hab.1, attributeConcern?_of_alike h b.1 hab.2]

end Structure

/-! ## Checks for ambiguous notation -/

namespace Ambiguity

open Node Shape

theorem isSplitNumber_of_alike {head head' comma comma' tail tail' : Node}
    (hhead : Alike s head head') (hcomma : Alike s comma comma') (htail : Alike s tail tail') :
    isSplitNumber head comma tail = isSplitNumber head' comma' tail' := by
  unfold isSplitNumber
  rw [textIs_of_alike hcomma (by decide), ← hhead.tag, ← htail.tag]
  by_cases h : head.tag = "mn" ∧ tail.tag = "mn"
  · rw [hhead.trimmed (h.1 ▸ by decide), htail.trimmed (h.2 ▸ by decide)]
  · rcases not_and_or.mp h with h | h
    · simp only [beq_eq_false_iff_ne.mpr h, Bool.false_and]
    · simp only [beq_eq_false_iff_ne.mpr h, Bool.and_false, Bool.false_and]

theorem splitNumber?_of_forall₂ {as bs : List Node} (h : Forall₂ (Paired s) as bs) :
    Option.Rel (fun x y => x.1.trimmed = y.1.trimmed ∧ x.2.trimmed = y.2.trimmed)
      (splitNumber? as) (splitNumber? bs) := by
  fun_induction splitNumber? as generalizing bs with
  | case1 head comma tail rest hsplit =>
    obtain ⟨head', _, hhead, h₁, rfl⟩ := List.forall₂_cons_left_iff.mp h
    obtain ⟨comma', _, hcomma, h₂, rfl⟩ := List.forall₂_cons_left_iff.mp h₁
    obtain ⟨tail', _, htail, -, rfl⟩ := List.forall₂_cons_left_iff.mp h₂
    rw [splitNumber?, if_pos (isSplitNumber_of_alike hhead.1 hcomma.1 htail.1 ▸ hsplit)]
    simp only [isSplitNumber, Bool.and_eq_true, beq_iff_eq] at hsplit
    exact .some ⟨hhead.1.trimmed (hsplit.1.1.1.1 ▸ by decide),
      htail.1.trimmed (hsplit.1.1.1.2 ▸ by decide)⟩
  | case2 head comma tail rest hsplit ih =>
    obtain ⟨head', _, hhead, h₁, rfl⟩ := List.forall₂_cons_left_iff.mp h
    have hrest := ih h₁
    obtain ⟨comma', _, hcomma, h₂, rfl⟩ := List.forall₂_cons_left_iff.mp h₁
    obtain ⟨tail', _, htail, -, rfl⟩ := List.forall₂_cons_left_iff.mp h₂
    rwa [splitNumber?, if_neg (isSplitNumber_of_alike hhead.1 hcomma.1 htail.1 ▸ hsplit)]
  | case3 as hshort =>
    have hnone : splitNumber? bs = none := by
      unfold splitNumber?
      split
      · rename_i head' comma' tail' rest'
        obtain ⟨head, _, -, h₁, rfl⟩ := List.forall₂_cons_right_iff.mp h
        obtain ⟨comma, _, -, h₂, rfl⟩ := List.forall₂_cons_right_iff.mp h₁
        obtain ⟨tail, rest, -, -, rfl⟩ := List.forall₂_cons_right_iff.mp h₂
        exact (hshort head comma tail rest rfl).elim
      · rfl
    rw [hnone]
    exact .none

theorem splitNumber_of_alike (h : Alike s n m) : splitNumber n = splitNumber m := by
  have hsplit := splitNumber?_of_forall₂ h.children
  unfold splitNumber
  generalize splitNumber? n.children = x at hsplit ⊢
  generalize splitNumber? m.children = y at hsplit ⊢
  cases hsplit with
  | none => rfl
  | some hab =>
    simp only [Option.toList, List.map_cons, List.map_nil]
    rw [hab.1, hab.2]

theorem isEmpty_children_of_alike (h : Alike s n m) :
    n.children.isEmpty = m.children.isEmpty := isEmpty_of_forall₂ h.children

theorem scriptBase_of_alike (h : Alike s n m) : scriptBase n = scriptBase m := by
  have hfirst := firstChild?_of_alike h
  unfold scriptBase
  rw [h.tag]
  generalize n.firstChild? = x at hfirst ⊢
  generalize m.firstChild? = y at hfirst ⊢
  cases hfirst with
  | none => rfl
  | @some base base' hbase =>
    dsimp only
    rw [← hbase.1.tag, isEmpty_children_of_alike hbase.1]
    by_cases hmo : base.tag = "mo"
    · rw [hbase.1.trimmed (hmo ▸ by decide)]
    · simp only [beq_eq_false_iff_ne.mpr hmo, Bool.false_and, Bool.false_eq_true, if_false]

theorem functionNames_of_alike (h : Alike s n m) : functionNames n = functionNames m := by
  have htrimmed : ∀ a b : Node, Paired s a b → isSingleLower a = true →
      a.trimmed = b.trimmed := by
    intro a b hab hlower
    simp only [isSingleLower, Bool.and_eq_true, beq_iff_eq] at hlower
    exact hab.1.trimmed (hlower.1 ▸ by decide)
  have hlong := forall₂_longRuns 2 (fun a b hab => isSingleLower_of_alike hab.1) htrimmed h.children
  refine flatMap_of_forall₂ hlong fun run run' hrun => ?_
  rw [map_of_forall₂ hrun fun a b hab => hab]

theorem applied?_of_alike (h : Alike s n m) (htag : n.tag ≠ "math") :
    Option.Rel (fun a b => Alike s a b ∧ a.tag ≠ "math") (applied? n) (applied? m) := by
  have hscript : ∀ tag ∈ scriptTags, tag ≠ "math" := by decide
  cases h with
  | root he => exact .some ⟨.root he, htag⟩
  | math _ hn => exact absurd hn.tag htag
  | @child p q i e e' hpq he =>
    have hindex : (child q i e').index = (child p i e).index := rfl
    simp only [applied?, parent?]
    rw [← hpq.tag, hindex]
    by_cases hp : scriptTags.contains p.tag
    · rw [if_pos hp, if_pos hp]
      by_cases hi : (child p i e).index == 0
      · rw [if_pos hi, if_pos hi]
        exact .some ⟨hpq, hscript _ (List.contains_iff_mem.mp hp)⟩
      · rw [if_neg hi, if_neg hi]
        exact .none
    · rw [if_neg hp, if_neg hp]
      exact .some ⟨.child hpq he, htag⟩

theorem functionApplication_of_alike (h : Alike s n m) :
    functionApplication n = functionApplication m := by
  unfold functionApplication
  rw [← isFunctionName_of_alike h]
  split
  · rename_i hname
    simp only [isFunctionName, textIs, Bool.and_eq_true, beq_iff_eq] at hname
    have happlied := applied?_of_alike h (by rw [hname.1]; decide)
    generalize applied? n = x at happlied ⊢
    generalize applied? m = y at happlied ⊢
    cases happlied with
    | none => rfl
    | @some target target' htarget =>
      have hnext : Option.Rel (Paired s) target.nextSibling? target'.nextSibling? :=
        head?_of_forall₂ (htarget.1.followingSiblings htarget.2)
      dsimp only
      rw [any_of_rel hnext fun a b hab => textIs_of_alike hab.1 (by decide) _,
        h.trimmed (hname.1 ▸ by decide)]
  · rfl

theorem isBase_of_alike (h : Alike s n m) (htag : n.tag ≠ "math") : isBase n = isBase m := by
  obtain ⟨hparent, hindex⟩ := h.place htag
  have hany : ∀ n : Node, isBase n =
      (n.parent?.map Node.tag).any fun tag => scriptTags.contains tag && n.index == 0 := by
    intro n
    rw [Option.any_map]
    rfl
  rw [hany, hany, hparent, hindex]

theorem isLargeOperator_of_math (h : n.tag = "math") : isLargeOperator n = false := by
  simp [isLargeOperator, isLargeOperatorToken, limitTags, h]

theorem operand_of_alike (h : Alike s n m) : operand n = operand m := by
  unfold operand
  dsimp only
  by_cases htag : n.tag = "math"
  · rw [isLargeOperator_of_math htag, isLargeOperator_of_math (h.tag ▸ htag)]
    rfl
  · have hfollowing := h.followingSiblings htag
    have hfind := find?_of_forall₂ (p := fun m => !textIs m "mo" invisibleOperators) hfollowing
      fun a b hab => by rw [textIs_of_alike hab.1 (by decide)]
    rw [isLargeOperator_of_alike h, isBase_of_alike h htag, hfollowing.length_eq]
    congr 1
    generalize n.followingSiblings.find? _ = x at hfind ⊢
    generalize m.followingSiblings.find? _ = y at hfind ⊢
    cases hfind with
    | none => rfl
    | some hab =>
      dsimp only
      rw [hab.1.tag]

theorem isPayload_of_alike (h : Alike s n m) : isPayload n = isPayload m := by
  rw [isPayload, isPayload, h.tag, isEmpty_children_of_alike h, h.isEmpty_trimmed]

theorem semantics_of_alike (h : Alike s n m) : semantics c n = semantics c m := by
  have hpayload := any_of_forall₂ (p := isPayload) h.children
    fun a b hab => isPayload_of_alike hab.1
  have hannotation := any_of_forall₂ (p := isAnnotation) h.descendants
    fun a b hab => by rw [ isAnnotation, isAnnotation, hab.tag]
  unfold semantics
  rw [h.tag, hpayload, hannotation]

theorem isNegative_of_alike (h : Alike s n m) (hread : n.isRead = true) (name : String) :
    isNegative n name = isNegative m name := by
  have hany : ∀ n : Node, isNegative n name = ((n.attribute? name).map Text.trim).any fun value =>
      Text.beginsWith "-" (Text.lower value) || Text.beginsWith "negative" (Text.lower value) := by
    intro n
    unfold isNegative
    cases n.attribute? name with
    | none => rw [Option.map_none, Option.any_none]
    | some value => rw [Option.map_some, Option.any_some]
  rw [hany, hany, h.attribute? hread]

/-- The spaces in a padded element are read with it. -/
theorem overlaps_of_alike (h : Alike s n m) (hown : n.isForeign = false)
    (hpadded : n.tag = "mpadded") : overlaps n = overlaps m := by
  have hchildren := (List.forall₂_and_left _ _).mpr ⟨fun a (ha : a ∈ n.children) => ha, h.children⟩
  have hspace : ∀ a b : Node, a ∈ n.children ∧ Paired s a b →
      (a.tag == "mspace" && isNegative a "width") =
        (b.tag == "mspace" && isNegative b "width") := by
    rintro a b ⟨ha, hab⟩
    rw [← hab.1.tag]
    by_cases htag : a.tag = "mspace"
    · rw [isNegative_of_alike hab.1 (isRead_of_space ha hown hpadded htag)]
    · simp only [beq_eq_false_iff_ne.mpr htag, Bool.false_and]
  have hvisible : ∀ a b : Node, Paired s a b →
      (["mi", "mo", "mn", "mtext"].contains a.tag && !a.trimmed.isEmpty) =
        (["mi", "mo", "mn", "mtext"].contains b.tag && !b.trimmed.isEmpty) := by
    intro a b hab
    rw [hab.1.tag, hab.1.isEmpty_trimmed]
  unfold overlaps
  rw [any_of_forall₂ hchildren hspace, any_of_forall₂ h.children hvisible,
    funext (isNegative_of_alike h (isRead_of_own hown))]

theorem negativeSpace_of_alike (h : Alike s n m) (hown : n.isForeign = false) :
    negativeSpace n = negativeSpace m := by
  have hread := isRead_of_own hown
  have hwidth : ∀ n : Node, Text.trim ((n.attribute? "width").getD "") =
      ((n.attribute? "width").map Text.trim).getD "" := by
    intro n
    cases n.attribute? "width" <;> rfl
  unfold negativeSpace
  rw [← h.tag, isNegative_of_alike h hread, hwidth, hwidth, h.attribute? hread]
  by_cases htag : n.tag = "mpadded"
  · rw [overlaps_of_alike h hown htag]
  · simp only [beq_eq_false_iff_ne.mpr htag, Bool.false_and]

theorem isMixedNumber_of_alike {left left' right right' : Node} (hleft : Alike s left left')
    (hright : Alike s right right') : isMixedNumber left right = isMixedNumber left' right' := by
  rw [isMixedNumber, isMixedNumber, hleft.tag, hright.tag]

theorem isProduct_of_alike {left left' right right' : Node} (hleft : Paired s left left')
    (hright : Paired s right right') (words : List Nat) :
    isProduct words left right = isProduct words left' right' := by
  unfold isProduct
  rw [isMixedNumber_of_alike hleft.1 hright.1, hleft.1.tag, hright.1.tag, hleft.2, hright.2,
    isFunctionHead_of_alike hleft.1, isLargeOperator_of_alike hleft.1]

theorem times_of_alike (h : Alike s n m) : times n = times m := by
  unfold times
  rw [isRow_of_alike h, wordIndices_of_alike h]
  congr 1
  refine map_filter_of_forall₂ (forall₂_neighbours h.children) (fun a b hab => ?_)
    fun a b hab _ => ?_
  · exact isProduct_of_alike hab.1 hab.2 _
  · dsimp only [missingTimes]
    rw [hab.1.1.tag, hab.2.1.tag]

theorem isShortToken_of_alike (h : Alike s n m) : isShortToken n = isShortToken m := by
  simp only [isShortToken, Bool.and_or_distrib_right]
  refine congrArg₂ or (tokenText_of_alike h (by decide) fun htext => ?_)
    (tokenText_of_alike h (by decide) fun htext => ?_) <;> rw [htext]

theorem separator_of_alike (h : Alike s n m) : separator n = separator m := by
  have hshort := any_of_forall₂ (p := fun x => isShortToken x.1 && isShortToken x.2)
    (forall₂_neighbours h.children) fun a b hab => by
      rw [isShortToken_of_alike hab.1.1, isShortToken_of_alike hab.2.1]
  unfold separator
  rw [h.tag, isIndexLike_of_alike h,
    any_of_forall₂ h.children fun a b hab => textIs_of_alike hab.1 (by decide) commaOperators]
  rw [hshort]

theorem plus_of_alike (h : Alike s n m) : plus n = plus m := by
  unfold plus
  rw [isRow_of_alike h]
  congr 1
  refine map_filter_of_forall₂ (forall₂_neighbours h.children) (fun a b hab => ?_)
    fun a b hab hmixed => ?_
  · exact isMixedNumber_of_alike hab.1.1 hab.2.1
  · dsimp only [missingPlus] at hmixed ⊢
    simp only [isMixedNumber, Bool.and_eq_true, beq_iff_eq] at hmixed
    rw [hab.1.1.trimmed (hmixed.1 ▸ by decide)]

theorem isUnclearToken_of_alike (h : Alike s n m) (hread : n.isRead = true) :
    isUnclearToken n = isUnclearToken m := by
  unfold isUnclearToken
  rw [← h.tag, h.hasAttribute hread]
  by_cases htag : n.tag = "mi" ∨ n.tag = "mn"
  · have htext : n.tag ∈ textTags := by rcases htag with htag | htag <;> rw [htag] <;> decide
    rw [h.trimmed htext]
  · simp only [beq_eq_false_iff_ne.mpr (not_or.mp htag).1,
      beq_eq_false_iff_ne.mpr (not_or.mp htag).2, Bool.or_false, Bool.false_and]

theorem hints_of_alike (h : Alike s n m) (hread : n.isRead = true) : hints c n = hints c m := by
  unfold hints
  rw [isUnclearToken_of_alike h hread, h.tag, h.children.length_eq, h.hasAttribute hread]

end Ambiguity

/-! ## All checks -/

namespace Check

open Node

/-- A check reports the same about nodes that look alike. -/
theorem run_of_alike (h : Alike c.rules n m) (hown : n.isForeign = false) (k : Check) :
    k.run c n = k.run c m := by
  have hread := isRead_of_own hown
  cases k with
  | tag => exact Structure.tag_of_alike h
  | attributeValues => exact Structure.attributeValues_of_alike h hread
  | parent => exact congrArg Except.ok (Structure.parent_of_alike h)
  | attributes => exact congrArg Except.ok (Structure.attributes_of_alike h hread)
  | deprecatedAttributes =>
    exact congrArg Except.ok (Structure.deprecatedAttributes_of_alike h hread)
  | requiredAttributes => exact congrArg Except.ok (Structure.requiredAttributes_of_alike h hread)
  | mathvariant => exact congrArg Except.ok (Structure.mathvariant_of_alike h hread)
  | children => exact congrArg Except.ok (Structure.children_of_alike h)
  | arity => exact congrArg Except.ok (Structure.arity_of_alike h)
  | tokens => exact congrArg Except.ok (Structure.tokens_of_alike h)
  | coreSupport => exact congrArg Except.ok (Structure.coreSupport_of_alike h hread)
  | splitNumber => exact congrArg Except.ok (Ambiguity.splitNumber_of_alike h)
  | scriptBase => exact congrArg Except.ok (Ambiguity.scriptBase_of_alike h)
  | functionNames => exact congrArg Except.ok (Ambiguity.functionNames_of_alike h)
  | functionApplication => exact congrArg Except.ok (Ambiguity.functionApplication_of_alike h)
  | operand => exact congrArg Except.ok (Ambiguity.operand_of_alike h)
  | semantics => exact congrArg Except.ok (Ambiguity.semantics_of_alike h)
  | negativeSpace => exact congrArg Except.ok (Ambiguity.negativeSpace_of_alike h hown)
  | times => exact congrArg Except.ok (Ambiguity.times_of_alike h)
  | separator => exact congrArg Except.ok (Ambiguity.separator_of_alike h)
  | plus => exact congrArg Except.ok (Ambiguity.plus_of_alike h)
  | hints => exact congrArg Except.ok (Ambiguity.hints_of_alike h hread)

/-- A sweep over the nodes of subtrees whose tops look alike gives the same. -/
theorem sweep_of_alike (h : Alike c.rules n m) (checks : List Check) :
    sweep c checks n.lintable = sweep c checks m.lintable := by
  have hlintable := (List.forall₂_and_left _ _).mpr
    ⟨fun a (ha : a ∈ n.lintable) => (mem_lintable.mp ha).2, h.lintable⟩
  exact gather_of_forall₂ hlintable fun a b hab => by rw [funext (run_of_alike hab.2 hab.1)]

end Check

end MathLint

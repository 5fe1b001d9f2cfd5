import MathLint.Check.Ambiguity
import MathLint.Proofs.Neighbours
import MathLint.Proofs.Node.Content
import MathLint.Proofs.Runs

/-!
# Missing invisible operators

Neighbours in a row are reported if they may be factors of a product, or if they are a mixed number.
Two letters of one word are no product. An operator that is inserted between neighbours that are
reported splits no word, so it takes away their report and no other.

* `timesAt`, `plusAt`: what is reported on one pair of neighbours.
* `productAt`, `mixedAt`: the same, from the elements alone.
* `SharesWord`: whether neighbours are letters of one word, which exempts them.
* `opens_of_reported`: an operator opens the pair that it is inserted into.
* `insertEach`, `insertEach_reported`: operators in several pairs, and in all that are reported.
* `advice_followed`: what is reported on a row that the advice was followed in.
-/

namespace MathLint.Ambiguity

open Shape Xml

variable {n : Node} {es : List Element} {op : Element} {i k : Nat}

/-! ## Pairs of neighbours -/

/-- The indexes of the pairs of neighbours below a node. -/
def pairs (n : Node) : List Nat := List.range (neighbours n.children).length

/-- The report on a pair of neighbours that may be factors of a product. -/
def timesAt (n : Node) (k : Nat) : Option Finding :=
  if isRow n then
    ((neighbours n.children)[k]?.filter fun (left, right) =>
      isProduct (wordIndices n.children) left right).map fun (left, right) =>
        missingTimes left right
  else none

/-- The report on a pair of neighbours that are a mixed number. -/
def plusAt (n : Node) (k : Nat) : Option Finding :=
  if isRow n then
    ((neighbours n.children)[k]?.filter fun (left, right) => isMixedNumber left right).map
      fun (left, _) => missingPlus left
  else none

theorem times_eq_filterMap (n : Node) : times n = (pairs n).filterMap (timesAt n) := by
  unfold times timesAt
  split
  · exact map_filter_eq_filterMap_range _ _ _
  · exact (List.filterMap_eq_nil_iff.mpr fun _ _ => rfl).symm

theorem plus_eq_filterMap (n : Node) : plus n = (pairs n).filterMap (plusAt n) := by
  unfold plus plusAt
  split
  · exact map_filter_eq_filterMap_range _ _ _
  · exact (List.filterMap_eq_nil_iff.mpr fun _ _ => rfl).symm

/-! ## Pairs of elements -/

/-- Whether an element is an identifier of one letter. -/
def isLetter (e : Element) : Bool := isSingleLetter (.root e)

/-- Whether neighbours are letters of one word. -/
def SharesWord (es : List Element) (k : Nat) : Prop :=
  ∃ j, j ≤ k ∧ k + 1 ≤ j + 2 ∧ HasThree isLetter es j

instance : Decidable (SharesWord es k) :=
  inferInstanceAs (Decidable (∃ j, j ≤ k ∧ k + 1 ≤ j + 2 ∧ ∀ l < 3, passesAt isLetter es (j + l)))

/-- Whether elements that are neighbours may be factors of a product, if they are not letters of one
word. -/
def mayMultiply (x : Element × Element) : Bool := isProduct [] (.root x.1) (.root x.2)

/-- Whether elements that are neighbours are a mixed number. -/
def isMixed (x : Element × Element) : Bool := isMixedNumber (.root x.1) (.root x.2)

/-- The report on a pair of elements in a row that may be factors of a product. -/
def productAt (es : List Element) (k : Nat) : Option Finding :=
  if SharesWord es k then none
  else ((neighbours es)[k]?.filter mayMultiply).map fun x => missingTimes (.root x.1) (.root x.2)

/-- The report on a pair of elements in a row that are a mixed number. -/
def mixedAt (es : List Element) (k : Nat) : Option Finding :=
  ((neighbours es)[k]?.filter isMixed).map fun x => missingPlus (.root x.1)

/-! ## Children are read as elements -/

variable {p : Node} {e left right : Element}

theorem tag_child : (Node.child p i e).tag = (Node.root e).tag := rfl

theorem trimmed_child : (Node.child p i e).trimmed = (Node.root e).trimmed := rfl

theorem index_child : (Node.child p i e).index = i := rfl

theorem isSingleLetter_child : isSingleLetter (.child p i e) = isLetter e := by
  rw [isLetter, isSingleLetter, isSingleLetter, tag_child, trimmed_child]

/-- A test of the first node below that does not look above it. -/
theorem firstChild?_any {f : Node → Bool}
    (hf : ∀ q r j e', f (.child q j e') = f (.child r j e')) :
    (Node.child p i e).firstChild?.any f = (Node.root e).firstChild?.any f := by
  unfold Node.firstChild? Node.children Node.element
  dsimp only
  cases e.content.elements with
  | nil => rfl
  | cons e' es' => exact hf _ _ _ _

theorem isFunctionHead_child : isFunctionHead (.child p i e) = isFunctionHead (.root e) := by
  unfold isFunctionHead
  rw [firstChild?_any fun _ _ _ _ => rfl]
  rfl

theorem isLargeOperator_child : isLargeOperator (.child p i e) = isLargeOperator (.root e) := by
  unfold isLargeOperator
  rw [firstChild?_any fun _ _ _ _ => rfl]
  rfl

theorem isProduct_child {words : List Nat} :
    isProduct words (.child p k left) (.child p i right) =
      (mayMultiply (left, right) && !(words.contains k && words.contains i)) := by
  unfold mayMultiply isProduct isMixedNumber
  simp only [isFunctionHead_child, isLargeOperator_child, tag_child, index_child,
    List.contains_nil, Bool.false_and, Bool.not_false, Bool.and_true]
  cases words.contains k && words.contains i with
  | false => simp
  | true => simp

theorem getElem?_neighbours_children (n : Node) (k : Nat) :
    (neighbours n.children)[k]? = (neighbours n.element.content.elements)[k]?.map fun x =>
      (.child n k x.1, .child n (k + 1) x.2) := by
  rw [getElem?_neighbours, getElem?_neighbours, Node.getElem?_children, Node.getElem?_children]
  cases n.element.content.elements[k]? <;> cases n.element.content.elements[k + 1]? <;> rfl

theorem passesAt_children (n : Node) (j : Nat) :
    passesAt isSingleLetter n.children j = passesAt isLetter n.element.content.elements j := by
  rw [passesAt, passesAt, Node.getElem?_children, Option.any_map]
  simp only [isSingleLetter_child]

theorem mem_wordIndices_iff (n : Node) :
    i ∈ wordIndices n.children ↔
      ∃ j, j ≤ i ∧ i ≤ j + 2 ∧ HasThree isLetter n.element.content.elements j := by
  have hindex : ∀ l m, (([] : List Node).reverse ++ n.children)[l]? = some m →
      m.index = 0 + l := fun l m hm => by
    rw [List.reverse_nil, List.nil_append, Node.getElem?_children] at hm
    obtain ⟨e, -, rfl⟩ := Option.map_eq_some_iff.mp hm
    exact (Nat.zero_add l).symm
  have hmem := @mem_longRunsFrom_iff _ isSingleLetter [] n.children i _ 0 (by simp) hindex
  simp only [Nat.zero_add, List.reverse_nil, List.nil_append, HasThree, passesAt_children] at hmem
  exact hmem

theorem contains_wordIndices (n : Node) :
    ((wordIndices n.children).contains k && (wordIndices n.children).contains (k + 1)) =
      decide (SharesWord n.element.content.elements k) := by
  rw [Bool.eq_iff_iff, Bool.and_eq_true, List.contains_iff_mem, List.contains_iff_mem,
    decide_eq_true_iff, mem_wordIndices_iff, mem_wordIndices_iff]
  exact hasThree_both_iff

theorem timesAt_eq (n : Node) (k : Nat) :
    timesAt n k = if isRow n then productAt n.element.content.elements k else none := by
  rw [timesAt, productAt, getElem?_neighbours_children]
  congr 1
  cases (neighbours n.element.content.elements)[k]? with
  | none => split <;> rfl
  | some x =>
    rw [Option.map_some, Option.filter_some, Option.filter_some]
    simp only [isProduct_child, contains_wordIndices]
    by_cases hword : SharesWord n.element.content.elements k
    · simp [hword]
    · cases hx : mayMultiply x with
      | false => simp [hword]
      | true =>
        simp only [hword, decide_false, Bool.not_false, Bool.and_self]
        rfl

theorem plusAt_eq (n : Node) (k : Nat) :
    plusAt n k = if isRow n then mixedAt n.element.content.elements k else none := by
  rw [plusAt, mixedAt, getElem?_neighbours_children]
  congr 1
  cases (neighbours n.element.content.elements)[k]? with
  | none => rfl
  | some x =>
    rw [Option.map_some, Option.filter_some, Option.filter_some]
    change Option.map _ (if isMixed x = true then _ else none) = _
    split <;> rfl

theorem pairs_eq (n : Node) :
    pairs n = List.range (neighbours n.element.content.elements).length := by
  rw [pairs, length_neighbours, length_neighbours, ← Node.map_element_children, List.length_map]

/-! ## One operator -/

section Operator

variable (hop : (Node.root op).tag = "mo")
include hop

theorem isLetter_operator : isLetter op = false := by
  simp [isLetter, isSingleLetter, hop]

theorem mayMultiply_operator (e : Element) :
    mayMultiply (e, op) = false ∧ mayMultiply (op, e) = false := by
  have hoperand : "mo" ∉ operandTags := by decide
  simp [mayMultiply, isProduct, hop, hoperand]

theorem isMixed_operator (e : Element) : isMixed (e, op) = false ∧ isMixed (op, e) = false := by
  simp [isMixed, isMixedNumber, hop]

theorem sharesWord_insertIdx_of_lt (hk : ¬SharesWord es k) (hi : i < k) :
    SharesWord (es.insertIdx (k + 1) op) i ↔ SharesWord es i := by
  simp only [SharesWord, hasThree_insertIdx_iff (isLetter_operator hop)]
  constructor
  · rintro ⟨j, hlow, hhigh, ⟨-, hj⟩ | ⟨l, rfl, hl, -⟩⟩
    · exact ⟨j, hlow, hhigh, hj⟩
    · omega
  · rintro ⟨j, hlow, hhigh, hj⟩
    -- letters on both sides of the place would share a word
    have hbefore : j + 2 < k + 1 := by
      by_contra hacross
      exact hk ⟨j, by omega, by omega, hj⟩
    exact ⟨j, hlow, hhigh, .inl ⟨hbefore, hj⟩⟩

theorem sharesWord_insertIdx_succ (hk : ¬SharesWord es k) (hi : k < i) :
    SharesWord (es.insertIdx (k + 1) op) (i + 1) ↔ SharesWord es i := by
  simp only [SharesWord, hasThree_insertIdx_iff (isLetter_operator hop)]
  constructor
  · rintro ⟨j, hlow, hhigh, ⟨hbefore, -⟩ | ⟨l, rfl, -, hl⟩⟩
    · omega
    · exact ⟨l, by omega, by omega, hl⟩
  · rintro ⟨j, hlow, hhigh, hj⟩
    have hbehind : k + 1 ≤ j := by
      by_contra hacross
      exact hk ⟨j, by omega, by omega, hj⟩
    exact ⟨j + 1, by omega, by omega, .inr ⟨j, rfl, hbehind, hj⟩⟩

/-- An operator between neighbours that are not letters of one word opens their pair: it splits no
word. -/
theorem productAt_insertIdx (hlength : k < es.length) (hk : ¬SharesWord es k) (i : Nat) :
    productAt (es.insertIdx (k + 1) op) i = opened k (productAt es) i := by
  have hpair := @neighbours_insertIdx _ _ _ _ _ _ (fun x => missingTimes (.root x.1) (.root x.2))
    hlength (mayMultiply_operator hop) i
  rw [productAt, hpair]
  by_cases hbefore : i < k
  · rw [opened_of_lt hbefore, opened_of_lt hbefore, productAt]
    simp only [sharesWord_insertIdx_of_lt hop hk hbefore]
  · by_cases hat : i ≤ k + 1
    · rw [opened_of_le (by omega) hat, opened_of_le (by omega) hat, ite_self]
    · obtain ⟨i, rfl⟩ : ∃ j, i = j + 1 := ⟨i - 1, by omega⟩
      rw [opened_succ (by omega), opened_succ (by omega), productAt]
      simp only [sharesWord_insertIdx_succ hop hk (show k < i by omega)]

theorem mixedAt_insertIdx (hlength : k < es.length) (i : Nat) :
    mixedAt (es.insertIdx (k + 1) op) i = opened k (mixedAt es) i :=
  neighbours_insertIdx hlength (isMixed_operator hop) i

end Operator

/-! ## Reported pairs -/

/-- Whether a pair of neighbours in a row is reported. -/
def isReported (es : List Element) (k : Nat) : Bool :=
  (productAt es k).isSome || (mixedAt es k).isSome

theorem isReported_eq_false_iff :
    isReported es k = false ↔ productAt es k = none ∧ mixedAt es k = none := by
  simp [isReported]

theorem exists_of_product (h : (productAt es k).isSome) :
    ¬SharesWord es k ∧ ∃ x, (neighbours es)[k]? = some x ∧ mayMultiply x = true := by
  unfold productAt at h
  split at h
  · cases h
  · rename_i hword
    rw [Option.isSome_map, Option.isSome_filter, Option.any_eq_true] at h
    exact ⟨hword, h⟩

theorem exists_of_mixed (h : (mixedAt es k).isSome) :
    ∃ x, (neighbours es)[k]? = some x ∧ isMixed x = true := by
  rw [mixedAt, Option.isSome_map, Option.isSome_filter, Option.any_eq_true] at h
  exact h

/-- The number of a mixed number is no letter. -/
theorem not_sharesWord_of_mixed (h : (mixedAt es k).isSome) : ¬SharesWord es k := by
  rintro ⟨j, hlow, hhigh, hj⟩
  obtain ⟨x, hx, hmixed⟩ := exists_of_mixed h
  have hletter := hj (k - j) (by omega)
  rw [Nat.add_sub_cancel' hlow, passesAt, (getElem?_of_neighbours hx).1] at hletter
  simp only [isMixed, isMixedNumber, Bool.and_eq_true, beq_iff_eq] at hmixed
  simp [isLetter, isSingleLetter, hmixed.1] at hletter

theorem lt_length_of_reported (h : isReported es k) : k < (neighbours es).length := by
  have hpair : ∃ x, (neighbours es)[k]? = some x := by
    rcases (Bool.or_eq_true _ _).mp h with h | h
    · obtain ⟨-, x, hx, -⟩ := exists_of_product h
      exact ⟨x, hx⟩
    · obtain ⟨x, hx, -⟩ := exists_of_mixed h
      exact ⟨x, hx⟩
  obtain ⟨x, hx⟩ := hpair
  exact (List.getElem?_eq_some_iff.mp hx).1

/-- A pair is not reported as a product and as a mixed number. -/
theorem mixedAt_of_product (h : (productAt es k).isSome) : mixedAt es k = none := by
  obtain ⟨-, x, hx, hproduct⟩ := exists_of_product h
  have hmixed : isMixed x = false := by
    unfold mayMultiply isProduct at hproduct
    simp only [Bool.and_eq_true, Bool.not_eq_true'] at hproduct
    exact hproduct.1.1.1.2
  rw [mixedAt, hx, Option.filter_some, if_neg (by simp [hmixed])]
  rfl

/-- An operator in a reported pair opens it. -/
theorem opens_of_reported (hop : (Node.root op).tag = "mo") (h : isReported es k) (i : Nat) :
    productAt (es.insertIdx (k + 1) op) i = opened k (productAt es) i ∧
      mixedAt (es.insertIdx (k + 1) op) i = opened k (mixedAt es) i := by
  have hlength := lt_length_of_reported h
  rw [length_neighbours] at hlength
  have hword : ¬SharesWord es k :=
    ((Bool.or_eq_true _ _).mp h).elim (fun h => (exists_of_product h).1) not_sharesWord_of_mixed
  exact ⟨productAt_insertIdx hop (by omega) hword i, mixedAt_insertIdx hop (by omega) i⟩

/-! ## Operators in several pairs -/

/-- Elements with an operator inserted in each of the pairs of increasing indexes. The last of them
comes first, so that the others stay where they are. -/
def insertEach (op : Nat → Element) (es : List Element) (ks : List Nat) : List Element :=
  ks.foldr (fun k es => es.insertIdx (k + 1) (op k)) es

/-- What is reported on elements is what is reported on others before the pair of an index. -/
structure ReportsBefore (b : Nat) (es es' : List Element) : Prop where
  product (i : Nat) : productAt es' i = if i < b then productAt es i else none
  mixed (i : Nat) : mixedAt es' i = if i < b then mixedAt es i else none

variable {es' : List Element} {ops : Nat → Element} {b d : Nat}

theorem reportsBefore_self : ReportsBefore (neighbours es).length es es := by
  have hnone {i : Nat} (hi : ¬i < (neighbours es).length) :
      productAt es i = none ∧ mixedAt es i = none :=
    isReported_eq_false_iff.mp (Bool.eq_false_iff.mpr (mt lt_length_of_reported hi))
  refine ⟨fun i => ?_, fun i => ?_⟩
  · split
    · rfl
    · exact (hnone ‹_›).1
  · split
    · rfl
    · exact (hnone ‹_›).2

namespace ReportsBefore

/-- The last pair that is reported is opened. -/
theorem insert (h : ReportsBefore (b + 1) es es') (hop : (Node.root op).tag = "mo")
    (hb : isReported es b) : ReportsBefore b es (es'.insertIdx (b + 1) op) := by
  have hb' : isReported es' b := by
    rw [isReported, h.product, h.mixed, if_pos (Nat.lt_succ_self b), if_pos (Nat.lt_succ_self b)]
    exact hb
  have hopens := opens_of_reported hop hb'
  exact ⟨fun i => (hopens i).1.trans (opened_last h.product i),
    fun i => (hopens i).2.trans (opened_last h.mixed i)⟩

/-- A pair that is not reported is left as it is. -/
theorem skip (h : ReportsBefore (b + 1) es es') (hb : isReported es b = false) :
    ReportsBefore b es es' := by
  obtain ⟨hproduct, hmixed⟩ := isReported_eq_false_iff.mp hb
  have hite {β : Type} {report : Nat → Option β} (hnone : report b = none) (i : Nat) :
      (if i < b + 1 then report i else none) = if i < b then report i else none := by
    rcases Nat.lt_trichotomy i b with hi | rfl | hi
    · rw [if_pos hi, if_pos (by omega)]
    · rw [hnone, ite_self, ite_self]
    · rw [if_neg (by omega), if_neg (by omega)]
  exact ⟨fun i => (h.product i).trans (hite hproduct i), fun i => (h.mixed i).trans (hite hmixed i)⟩

end ReportsBefore

/-- With operators in the reported pairs from an index on, the reports before it are left. -/
theorem reportsBefore_insertEach (hop : ∀ k, (Node.root (ops k)).tag = "mo")
    (hend : b + d = (neighbours es).length) :
    ReportsBefore b es (insertEach ops es ((List.range' b d).filter (isReported es))) := by
  induction d generalizing b with
  | zero =>
    rw [Nat.add_zero] at hend
    rw [hend]
    exact reportsBefore_self
  | succ d ih =>
    have hbehind := @ih (b + 1) (by omega)
    rw [List.range'_succ, List.filter_cons]
    cases hb : isReported es b with
    | true => exact hbehind.insert (hop b) hb
    | false => exact hbehind.skip hb

/-- With operators in all reported pairs, nothing is reported. -/
theorem insertEach_reported (hop : ∀ k, (Node.root (ops k)).tag = "mo") (i : Nat) :
    let filled :=
      insertEach ops es ((List.range (neighbours es).length).filter (isReported es))
    productAt filled i = none ∧ mixedAt filled i = none := by
  have hfilled := @reportsBefore_insertEach es _ _ _ hop (Nat.zero_add _)
  rw [← List.range_eq_range'] at hfilled
  exact ⟨hfilled.product i, hfilled.mixed i⟩

/-! ## Rows that the advice was followed in -/

/-- The pairs of neighbours below a node that are reported. -/
def reportedPairs (n : Node) : List Nat :=
  (pairs n).filter fun k => (timesAt n k).isSome || (plusAt n k).isSome

variable {inner : Content}

theorem isRow_withContent : isRow (n.withContent inner) = isRow n := by
  have hindex : isIndexLike (n.withContent inner) = isIndexLike n := by
    cases n with
    | root e => rfl
    | child p i e =>
      unfold isIndexLike
      rw [Node.index_withContent, Node.tag_withContent]
      simp only [Node.withContent, Node.parent?, Node.tag_withContent]
  rw [isRow, isRow, Node.tag_withContent, hindex]

theorem timesAt_withContent (i : Nat) :
    timesAt (n.withContent inner) i = if isRow n then productAt inner.elements i else none := by
  rw [timesAt_eq, isRow_withContent, Node.element_withContent]
  rfl

theorem plusAt_withContent (i : Nat) :
    plusAt (n.withContent inner) i = if isRow n then mixedAt inner.elements i else none := by
  rw [plusAt_eq, isRow_withContent, Node.element_withContent]
  rfl

theorem plusAt_of_times (h : (timesAt n k).isSome) : plusAt n k = none := by
  rw [timesAt_eq] at h
  rw [plusAt_eq]
  split at h
  · rw [if_pos ‹_›, mixedAt_of_product h]
  · cases h

theorem timesAt_of_plus (h : (plusAt n k).isSome) : timesAt n k = none := by
  rw [← Option.not_isSome_iff_eq_none]
  intro htimes
  rw [plusAt_of_times htimes] at h
  cases h

/-- An operator in a reported pair takes its reports away and leaves all others. -/
theorem reports_of_insertIdx (hop : (Node.root op).tag = "mo")
    (hinner : inner.elements = n.element.content.elements.insertIdx (k + 1) op)
    (h : (timesAt n k).isSome ∨ (plusAt n k).isSome) :
    times (n.withContent inner) = ((pairs n).filter (· ≠ k)).filterMap (timesAt n) ∧
      plus (n.withContent inner) = ((pairs n).filter (· ≠ k)).filterMap (plusAt n) := by
  rw [timesAt_eq, plusAt_eq] at h
  have hrow : isRow n = true := by
    by_contra hrow
    simp [hrow] at h
  rw [if_pos hrow, if_pos hrow] at h
  have hreported : isReported n.element.content.elements k := (Bool.or_eq_true _ _).mpr h
  have hk := lt_length_of_reported hreported
  have hopens := opens_of_reported hop hreported
  have hpairs : pairs (n.withContent inner) =
      List.range ((neighbours n.element.content.elements).length + 1) := by
    rw [pairs_eq, Node.element_withContent, Element.withContent, hinner,
      length_neighbours_insertIdx hk]
  have htimes : timesAt n = productAt n.element.content.elements :=
    funext fun i => by rw [timesAt_eq, if_pos hrow]
  have hplus : plusAt n = mixedAt n.element.content.elements :=
    funext fun i => by rw [plusAt_eq, if_pos hrow]
  have htimes' : timesAt (n.withContent inner) = opened k (timesAt n) :=
    funext fun i => by rw [timesAt_withContent, if_pos hrow, hinner, (hopens i).1, htimes]
  have hplus' : plusAt (n.withContent inner) = opened k (plusAt n) :=
    funext fun i => by rw [plusAt_withContent, if_pos hrow, hinner, (hopens i).2, hplus]
  rw [times_eq_filterMap, plus_eq_filterMap, hpairs, htimes', hplus', pairs_eq]
  exact ⟨filterMap_opened hk, filterMap_opened hk⟩

/-- Operators in all reported pairs take away all reports. -/
theorem reports_of_insertEach (hop : ∀ k, (Node.root (ops k)).tag = "mo")
    (hinner : inner.elements = insertEach ops n.element.content.elements (reportedPairs n)) :
    times (n.withContent inner) = [] ∧ plus (n.withContent inner) = [] := by
  rw [times_eq_filterMap, plus_eq_filterMap, List.filterMap_eq_nil_iff, List.filterMap_eq_nil_iff]
  simp only [timesAt_withContent, plusAt_withContent]
  cases hrow : isRow n with
  | false => exact ⟨fun _ _ => rfl, fun _ _ => rfl⟩
  | true =>
    have hreported : reportedPairs n = (List.range
        (neighbours n.element.content.elements).length).filter
          (isReported n.element.content.elements) := by
      unfold reportedPairs isReported
      simp only [pairs_eq, timesAt_eq, plusAt_eq, if_pos hrow]
    rw [hreported] at hinner
    rw [hinner]
    exact ⟨fun i _ => (insertEach_reported hop i).1, fun i _ => (insertEach_reported hop i).2⟩

/-- Following the advice on invisible operators works. What is reported on a node is what is
reported on the pairs of neighbours below it. If an operator is inserted between two of them on
which a product is reported, then in the document with the operator all is reported on the node as
before, but for that product; likewise for a mixed number. With operators in all reported pairs,
neither products nor mixed numbers are reported. -/
theorem advice_followed {root : Element} (hn : n ∈ (Node.root root).subtree)
    (hop : ∀ k, (Node.root (ops k)).tag = "mo") :
    times n = (pairs n).filterMap (timesAt n) ∧
    plus n = (pairs n).filterMap (plusAt n) ∧
    n.top = Node.root root ∧
    (∀ inner, n.withContent inner ∈ (n.withContent inner).top.subtree ∧
      (n.withContent inner).address = n.address) ∧
    (∀ k inner, inner.elements = n.element.content.elements.insertIdx (k + 1) (ops k) →
      ((timesAt n k).isSome →
        times (n.withContent inner) = ((pairs n).filter (· ≠ k)).filterMap (timesAt n) ∧
        plus (n.withContent inner) = plus n) ∧
      ((plusAt n k).isSome →
        times (n.withContent inner) = times n ∧
        plus (n.withContent inner) = ((pairs n).filter (· ≠ k)).filterMap (plusAt n))) ∧
    ∀ inner, inner.elements = insertEach ops n.element.content.elements (reportedPairs n) →
      times (n.withContent inner) = [] ∧ plus (n.withContent inner) = [] := by
  refine ⟨times_eq_filterMap n, plus_eq_filterMap n, Node.top_of_mem_subtree hn,
    fun inner => ⟨Node.withContent_mem_subtree hn, Node.address_withContent⟩,
    fun k inner hinner => ⟨fun h => ?_, fun h => ?_⟩, fun inner => reports_of_insertEach hop⟩
  · obtain ⟨htimes, hplus⟩ := reports_of_insertIdx (hop k) hinner (.inl h)
    refine ⟨htimes, ?_⟩
    rw [hplus, plus_eq_filterMap]
    exact filterMap_filter_ne (plusAt_of_times h) _
  · obtain ⟨htimes, hplus⟩ := reports_of_insertIdx (hop k) hinner (.inr h)
    refine ⟨?_, hplus⟩
    rw [htimes, times_eq_filterMap]
    exact filterMap_filter_ne (timesAt_of_plus h) _

/-- Between a factor and a mixed number, and in the mixed number. -/
theorem advice_followed_factor :
    let mo := fun text rest => Content.element ⟨"", "mo"⟩ [] (.chars text .nil) rest
    let mi := fun rest => Content.element ⟨"", "mi"⟩ [] (.chars "x" .nil) rest
    let mn := fun rest => Content.element ⟨"", "mn"⟩ [] (.chars "2" .nil) rest
    let mfrac := Content.element ⟨"", "mfrac"⟩ [] (mi (mn .nil)) .nil
    let n := Node.root ⟨⟨"", "math"⟩, [], mi (mn mfrac)⟩
    (timesAt n 0).isSome ∧ (plusAt n 1).isSome ∧
    (let n' := n.withContent (mi (mo invisibleTimes (mn mfrac)))
     times n' = [] ∧ plus n' = plus n) ∧
    (let n' := n.withContent (mi (mn (mo invisiblePlus mfrac)))
     times n' = times n ∧ plus n' = []) ∧
    (let n' := n.withContent (mi (mo invisibleTimes (mn (mo invisiblePlus mfrac))))
     times n' = [] ∧ plus n' = []) := by
  intro mo mi mn mfrac n
  have htimes : (timesAt n 0).isSome := by decide
  have hplus : (plusAt n 1).isSome := by decide
  have hreported : reportedPairs n = [0, 1] := by decide
  have hop : (Node.root ⟨⟨"", "mo"⟩, [], .nil⟩).tag = "mo" := by decide
  obtain ⟨-, -, -, -, hone, hall⟩ := @advice_followed n
    (fun k => ⟨⟨"", "mo"⟩, [], .chars (if k = 0 then invisibleTimes else invisiblePlus) .nil⟩)
    n.element List.mem_cons_self fun _ => hop
  have hfirst := (hone 0 (mi (mo invisibleTimes (mn mfrac))) rfl).1 htimes
  have hsecond := (hone 1 (mi (mn (mo invisiblePlus mfrac))) rfl).2 hplus
  rw [hreported] at hall
  have hboth := hall (mi (mo invisibleTimes (mn (mo invisiblePlus mfrac)))) rfl
  have hnone : ((pairs n).filter (· ≠ 0)).filterMap (timesAt n) = [] := by decide
  have hnone' : ((pairs n).filter (· ≠ 1)).filterMap (plusAt n) = [] := by decide
  rw [hnone] at hfirst
  rw [hnone'] at hsecond
  exact ⟨htimes, hplus, hfirst, hsecond, hboth⟩

end MathLint.Ambiguity

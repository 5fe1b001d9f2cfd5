import MathLint.Proofs.RootTag.Prolog

/-!
# Genuine start tags

The search for the start tag takes the first `>` for the end of the tag, and for the end of a
document type declaration, also where it stands in a quoted text. A tag that is found is `Genuine`
if no quoted text is open at these places, so that a reader of XML finds the same tag.

* `openQuote`: the quote that is open at the end of a text.
* `openQuote_quoted`, `mem_of_openQuote_cons`: a quoted text ends with the quote that opens it.
* `Genuine`: the tag stands behind whole pieces, and ends where it seems to end.
-/

namespace MathLint.RootTag

variable {q : Char} {xs ys : List Char}

/-- The quotes around texts. -/
def isQuote (c : Char) : Bool := c == '"' || c == '\''

/-- The quote that is open behind a character. -/
def quoteBehind : Option Char → Char → Option Char
  | none, c => if isQuote c then some c else none
  | some q, c => if c == q then none else some q

/-- The quote that is open at the end of a text. -/
def openQuote (cs : List Char) : Option Char := cs.foldl quoteBehind none

/-! ## Open quotes -/

theorem quoteBehind_other {o : Option Char} {c : Char} (ho : ∀ q ∈ o, isQuote q = true)
    (hc : isQuote c = false) : quoteBehind o c = o := by
  cases o with
  | none => exact if_neg (by simp [hc])
  | some q =>
    refine if_neg fun h => ?_
    rw [beq_iff_eq.mp h, ho q rfl] at hc
    cases hc

theorem isQuote_of_mem_quoteBehind {o : Option Char} (ho : ∀ q ∈ o, isQuote q = true) (c : Char) :
    ∀ q ∈ quoteBehind o c, isQuote q = true := by
  intro q hq
  cases o with
  | none =>
    obtain ⟨hc, heq⟩ := Option.ite_none_right_eq_some.mp hq
    rwa [← Option.some.inj heq]
  | some q' =>
    obtain ⟨-, heq⟩ := Option.ite_none_left_eq_some.mp hq
    rw [← Option.some.inj heq]
    exact ho q' rfl

/-- A quote stays open up to the next one like it. -/
theorem foldl_quoteBehind_some (h : q ∉ xs) : xs.foldl quoteBehind (some q) = some q := by
  induction xs with
  | nil => rfl
  | cons c xs ih =>
    simp only [List.mem_cons, not_or] at h
    have hstep : quoteBehind (some q) c = some q := if_neg (by simpa using Ne.symm h.1)
    rw [List.foldl_cons, hstep, ih h.2]

theorem openQuote_append (h : openQuote xs = none) : openQuote (xs ++ ys) = openQuote ys := by
  rw [openQuote, List.foldl_append, ← openQuote, h, ← openQuote]

theorem openQuote_of_unquoted (h : ∀ c ∈ xs, isQuote c = false) : openQuote xs = none := by
  induction xs with
  | nil => rfl
  | cons c xs ih =>
    have hstep : quoteBehind none c = none := if_neg (by simp [h c List.mem_cons_self])
    rw [openQuote, List.foldl_cons, hstep, ← openQuote]
    exact ih fun d hd => h d (List.mem_cons_of_mem c hd)

/-- A quote that does not occur again is open at the end. -/
theorem openQuote_cons (hq : isQuote q = true) (h : q ∉ xs) : openQuote (q :: xs) = some q := by
  have hstep : quoteBehind none q = some q := if_pos hq
  rw [openQuote, List.foldl_cons, hstep, foldl_quoteBehind_some h]

/-- A quoted text leaves no quote open. -/
theorem openQuote_quoted (hq : isQuote q = true) (h : q ∉ xs) :
    openQuote (q :: xs ++ q :: ys) = openQuote ys := by
  have hstep : quoteBehind (some q) q = none := if_pos (by simp)
  have hopen := openQuote_cons hq h
  rw [openQuote] at hopen ⊢
  rw [List.foldl_append, hopen, List.foldl_cons, hstep, ← openQuote]

theorem mem_of_openQuote_cons (hq : isQuote q = true) (h : openQuote (q :: xs) = none) :
    q ∈ xs := by
  by_contra hmem
  rw [openQuote_cons hq hmem] at h
  cases h

/-! ## Genuine tags -/

/-- A piece that ends where it seems to end: a document type declaration has no declarations in
brackets, and no quoted text of it is open at its first `>`. -/
def Piece.Whole : Piece → Prop
  | doctype body _ => '[' ∉ body ∧ openQuote body = none
  | _ => True

instance : DecidablePred Piece.Whole
  | .doctype body _ => inferInstanceAs (Decidable ('[' ∉ body ∧ openQuote body = none))
  | .space _ _ | .instruction _ _ | .comment _ _ => .isTrue trivial

/-- A tag that ends where it seems to end and that only whole pieces stand before. -/
structure Genuine (t : RootTag) : Prop where
  lead : ∃ p : List Piece, (∀ x ∈ p, x.Whole) ∧ t.lead = prologText p ++ ['<']
  ended : openQuote t.attributes = none

end MathLint.RootTag

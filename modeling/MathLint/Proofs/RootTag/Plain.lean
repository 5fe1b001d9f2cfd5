import MathLint.Proofs.RootTag.Prolog

/-!
# Plain documents

A plain document is a prolog of whole pieces, a `<`, the name of the root, and a text that does not
go on with the name. Its root is found: the bodies of comments and instructions do not matter, even
where they look like tags.

* `TagName`: the names of roots, with and without a colon.
* `TagName.EndsBefore`, `nameAt_text`: a name is read to its end if the text behind it does not go
  on with it.
* `RootTag.span`, `find?_plain`: the root of a plain document, and how far its start tag reaches.
-/

namespace MathLint.RootTag

/-- The name of a root. It begins with a letter of ASCII or an underscore; what stands before and
behind a colon are name characters. -/
inductive TagName where
  | simple (c : Char) (cs : List Char) (start : isNameStart c = true)
      (chars : ∀ d ∈ cs, isNameChar d = true)
  | qualified (c : Char) (cs second : List Char) (start : isNameStart c = true)
      (chars : ∀ d ∈ cs, isNameChar d = true) (second_ne : second ≠ [])
      (second_chars : ∀ d ∈ second, isNameChar d = true)

namespace TagName

/-- The text of a name. -/
def text : TagName → List Char
  | simple c cs _ _ => c :: cs
  | qualified c cs second _ _ _ _ => c :: (cs ++ ':' :: second)

/-- Whether a text does not go on with a name: it begins with no name character and, behind a name
without a colon, not with a colon and a name character. -/
def EndsBefore (r : List Char) : TagName → Prop
  | simple .. => (∀ c, r.head? = some c → isNameChar c = false) ∧
      ∀ c cs, r = ':' :: c :: cs → isNameChar c = false
  | qualified .. => ∀ c, r.head? = some c → isNameChar c = false

end TagName

theorem takeWhile_eq_nil_of_head? {r : List Char}
    (h : ∀ c, r.head? = some c → isNameChar c = false) : r.takeWhile isNameChar = [] := by
  cases r with
  | nil => rfl
  | cons c r => exact List.takeWhile_cons_of_neg (by simp [h c rfl])

/-- A name without a colon is read to its end. -/
theorem nameAt_simple {first r : List Char} (hfirst : ∀ c ∈ first, isNameChar c = true)
    (hr : ∀ c, r.head? = some c → isNameChar c = false)
    (hcolon : ∀ c cs, r = ':' :: c :: cs → isNameChar c = false) :
    nameAt (first ++ r) = first := by
  have htake : (first ++ r).takeWhile isNameChar = first := by
    rw [List.takeWhile_append_of_pos hfirst, takeWhile_eq_nil_of_head? hr, List.append_nil]
  have hdrop : (first ++ r).dropWhile isNameChar = r := by
    rw [List.dropWhile_append_of_pos hfirst]
    simpa [takeWhile_eq_nil_of_head? hr] using
      List.takeWhile_append_dropWhile (p := isNameChar) (l := r)
  unfold nameAt
  rw [htake, hdrop]
  dsimp only
  split
  · rename_i after
    -- no name character follows the colon
    have hafter : after.takeWhile isNameChar = [] := by
      refine takeWhile_eq_nil_of_head? fun c hc => ?_
      obtain ⟨cs, rfl⟩ := List.head?_eq_some_iff.mp hc
      exact hcolon c cs rfl
    rw [hafter]
    rfl
  · rfl

/-- A name is read to its end if the text behind it does not go on with it. -/
theorem nameAt_text (name : TagName) {r : List Char} (h : name.EndsBefore r) :
    nameAt (name.text ++ r) = name.text := by
  cases name with
  | simple c cs start chars =>
    exact nameAt_simple (List.forall_mem_cons.mpr ⟨isNameChar_of_isNameStart start, chars⟩) h.1 h.2
  | qualified c cs second start chars second_ne second_chars =>
    exact nameAt_qualified (List.forall_mem_cons.mpr ⟨isNameChar_of_isNameStart start, chars⟩)
      second_chars second_ne h

theorem exists_text_eq_cons (name : TagName) :
    ∃ c cs, name.text = c :: cs ∧ isNameStart c = true := by
  cases name with
  | simple c cs start _ => exact ⟨c, cs, rfl, start⟩
  | qualified c cs second start _ _ _ => exact ⟨c, _, rfl, start⟩

/-- Where in the source the search for a tag begins, and where the tag ends. -/
def span (t : RootTag) : Nat × Nat :=
  (0, t.lead.length + t.name.length + t.attributes.length + 1)

/-- The root of a plain document is found, with its name, and with all that stands before the first
`>` behind the name as its attributes. -/
theorem find?_plain (p : List Piece) (name : TagName) {r : List Char} (hname : name.EndsBefore r)
    (hend : '>' ∈ r) :
    let source := String.ofList (prologText p ++ '<' :: name.text ++ r)
    let attributes := r.takeWhile (· != '>')
    (∃ t, find? source = some t ∧ t.name = name.text ∧ t.attributes = attributes ∧
      t.span = (0, (prologText p ++ '<' :: name.text ++ attributes ++ ['>']).length)) ∧
    rootName source = String.ofList name.text := by
  intro source attributes
  have hread := nameAt_text name hname
  obtain ⟨c, cs, htext, hstart⟩ := exists_text_eq_cons name
  have hfind : find? source = some ⟨prologText p ++ ['<'], name.text, attributes,
      (r.dropWhile (· != '>')).tail⟩ := by
    rw [htext] at hread
    simp only [source, attributes, htext]
    exact find?_behind_prolog p hstart hread hend
  refine ⟨⟨_, hfind, rfl, rfl, ?_⟩, by rw [rootName, hfind]⟩
  simp only [span, List.length_append, List.length_cons, List.length_nil, Prod.mk.injEq, true_and]
  omega

/-- Behind a comment that contains a tag, the colon that no name character follows belongs to the
attributes. -/
theorem find?_plain_comment :
    TagName.EndsBefore [':', ' ', '>']
        (.simple 'a' ['.'] (by decide) (List.forall_mem_singleton.mpr (by decide))) ∧
      rootName "<!--<b>--><?>?>\n<!DOCTYPE a><a.: >" = "a." := by
  have hends : TagName.EndsBefore [':', ' ', '>']
      (.simple 'a' ['.'] (by decide) (List.forall_mem_singleton.mpr (by decide))) := by
    refine ⟨fun c hc => ?_, fun c cs hc => ?_⟩
    · obtain rfl := Option.some.inj hc
      decide
    · obtain ⟨rfl, -⟩ := List.cons.inj (List.cons.inj hc).2
      decide
  refine ⟨hends, ?_⟩
  have hplain := find?_plain
    [.comment ['<', 'b', '>'] (by decide), .instruction ['>'] (by decide), .space '\n' (by decide),
      .doctype [' ', 'a'] (by decide)] _ hends (by decide)
  exact hplain.2

end MathLint.RootTag

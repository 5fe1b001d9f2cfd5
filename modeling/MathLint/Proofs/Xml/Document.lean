import MathLint.Proofs.Xml.Prolog
import MathLint.Proofs.Xml.StartTag
import MathLint.Xml.Document

/-!
# Documents with a prefixed root

If a document is read whose root stands behind whole pieces and has the prefix `m`, its start tag
declares the prefix, and the declaration stands before each `>` at which no quote is open. A reader
sees the characters of a source but for one that no document may hold, which it sees as another.

* `Characters.withoutHalf`: a character as a reader sees it.
* `Document.stands_of_readRoot`: the declaration in the tag that is read.
* `Document.stands_of_parse`: the declaration in the source.
-/

namespace MathLint.Xml

open RootTag (Piece prologText openQuote quoteBehind openQuote_append openQuote_of_unquoted isQuote)

/-! ## Characters as a reader sees them -/

namespace Characters

/-- A character as a reader sees it. -/
def withoutHalf (c : Char) : Char := if c == half then invalid else c

theorem withoutHalf_cases (c : Char) :
    withoutHalf c = c ∨ c = half ∧ withoutHalf c = invalid := by
  unfold withoutHalf
  split
  · rename_i hc
    exact .inr ⟨beq_iff_eq.mp hc, rfl⟩
  · exact .inl rfl

/-- A character that a document may hold is seen only where it stands. -/
theorem eq_of_withoutHalf {c d : Char} (hd : isAllowed d = true) (h : withoutHalf c = d) :
    c = d := by
  rcases withoutHalf_cases c with hc | ⟨-, hc⟩
  · rw [← h, hc]
  · rw [← h, hc] at hd
    exact absurd hd (by decide)

theorem eq_of_map_withoutHalf {xs ys : List Char} (hys : ys.all isAllowed = true)
    (h : xs.map withoutHalf = ys) : xs = ys := by
  induction xs generalizing ys with
  | nil => exact h
  | cons x xs ih =>
    subst h
    simp only [List.map_cons, List.all_cons, Bool.and_eq_true] at hys ⊢
    rw [← ih hys.2 rfl, ← eq_of_withoutHalf hys.1 rfl]

theorem infix_of_infix_map {xs ys : List Char} (hys : ys.all isAllowed = true)
    (h : ys <:+: xs.map withoutHalf) : ys <:+: xs := by
  obtain ⟨u, v, heq⟩ := h
  obtain ⟨us, vs, rfl, hu, -⟩ := List.map_eq_append_iff.mp heq.symm
  obtain ⟨us₁, us₂, rfl, -, hy⟩ := List.map_eq_append_iff.mp hu
  exact ⟨us₁, vs, by rw [eq_of_map_withoutHalf hys hy]⟩

theorem mem_of_mem_map {c : Char} {xs : List Char} (hc : isAllowed c = true)
    (h : c ∈ xs.map withoutHalf) : c ∈ xs := by
  obtain ⟨d, hd, heq⟩ := List.mem_map.mp h
  rwa [← eq_of_withoutHalf hc heq]

/-- A reader sees the quotes of a text. -/
theorem foldl_quoteBehind_map {q : Option Char} (hq : ∀ a ∈ q, isQuote a = true)
    (xs : List Char) : (xs.map withoutHalf).foldl quoteBehind q = xs.foldl quoteBehind q := by
  induction xs generalizing q with
  | nil => rfl
  | cons c xs ih =>
    have hstep : quoteBehind q (withoutHalf c) = quoteBehind q c := by
      rcases withoutHalf_cases c with hc | ⟨rfl, hc⟩
      · rw [hc]
      · rw [hc, RootTag.quoteBehind_other hq (by decide), RootTag.quoteBehind_other hq (by decide)]
    rw [List.map_cons, List.foldl_cons, List.foldl_cons, hstep]
    exact ih (RootTag.isQuote_of_mem_quoteBehind hq c)

theorem openQuote_map (xs : List Char) : openQuote (xs.map withoutHalf) = openQuote xs :=
  foldl_quoteBehind_map (by simp) xs

theorem ofSource_eq_map {source : String} (h : Form.ofSource source = .utf8) :
    ofSource source = source.toList.map withoutHalf := by
  rw [ofSource, h]
  rfl

end Characters

open Characters

/-- A text has an attribute if a reader sees it there. -/
theorem Stands.of_map {name text : List Char} (hname : name.all isAllowed = true)
    (h : Stands name (text.map withoutHalf)) : Stands name text := by
  obtain ⟨lead, s, blank, more, heq, hs, hblank⟩ := h
  obtain ⟨lead', rest, rfl, -, hrest⟩ := List.map_eq_append_iff.mp heq
  have hsplit : rest.map withoutHalf = (s :: (name ++ blank ++ ['='])) ++ more := by
    rw [hrest]
    simp
  obtain ⟨text', more', rfl, htext, -⟩ := List.map_eq_append_iff.mp hsplit
  have hallowed : (s :: (name ++ blank ++ ['='])).all isAllowed = true := by
    have hequal : isAllowed '=' = true := by decide
    simp only [List.all_cons, List.all_append, List.all_nil, isAllowed_of_isSpace hs, hname, hequal,
      Bool.true_and, Bool.and_true, List.all_eq_true]
    exact fun c hc => isAllowed_of_isSpace (hblank c hc)
  rw [eq_of_map_withoutHalf hallowed htext]
  exact ⟨lead', s, blank, more', by simp, hs, hblank⟩

/-! ## Pieces as a reader sees them -/

/-- A piece as a reader sees it. -/
def seen : Piece → Piece
  | .space c blank => .space c blank
  | .instruction body unended =>
    .instruction (body.map withoutHalf) fun h => unended (infix_of_infix_map (by decide) h)
  | .comment body unended =>
    .comment (body.map withoutHalf) fun h => unended (infix_of_infix_map (by decide) h)
  | .doctype body unended =>
    .doctype (body.map withoutHalf) fun h => unended (mem_of_mem_map (by decide) h)

theorem text_seen (x : Piece) : (seen x).text = x.text.map withoutHalf := by
  cases x with
  | space c blank =>
    have hc : withoutHalf c = c := by
      rcases withoutHalf_cases c with hc | ⟨rfl, -⟩
      · exact hc
      · cases blank
    simp [seen, Piece.text, hc]
  | instruction body unended =>
    simp only [seen, Piece.text, List.map_append, List.map_cons]
    rfl
  | comment body unended =>
    simp only [seen, Piece.text, List.map_append, List.map_cons]
    rfl
  | doctype body unended =>
    simp only [seen, Piece.text, List.map_append, List.map_cons]
    rfl

theorem prologText_seen (p : List Piece) :
    prologText (p.map seen) = (prologText p).map withoutHalf := by
  simp only [prologText, List.flatMap_map, List.map_flatMap, text_seen]

theorem whole_seen {x : Piece} (h : x.Whole) : (seen x).Whole := by
  cases x with
  | doctype body unended =>
    exact ⟨fun hmem => h.1 (mem_of_mem_map (by decide) hmem), (openQuote_map body).trans h.2⟩
  | _ => trivial

/-- What stands before a root begins with a character of markup or with white space. -/
theorem exists_cons_of_prolog (p : List Piece) (cs : List Char) :
    ∃ c more, prologText p ++ '<' :: cs = c :: more ∧ c ≠ '\x00' ∧ c ≠ '\uFEFF' := by
  cases p with
  | nil => exact ⟨'<', cs, rfl, by decide, by decide⟩
  | cons x p =>
    cases x with
    | space c blank =>
      exact ⟨c, _, rfl, (by rintro rfl; cases blank), (by rintro rfl; cases blank)⟩
    | instruction | comment | doctype => exact ⟨'<', _, rfl, by decide, by decide⟩

/-- A document with a root behind a prolog is in UTF-8. -/
theorem Form.ofSource_prolog {source : String} {p : List Piece} {c : Char} {cs : List Char}
    (h : source.toList = prologText p ++ '<' :: c :: cs) (hc : c ≠ '\x00') :
    Form.ofSource source = .utf8 := by
  have hfirst : ∃ a b more, source.toList = a :: b :: more ∧ a ≠ '\x00' ∧ b ≠ '\x00' := by
    rw [h]
    cases p with
    | nil => exact ⟨'<', c, cs, rfl, by decide, hc⟩
    | cons x p =>
      cases x with
      | space a blank =>
        obtain ⟨b, more, heq, hb, -⟩ := exists_cons_of_prolog p (c :: cs)
        exact ⟨a, b, more, congrArg (a :: ·) heq, (by rintro rfl; cases blank), hb⟩
      | instruction => exact ⟨'<', '?', _, rfl, by decide, by decide⟩
      | comment | doctype => exact ⟨'<', '!', _, rfl, by decide, by decide⟩
  obtain ⟨a, b, more, heq, ha, hb⟩ := hfirst
  rw [Form.ofSource, heq]
  split
  · rename_i hnull
    exact absurd (List.cons.inj hnull).1 ha
  · rename_i hnull
    exact absurd (List.cons.inj (List.cons.inj hnull).2).1 hb
  · rfl

/-! ## Roots -/

namespace Document

/-- The attribute that declares the prefix `m`. -/
def declaration : List Char := "xmlns:m".toList

/-- The start tag of a root with the prefix `m` declares it. -/
theorem stands_of_readRoot {d : Doctype} (hd : d.Bare) {text cs : List Char} {r : Read Element}
    (h : readRoot d ('<' :: 'm' :: ':' :: (text ++ '>' :: cs)) = .ok r)
    (hquote : openQuote text = none) : Stands declaration text := by
  obtain ⟨⟨markup, rest⟩, hscan, h⟩ := bind_eq_ok.mp h
  replace hscan : Markup.ofScan ('<' :: 'm' :: ':' :: (text ++ '>' :: cs)) .start
      (Scan.startTag d.form _ ('m' :: ':' :: (text ++ '>' :: cs))) = .ok (markup, rest) := hscan
  cases htag : Scan.startTag d.form _ ('m' :: ':' :: (text ++ '>' :: cs)) with
  | error stop =>
    rw [htag] at hscan
    cases hscan
  | ok read =>
    obtain ⟨tag, left⟩ := read
    rw [htag] at hscan
    cases hscan
    obtain ⟨⟨base, hname⟩, hstands⟩ := Scan.stands_of_startTag htag hquote
    obtain ⟨entered, hentered, -⟩ := bind_eq_ok.mp h
    have hsplit : Scope.splitPrefix tag.name = (some ['m'], base) := by rw [hname]; rfl
    obtain ⟨a, ha, hdeclared⟩ :=
      Scope.exists_declared_of_enter hd.attributes hentered hsplit (by decide)
    have hdeclaration : a.name = declaration :=
      (Scope.eq_of_declared? hdeclared (by decide)).trans (by decide)
    exact hdeclaration ▸ hstands a ha

/-- If a document is read whose root has the prefix `m`, the prefix is declared in the text of the
root up to each `>` at which no quote is open. -/
theorem stands_of_parse {source : String} {root : Element} {p : List Piece} {text cs : List Char}
    (hread : parse source = .ok root) (hp : ∀ x ∈ p, x.Whole)
    (hsource : source.toList = prologText p ++ '<' :: 'm' :: ':' :: (text ++ '>' :: cs))
    (hquote : openQuote text = none) : Stands declaration text := by
  have hform := Form.ofSource_prolog hsource (by decide)
  have hseen : ofSource source = prologText (p.map seen) ++
      '<' :: 'm' :: ':' :: (text.map withoutHalf ++ '>' :: cs.map withoutHalf) := by
    rw [ofSource_eq_map hform, hsource, prologText_seen]
    simp only [List.map_append, List.map_cons]
    rfl
  have hmark : withoutMark (ofSource source) = ofSource source := by
    obtain ⟨c, more, heq, -, hc⟩ := exists_cons_of_prolog (p.map seen) ('m' :: ':' ::
      (text.map withoutHalf ++ '>' :: cs.map withoutHalf))
    rw [hseen, heq, withoutMark]
    exact fun _ hmark => hc (List.cons.inj hmark).1
  have hbare : (Doctype.ofSource source).Bare :=
    ⟨hform, by simp [Doctype.ofSource, endsInPair, hform], rfl⟩
  cases hremarks : parseWithRemarks source with
  | error e =>
    rw [parse, hremarks] at hread
    cases hread
  | ok e =>
    obtain ⟨⟨d, behind⟩, hprolog, hrest⟩ := bind_eq_ok.mp hremarks
    obtain ⟨r, hroot, -⟩ := bind_eq_ok.mp hrest
    rw [hmark, hseen] at hprolog
    obtain ⟨hd, rfl⟩ := Doctype.readProlog_root
      (by simpa using fun x hx => whole_seen (hp x hx)) (by decide) hbare .opening hprolog
    exact (stands_of_readRoot hd hroot ((openQuote_map text).trans hquote)).of_map (by decide)

end Document

end MathLint.Xml

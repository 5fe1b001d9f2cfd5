import MathLint.Proofs.RootTag.Genuine
import MathLint.Proofs.Xml.Scan
import MathLint.Xml.Doctype.Prolog

/-!
# Reading what stands before the root

A reader passes over whole pieces one by one, as the search for the start tag does, and comes to the
same root. What it knows of the document then is what it knew before, for no piece declares an
attribute.

* `Prolog.next?_of_outside`, `Prolog.next?_of_inside`: the grammar around and inside of a document
  type declaration.
* `Doctype.readProlog_cases`: what one token does.
* `Doctype.readProlog_doctype`: a document type declaration without brackets.
* `Doctype.readsOn_of_piece`, `Doctype.readProlog_root`: one piece, and all that stand before a
  root.
-/

namespace MathLint.Xml

open RootTag (Piece prologText openQuote isQuote openQuote_append openQuote_of_unquoted)

variable {form : Form} {c : Char} {cs rest : List Char} {d d' : Doctype} {p q : Prolog} {t : Token}
  {limit : Nat} {r : Read Doctype}

/-! ## The grammar -/

namespace Prolog

/-- Outside of the document type declaration. -/
inductive Outside : Prolog → Prop
  | opening : Outside opening
  | before : Outside beforeDoctype
  | behind : Outside afterDoctype

/-- Inside of the document type declaration, before its brackets. -/
inductive Inside : Prolog → Prop
  | name : Inside doctypeName
  | body : Inside doctypeBody
  | publicId : Inside doctypePublic
  | systemId : Inside doctypeSystem
  | brackets : Inside doctypeBrackets

/-- Outside of the document type declaration only remarks may come, or that declaration. -/
theorem next?_of_outside (hp : p.Outside) (h : p.next? t = some q) :
    q.Outside ∧ (t = .remark ∨ ∃ body after, t = .declaration body after) ∨
      t = .declare "DOCTYPE".toList ∧ q = .doctypeName := by
  cases hp <;> cases t
  case opening.declare word | before.declare word =>
    obtain ⟨rfl, hq⟩ := Option.ite_none_right_eq_some.mp h
    exact .inr ⟨rfl, (Option.some.inj hq).symm⟩
  case opening.declaration => cases h; exact .inl ⟨.before, .inr ⟨_, _, rfl⟩⟩
  case opening.remark | before.remark => cases h; exact .inl ⟨.before, .inl rfl⟩
  case behind.remark => cases h; exact .inl ⟨.behind, .inl rfl⟩
  all_goals cases h

/-- Before the brackets, only words and quoted texts keep the declaration open. -/
theorem next?_of_inside (hp : p.Inside) (h : p.next? t = some q) :
    t = .openBracket ∨ t = .close ∧ q = .afterDoctype ∨
      q.Inside ∧ ((∃ text after, t = .literal text after) ∨
        ∃ text, t = .name text ∨ t = .qualified text) := by
  cases hp <;> cases t
  case body.name word =>
    have hq : q.Inside := by
      unfold next? at h
      dsimp only at h
      split at h
      · cases h; exact .systemId
      · cases h; exact .publicId
      · cases h
    exact .inr (.inr ⟨hq, .inr ⟨_, .inl rfl⟩⟩)
  case name.name => cases h; exact .inr (.inr ⟨.body, .inr ⟨_, .inl rfl⟩⟩)
  case name.qualified => cases h; exact .inr (.inr ⟨.body, .inr ⟨_, .inr rfl⟩⟩)
  case body.openBracket | brackets.openBracket => exact .inl rfl
  case body.close | brackets.close => cases h; exact .inr (.inl ⟨rfl, rfl⟩)
  case publicId.literal => cases h; exact .inr (.inr ⟨.systemId, .inl ⟨_, _, rfl⟩⟩)
  case systemId.literal => cases h; exact .inr (.inr ⟨.brackets, .inl ⟨_, _, rfl⟩⟩)
  all_goals cases h

end Prolog

/-! ## One token -/

namespace Doctype

/-- What is known of a document without declarations in brackets. -/
structure Bare (d : Doctype) : Prop where
  form : d.form = .utf8
  remainder : d.remainder = false
  attributes : d.attributes = []

theorem bare_of_heed_outside (hp : p.Outside) (hd : d.Bare) (h : d.heed cs p t = .ok d') :
    d'.Bare := by
  cases hp <;> cases t
  case opening.declaration body after =>
    rw [heed] at h
    split at h
    · cases h; exact ⟨hd.form, hd.remainder, hd.attributes⟩
    · cases h
  all_goals cases h; exact hd

theorem bare_of_heed_inside (hp : p.Inside) (hd : d.Bare) (h : d.heed cs p t = .ok d') :
    d'.Bare := by
  cases hp <;> cases t
  case publicId.literal =>
    obtain ⟨-, -, hret⟩ := bind_eq_ok.mp h
    cases hret
    exact ⟨hd.form, hd.remainder, hd.attributes⟩
  case systemId.literal => cases h; exact ⟨hd.form, hd.remainder, hd.attributes⟩
  all_goals cases h; exact hd

/-- What one token before the root does: white space is passed over, the root ends the reading, and
any other token leads on by the grammar. -/
theorem readProlog_cases (hd : d.Bare) (h : readProlog limit d p cs = .ok r) :
    ∃ n t rest, limit = n + 1 ∧ Token.scan .utf8 cs = .ok (t, rest) ∧
      ((t = .space ∧ ∃ q, (q = p ∨ p = .opening ∧ q = .beforeDoctype) ∧
          readProlog n d q rest = .ok r) ∨
        (t = .root ∧ p.Outside ∧ r = (d, rest)) ∨
        ∃ q d', p.next? t = some q ∧ d.heed cs p t = .ok d' ∧ readProlog n d' q rest = .ok r) := by
  rw [← hd.form]
  revert h
  fun_cases readProlog limit d p cs with
  | case1 => rintro ⟨⟩
  | case2 => rintro ⟨⟩
  | case3 => rintro ⟨⟩
  | case4 n d cs _ rest hscan =>
    exact fun h => ⟨n, _, rest, rfl, hscan, .inl ⟨rfl, _, .inr ⟨rfl, rfl⟩, h⟩⟩
  | case5 n d cs _ rest p _ hscan =>
    exact fun h => ⟨n, _, rest, rfl, hscan, .inl ⟨rfl, _, .inl rfl, h⟩⟩
  | case6 n d cs _ rest hscan =>
    rintro ⟨⟩
    exact ⟨n, _, rest, rfl, hscan, .inr (.inl ⟨rfl, .opening, rfl⟩)⟩
  | case7 n d cs _ rest hscan =>
    rintro ⟨⟩
    exact ⟨n, _, rest, rfl, hscan, .inr (.inl ⟨rfl, .before, rfl⟩)⟩
  | case8 n d cs _ rest hscan =>
    rintro ⟨⟩
    exact ⟨n, _, rest, rfl, hscan, .inr (.inl ⟨rfl, .behind, rfl⟩)⟩
  | case9 => rintro ⟨⟩
  | case10 n d cs _ t rest p _ _ _ _ _ hscan u q hnext =>
    have hu : u = t := if_neg (by simp [hd.remainder])
    intro h
    obtain ⟨d', hheed, h⟩ := bind_eq_ok.mp h
    split at h
    · cases h
    · exact ⟨n, t, rest, rfl, hscan, .inr (.inr ⟨q, d', hu ▸ hnext, hu ▸ hheed, h⟩)⟩

/-! ## A document type declaration -/

theorem exists_rest_of_space {body ds : List Char} (hquote : openQuote body = none)
    (h : body ++ '>' :: cs = c :: ds) (hc : isSpace c = true) :
    ∃ more, more <:+ body ∧ openQuote more = none ∧ ds.dropWhile isSpace = more ++ '>' :: cs := by
  cases body with
  | nil =>
    obtain ⟨rfl, -⟩ := List.cons.inj h
    cases hc
  | cons b body =>
    simp only [List.cons_append, List.cons.injEq] at h
    obtain ⟨rfl, rfl⟩ := h
    have hspaces : ∀ d ∈ b :: body.takeWhile isSpace, isQuote d = false := fun d hd => by
      rcases List.mem_cons.mp hd with rfl | hd
      · exact (plain_of_isSpace hc).2
      · exact (plain_of_isSpace (List.mem_takeWhile_imp hd)).2
    refine ⟨body.dropWhile isSpace, (List.dropWhile_suffix _).trans (List.suffix_cons b body),
      ?_, ?_⟩
    · rwa [← List.takeWhile_append_dropWhile (p := isSpace) (l := body), ← List.cons_append,
        openQuote_append (openQuote_of_unquoted hspaces)] at hquote
    · rw [List.dropWhile_append]
      split
      · rename_i hempty
        rw [List.isEmpty_iff.mp hempty]
        rfl
      · rfl

theorem exists_rest_of_word {body text : List Char} (hquote : openQuote body = none)
    (h : body ++ '>' :: cs = text ++ rest)
    (htext : ∀ c ∈ text, form.isNameChar c = true ∨ c = ':') :
    ∃ more, more <:+ body ∧ openQuote more = none ∧ rest = more ++ '>' :: cs := by
  have hplain c (hc : c ∈ text) := Form.plain_of_wordChar (htext c hc)
  obtain ⟨more, rfl, rfl⟩ := exists_append_of_not_mem h fun hmem => (hplain _ hmem).1 rfl
  rw [openQuote_append (openQuote_of_unquoted fun c hc => (hplain c hc).2)] at hquote
  exact ⟨more, List.suffix_append text more, hquote, rfl⟩

/-- White space, a word or a quoted text of a declaration leaves the rest of the declaration. -/
theorem exists_rest_of_spelled {body : List Char} (hquote : openQuote body = none)
    (ht : t = .space ∨ (∃ text after, t = .literal text after) ∨
      ∃ text, t = .name text ∨ t = .qualified text)
    (h : t.Spelled form (body ++ '>' :: cs) rest) :
    ∃ more, more <:+ body ∧ openQuote more = none ∧ rest = more ++ '>' :: cs := by
  rcases ht with rfl | ⟨text, after, rfl⟩ | ⟨text, rfl | rfl⟩
  · obtain ⟨c, ds, heq, hc, rfl⟩ := h
    exact exists_rest_of_space hquote heq hc
  · obtain ⟨q, hq, heq, htext⟩ := h
    obtain ⟨more, rfl, hmore, rfl⟩ := exists_append_of_quoted hq hquote heq htext
    exact ⟨more, ⟨q :: text ++ [q], by simp⟩, hmore, rfl⟩
  · exact exists_rest_of_word hquote h.1 h.2
  · exact exists_rest_of_word hquote h.1 h.2

/-- A document type declaration without brackets ends at the first `>`, if no quote is open
there. -/
theorem readProlog_doctype {body : List Char} (hend : '>' ∉ body) (hbracket : '[' ∉ body)
    (hquote : openQuote body = none) (hp : p.Inside) (hd : d.Bare)
    (h : readProlog limit d p (body ++ '>' :: cs) = .ok r) :
    ∃ n d', d'.Bare ∧ readProlog n d' .afterDoctype cs = .ok r := by
  induction limit generalizing d p body with
  | zero => cases h
  | succ limit ih =>
    obtain ⟨n, t, rest, hn, hscan, hstep⟩ := readProlog_cases hd h
    obtain rfl : limit = n := by omega
    have hspelled := Token.spelled_of_scan hscan
    rcases hstep with ⟨rfl, q, hq, hread⟩ | ⟨rfl, hout, -⟩ | ⟨q, d', hnext, hheed, hread⟩
    · obtain rfl : q = p := hq.resolve_right fun hopen => by rw [hopen.1] at hp; cases hp
      obtain ⟨more, hmore, hquote, rfl⟩ := exists_rest_of_spelled hquote (.inl rfl) hspelled
      exact ih (fun h' => hend (hmore.subset h')) (fun h' => hbracket (hmore.subset h')) hquote hp
        hd hread
    · cases hp <;> cases hout
    · have hd' := bare_of_heed_inside hp hd hheed
      rcases Prolog.next?_of_inside hp hnext with rfl | ⟨rfl, rfl⟩ | ⟨hq, htoken⟩
      · have hopen : body ++ '>' :: cs = '[' :: rest := hspelled
        cases body with
        | nil => simp at hopen
        | cons b body =>
          obtain ⟨rfl, -⟩ := List.cons.inj hopen
          exact absurd List.mem_cons_self hbracket
      · have hclose : body ++ '>' :: cs = '>' :: rest := hspelled
        cases body with
        | nil =>
          obtain ⟨-, rfl⟩ := List.cons.inj hclose
          exact ⟨limit, d', hd', hread⟩
        | cons b body =>
          obtain ⟨rfl, -⟩ := List.cons.inj hclose
          exact absurd List.mem_cons_self hend
      · obtain ⟨more, hmore, hquote, rfl⟩ := exists_rest_of_spelled hquote (.inr htoken) hspelled
        exact ih (fun h' => hend (hmore.subset h')) (fun h' => hbracket (hmore.subset h')) hquote hq
          hd' hread

/-! ## Pieces -/

/-- Reading goes on with a source outside of the document type declaration, and ends with a
result. -/
def ReadsOn (cs : List Char) (r : Read Doctype) : Prop :=
  ∃ limit d p, d.Bare ∧ p.Outside ∧ readProlog limit d p (cs.dropWhile isSpace) = .ok r

theorem readsOn_of_readProlog (hd : d.Bare) (hp : p.Outside)
    (h : readProlog limit d p cs = .ok r) : ReadsOn cs r := by
  obtain ⟨n, t, rest, -, hscan, hstep⟩ := readProlog_cases hd h
  cases cs with
  | nil => cases hscan
  | cons c cs =>
    by_cases hc : isSpace c = true
    · rw [Token.scan_space hc] at hscan
      cases hscan
      rcases hstep with ⟨-, q, hq, hread⟩ | ⟨⟨⟩, -⟩ | ⟨q, d', hnext, -⟩
      · have hq' : q.Outside := by
          rcases hq with rfl | ⟨-, rfl⟩
          · exact hp
          · exact .before
        exact ⟨n, d, q, hd, hq', by rwa [List.dropWhile_cons_of_pos hc]⟩
      · cases hp <;> cases hnext
    · exact ⟨limit, d, p, hd, hp, by rwa [List.dropWhile_cons_of_neg hc]⟩

/-- What a token that is no white space leads to. -/
theorem ReadsOn.step (hc : isSpace c = false) (h : ReadsOn (c :: cs) r) :
    ∃ t rest, Token.scan .utf8 (c :: cs) = .ok (t, rest) ∧
      ((t = .root ∧ r.1.Bare ∧ r.2 = rest) ∨
        (t = .remark ∨ ∃ body after, t = .declaration body after) ∧ ReadsOn rest r ∨
        t = .declare "DOCTYPE".toList ∧
          ∃ n d, d.Bare ∧ readProlog n d .doctypeName rest = .ok r) := by
  obtain ⟨limit, d, p, hd, hp, h⟩ := h
  rw [List.dropWhile_cons_of_neg (by simp [hc])] at h
  obtain ⟨n, t, rest, -, hscan, hstep⟩ := readProlog_cases hd h
  refine ⟨t, rest, hscan, ?_⟩
  rcases hstep with ⟨rfl, -⟩ | ⟨rfl, -, rfl⟩ | ⟨q, d', hnext, hheed, hread⟩
  · obtain ⟨_, _, heq, hspace, -⟩ := Token.spelled_of_scan hscan
    obtain ⟨rfl, -⟩ := List.cons.inj heq
    rw [hc] at hspace
    cases hspace
  · exact .inl ⟨rfl, hd, rfl⟩
  · have hd' := bare_of_heed_outside hp hd hheed
    rcases Prolog.next?_of_outside hp hnext with ⟨hq, ht⟩ | ⟨rfl, rfl⟩
    · exact .inr (.inl ⟨ht, readsOn_of_readProlog hd' hq hread⟩)
    · exact .inr (.inr ⟨rfl, n, d', hd', hread⟩)

theorem readsOn_of_comment {body : List Char} (hbody : ¬ ['-', '-', '>'] <:+: body)
    (h : ReadsOn ('<' :: '!' :: '-' :: '-' :: body ++ '-' :: '-' :: '>' :: cs) r) :
    ReadsOn cs r := by
  obtain ⟨t, rest, hscan, hstep⟩ := h.step rfl
  obtain ⟨⟨text, left⟩, hcomment, hret⟩ := bind_eq_ok.mp
    (hscan : (Scan.comment ('-' :: (body ++ '-' :: '-' :: '>' :: cs)) >>=
      fun x => .ok (Token.remark, x.2)) = .ok (t, rest))
  cases hret
  obtain rfl := Scan.commentBody_eq_ok hbody hcomment
  rcases hstep with ⟨⟨⟩, -⟩ | ⟨-, hread⟩ | ⟨⟨⟩, -⟩
  exact hread

theorem readsOn_of_instruction {body : List Char} (hbody : ¬ ['?', '>'] <:+: body)
    (h : ReadsOn ('<' :: '?' :: body ++ '?' :: '>' :: cs) r) : ReadsOn cs r := by
  obtain ⟨t, rest, hscan, hstep⟩ := h.step rfl
  obtain ⟨⟨i, left⟩, hinstruction, hret⟩ := bind_eq_ok.mp
    (hscan : (Scan.instruction .utf8 (body ++ '?' :: '>' :: cs) >>=
      fun x => .ok (Token.ofInstruction x.1 x.2, x.2)) = .ok (t, rest))
  cases hret
  obtain rfl := Scan.instruction_eq_ok hbody hinstruction
  rcases Token.ofInstruction_cases i rest with heq | ⟨_, _, heq⟩
  all_goals
    rw [heq] at hstep
    rcases hstep with ⟨⟨⟩, -⟩ | ⟨-, hread⟩ | ⟨⟨⟩, -⟩
    exact hread

theorem readsOn_of_doctype {body : List Char} (hend : '>' ∉ body) (hbracket : '[' ∉ body)
    (hquote : openQuote body = none)
    (h : ReadsOn ('<' :: '!' :: 'D' :: 'O' :: 'C' :: 'T' :: 'Y' :: 'P' :: 'E' :: body ++ '>' :: cs)
      r) : ReadsOn cs r := by
  obtain ⟨t, rest, hscan, hstep⟩ := h.step rfl
  obtain ⟨⟨word, left⟩, hword, hret⟩ := bind_eq_ok.mp
    (hscan : (Token.keywordBody .utf8 (['O', 'C', 'T', 'Y', 'P', 'E'] ++ (body ++ '>' :: cs)) >>=
      fun x => .ok (Token.declare ('D' :: x.1), x.2)) = .ok (t, rest))
  cases hret
  have happend : ['O', 'C', 'T', 'Y', 'P', 'E'] ++ (body ++ '>' :: cs) = word ++ rest :=
    Token.keywordBody_eq_ok hword
  have hkeyword : "DOCTYPE".toList = ['D', 'O', 'C', 'T', 'Y', 'P', 'E'] := by decide
  rcases hstep with ⟨⟨⟩, -⟩ | ⟨ht, -⟩ | ⟨ht, n, d, hd, hread⟩
  · rcases ht with ht | ⟨_, _, ht⟩ <;> cases ht
  · rw [hkeyword] at ht
    cases ht
    obtain rfl := List.append_cancel_left happend
    obtain ⟨n, d', hd', hread⟩ := readProlog_doctype hend hbracket hquote .name hd hread
    exact readsOn_of_readProlog hd' .behind hread

/-- White space is passed over, or else refused. -/
theorem readsOn_of_blank (hc : Text.isBlank c = true) (h : ReadsOn (c :: cs) r) :
    ReadsOn cs r := by
  cases hspace : isSpace c with
  | true =>
    rwa [ReadsOn, List.dropWhile_cons_of_pos hspace] at h
  | false =>
    obtain ⟨t, rest, hscan, -⟩ := h.step hspace
    exact absurd hscan (Token.scan_ne_ok_of_isBlank hc hspace)

/-- A whole piece is passed over. -/
theorem readsOn_of_piece {x : Piece} (hx : x.Whole) (h : ReadsOn (x.text ++ cs) r) :
    ReadsOn cs r := by
  cases x with
  | space c blank => exact readsOn_of_blank blank h
  | instruction body unended => exact readsOn_of_instruction unended (by simpa [Piece.text] using h)
  | comment body unended => exact readsOn_of_comment unended (by simpa [Piece.text] using h)
  | doctype body unended =>
    exact readsOn_of_doctype unended hx.1 hx.2 (by simpa [Piece.text] using h)

/-- The root is found behind a prolog of whole pieces. -/
theorem readProlog_root {pieces : List Piece} (hpieces : ∀ x ∈ pieces, x.Whole)
    (hc : RootTag.isNameStart c = true) (hd : d.Bare) (hp : p.Outside)
    (h : readProlog limit d p (prologText pieces ++ '<' :: c :: cs) = .ok r) :
    r.1.Bare ∧ r.2 = '<' :: c :: cs := by
  have hread := readsOn_of_readProlog hd hp h
  clear h
  induction pieces with
  | nil =>
    obtain ⟨t, rest, hscan, hstep⟩ := ReadsOn.step rfl hread
    rw [Token.scan_root hc] at hscan
    cases hscan
    rcases hstep with ⟨-, hbare, hrest⟩ | ⟨ht, -⟩ | ⟨⟨⟩, -⟩
    · exact ⟨hbare, hrest⟩
    · rcases ht with ht | ⟨_, _, ht⟩ <;> cases ht
  | cons x pieces ih =>
    have htext : prologText (x :: pieces) = x.text ++ prologText pieces := rfl
    rw [htext, List.append_assoc] at hread
    exact ih (fun y hy => hpieces y (List.mem_cons_of_mem x hy))
      (readsOn_of_piece (hpieces x List.mem_cons_self) hread)

end Doctype

end MathLint.Xml

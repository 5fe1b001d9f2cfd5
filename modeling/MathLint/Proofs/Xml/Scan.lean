import Mathlib.Data.List.TakeWhile
import MathLint.Proofs.RootTag.Genuine
import MathLint.Xml.Doctype.Token

/-!
# What scanners read

A scanner that reads a token takes a text from the front of the source and leaves the rest. These
lemmas say which text that is.

* `exists_append_of_not_mem`, `exists_append_of_quoted`: a text that is taken ends before a mark.
* `Scan.name_eq_ok`, `Scan.qualifiedName_eq_ok`: names.
* `Scan.commentBody_eq_ok`, `Scan.instruction_eq_ok`: remarks end at their first end mark.
* `Token.spelled_of_scan`: the tokens of a document type declaration without brackets.
* `Token.scan_space`, `Token.scan_ne_ok_of_isBlank`, `Token.scan_root`: the tokens around a root.
-/

namespace MathLint.Xml

/-- Reading in two steps succeeds if both do. -/
theorem bind_eq_ok {ε α β : Type} {x : Except ε α} {f : α → Except ε β} {b : β} :
    (x >>= f) = .ok b ↔ ∃ a, x = .ok a ∧ f a = .ok b := by
  constructor
  · intro h
    cases x with
    | error e => cases h
    | ok a => exact ⟨a, rfl, h⟩
  · rintro ⟨a, rfl, hf⟩
    exact hf

variable {form : Form} {c : Char} {cs text rest : List Char}

/-! ## Texts up to a mark -/

/-- What is taken from the front of a source ends before a character that is not in it. -/
theorem exists_append_of_not_mem {α : Type} {a : α} {xs ys us vs : List α}
    (h : xs ++ a :: ys = us ++ vs) (ha : a ∉ us) :
    ∃ more, xs = us ++ more ∧ vs = more ++ a :: ys := by
  rcases List.append_eq_append_iff.mp h with ⟨more, hus, hmore⟩ | ⟨more, hxs, hvs⟩
  · cases more with
    | nil => exact ⟨[], by simpa using hus.symm, by simpa using hmore.symm⟩
    | cons b more =>
      obtain ⟨rfl, -⟩ := List.cons.inj hmore
      exact absurd (by simp [hus]) ha
  · exact ⟨more, hxs, hvs⟩

/-- A quoted text in front of a `>` at which no quote is open ends before it. -/
theorem exists_append_of_quoted {q : Char} {body : List Char} (hq : RootTag.isQuote q = true)
    (hquote : RootTag.openQuote body = none) (h : body ++ '>' :: cs = q :: text ++ q :: rest)
    (htext : q ∉ text) :
    ∃ more, body = q :: text ++ q :: more ∧ RootTag.openQuote more = none ∧
      rest = more ++ '>' :: cs := by
  cases body with
  | nil =>
    obtain ⟨rfl, -⟩ := List.cons.inj h
    cases hq
  | cons b body =>
    simp only [List.cons_append, List.cons.injEq] at h
    obtain ⟨rfl, h⟩ := h
    -- the quote that ends the text is the first one like it
    obtain ⟨u, v, rfl, hu⟩ :=
      List.eq_append_cons_of_mem (RootTag.mem_of_openQuote_cons hq hquote)
    rw [List.append_assoc, List.cons_append] at h
    obtain ⟨more, rfl, hmore⟩ := exists_append_of_not_mem h htext
    cases more with
    | nil =>
      obtain ⟨-, rfl⟩ := List.cons.inj hmore
      rw [← List.cons_append, RootTag.openQuote_quoted hq hu] at hquote
      exact ⟨v, by simp, hquote, rfl⟩
    | cons e more =>
      obtain ⟨rfl, -⟩ := List.cons.inj hmore
      simp at hu

/-! ## Characters -/

/-- What holds of the four characters of white space. -/
theorem of_isSpace {P : Char → Prop} (h : isSpace c = true)
    (hP : P ' ' ∧ P '\t' ∧ P '\n' ∧ P '\r') : P c := by
  simp only [isSpace, Bool.or_eq_true, beq_iff_eq] at h
  obtain ⟨hspace, htab, hfeed, hreturn⟩ := hP
  rcases h with ((rfl | rfl) | rfl) | rfl
  · exact hspace
  · exact htab
  · exact hfeed
  · exact hreturn

theorem plain_of_isSpace (h : isSpace c = true) : c ≠ '>' ∧ RootTag.isQuote c = false :=
  of_isSpace (P := fun c => c ≠ '>' ∧ RootTag.isQuote c = false) h (by decide)

theorem isAllowed_of_isSpace (h : isSpace c = true) : isAllowed c = true :=
  of_isSpace (P := fun c => isAllowed c = true) h (by decide)

/-- A character of ASCII that names do not have. -/
theorem Form.isNameChar_of_ascii (hascii : c.toNat < 0x80)
    (h : (c.isAlphanum || c == '_' || c == '-' || c == '.') = false) :
    form.isNameChar c = false := by
  rw [Form.isNameChar, if_pos hascii, h]

/-- A word has no quotes, and no end of a tag. -/
theorem Form.plain_of_wordChar (h : form.isNameChar c = true ∨ c = ':') :
    c ≠ '>' ∧ RootTag.isQuote c = false := by
  have hne (d : Char) (hascii : d.toNat < 0x80) (hcolon : d ≠ ':')
      (hd : (d.isAlphanum || d == '_' || d == '-' || d == '.') = false) : c ≠ d := by
    rintro rfl
    rw [Form.isNameChar_of_ascii hascii hd] at h
    exact h.elim (by simp) hcolon
  refine ⟨hne '>' (by decide) (by decide) (by decide), ?_⟩
  rw [RootTag.isQuote, Bool.or_eq_false_iff, beq_eq_false_iff_ne, beq_eq_false_iff_ne]
  exact ⟨hne '"' (by decide) (by decide) (by decide), hne '\'' (by decide) (by decide) (by decide)⟩

/-- The code points of white space. -/
def blankPoints : List Nat :=
  List.range' 0x09 5 ++ List.range' 0x1C 5 ++ [0x85, 0xA0, 0x1680] ++ List.range' 0x2000 11 ++
    [0x2028, 0x2029, 0x202F, 0x205F, 0x3000]

theorem Form.isNameChar_of_isBlank (h : Text.isBlank c = true) :
    Form.utf8.isNameChar c = false := by
  have hmem : c.toNat ∈ blankPoints := by
    simp only [Text.isBlank, Bool.or_eq_true, Bool.and_eq_true, decide_eq_true_eq,
      beq_iff_eq] at h
    simp only [blankPoints, List.mem_append, List.mem_range'_1, List.mem_cons, List.not_mem_nil,
      or_false]
    omega
  have hall : ∀ n ∈ blankPoints, Form.utf8.isNameChar (Char.ofNat n) = false := by
    decide +kernel
  simpa using hall c.toNat hmem

theorem Form.isNameChar_of_isNameStart (h : form.isNameStart c = true) :
    form.isNameChar c = true := by
  unfold Form.isNameStart at h
  unfold Form.isNameChar
  split
  · rename_i hascii
    rw [if_pos hascii, Bool.or_eq_true] at h
    rcases h with h | h <;> simp [Char.isAlphanum, h]
  · rename_i hascii
    rw [if_neg hascii] at h
    rw [Form.isNameStart, if_neg hascii, h, Bool.true_or]

/-! ## Names -/

namespace Scan

theorem exactly_eq_ok {u : Unit} : exactly c cs = .ok (u, rest) ↔ cs = c :: rest := by
  cases cs with
  | nil => simp [exactly]
  | cons d cs =>
    by_cases h : d = c
    · simp [exactly, h]
    · simp [exactly, h]

theorem run_eq_ok {inside : Char → Bool} (h : run inside cs = .ok (text, rest)) :
    text = cs.takeWhile inside ∧ rest = cs.dropWhile inside := by
  unfold run at h
  dsimp only at h
  split at h
  · cases h
  · cases h
    exact ⟨rfl, rfl⟩

/-- A name goes up to the first character that names do not have. -/
theorem name_eq_ok (h : name form cs = .ok (text, rest)) :
    ∃ d ds, cs = d :: ds ∧ form.isNameStart d = true ∧ text = d :: ds.takeWhile form.isNameChar ∧
      rest = ds.dropWhile form.isNameChar := by
  unfold name at h
  split at h
  · cases h
  · rename_i d ds
    split at h
    · rename_i hstart
      obtain ⟨⟨more, left⟩, hrun, hret⟩ := bind_eq_ok.mp h
      obtain ⟨rfl, rfl⟩ := run_eq_ok hrun
      cases hret
      exact ⟨d, ds, rfl, hstart, rfl, rfl⟩
    · cases h

theorem mem_name (h : name form cs = .ok (text, rest)) (hc : c ∈ text) :
    form.isNameChar c = true := by
  obtain ⟨d, ds, -, hstart, rfl, -⟩ := name_eq_ok h
  rcases List.mem_cons.mp hc with rfl | hc
  · exact Form.isNameChar_of_isNameStart hstart
  · exact List.mem_takeWhile_imp hc

theorem append_of_name (h : name form cs = .ok (text, rest)) : cs = text ++ rest := by
  obtain ⟨d, ds, rfl, -, rfl, rfl⟩ := name_eq_ok h
  rw [List.cons_append, List.takeWhile_append_dropWhile]

/-- A name with or without a colon in it. -/
theorem qualifiedName_eq_ok (h : qualifiedName form cs = .ok (text, rest)) :
    cs = text ++ rest ∧ ∀ d ∈ text, form.isNameChar d = true ∨ d = ':' := by
  obtain ⟨⟨first, behind⟩, hfirst, h⟩ := bind_eq_ok.mp h
  have hcs := append_of_name hfirst
  dsimp only at h
  split at h
  · rename_i after
    obtain ⟨⟨second, left⟩, hsecond, hret⟩ := bind_eq_ok.mp h
    cases hret
    refine ⟨by rw [hcs, append_of_name hsecond]; simp, fun d hd => ?_⟩
    rcases List.mem_append.mp hd with hd | hd
    · exact .inl (mem_name hfirst hd)
    · rcases List.mem_cons.mp hd with rfl | hd
      · exact .inr rfl
      · exact .inl (mem_name hsecond hd)
  · cases h
    exact ⟨hcs, fun d hd => .inl (mem_name hfirst hd)⟩

/-! ## Remarks -/

/-- A comment ends at its first end mark. -/
theorem commentBody_eq_ok {body : List Char} (hbody : ¬ ['-', '-', '>'] <:+: body)
    (h : commentBody (body ++ '-' :: '-' :: '>' :: cs) = .ok (text, rest)) : rest = cs := by
  induction body generalizing text with
  | nil =>
    obtain ⟨⟨u, left⟩, hmark, hret⟩ := bind_eq_ok.mp h
    cases hret
    exact (List.cons.inj (exactly_eq_ok.mp hmark)).2.symm
  | cons c body ih =>
    rw [List.cons_append, commentBody.eq_def] at h
    split at h
    · cases h
    · rename_i ds heq
      -- two hyphens inside of the body are refused, or begin an end mark
      obtain ⟨⟨u, left⟩, hmark, -⟩ := bind_eq_ok.mp h
      rw [exactly_eq_ok.mp hmark] at heq
      rcases body with _ | ⟨d, _ | ⟨e, body⟩⟩
      · simp at heq
      · simp at heq
      · simp only [List.cons_append, List.cons.injEq] at heq
        exact absurd ⟨[], body, by simp [heq]⟩ hbody
    · rename_i d ds _ heq
      obtain ⟨rfl, rfl⟩ := List.cons.inj heq
      split at h
      · obtain ⟨⟨more, left⟩, hmore, hret⟩ := bind_eq_ok.mp h
        cases hret
        exact ih (fun h' => hbody (List.infix_cons h')) hmore
      · cases h

/-- The data of an instruction end at the first end mark. -/
theorem instructionBody_eq_ok {body : List Char} (hbody : ¬ ['?', '>'] <:+: body)
    (h : instructionBody (body ++ '?' :: '>' :: cs) = .ok (text, rest)) : rest = cs := by
  induction body generalizing text with
  | nil => cases h; rfl
  | cons c body ih =>
    rw [List.cons_append, instructionBody.eq_def] at h
    split at h
    · cases h
    · rename_i ds heq
      rcases body with _ | ⟨d, body⟩
      · simp at heq
      · simp only [List.cons_append, List.cons.injEq] at heq
        exact absurd ⟨[], body, by simp [heq]⟩ hbody
    · rename_i d ds _ heq
      obtain ⟨rfl, rfl⟩ := List.cons.inj heq
      split at h
      · obtain ⟨⟨more, left⟩, hmore, hret⟩ := bind_eq_ok.mp h
        cases hret
        exact ih (fun h' => hbody (List.infix_cons h')) hmore
      · cases h

/-- An instruction ends at its first end mark. -/
theorem instruction_eq_ok {body : List Char} {i : Instruction} (hbody : ¬ ['?', '>'] <:+: body)
    (hread : instruction form (body ++ '?' :: '>' :: cs) = .ok (i, rest)) : rest = cs := by
  obtain ⟨⟨target, behind⟩, hname, h⟩ := bind_eq_ok.mp hread
  -- the target ends inside of the body, for a name has no question mark
  have hmark : '?' ∉ target := fun hmem => by
    have := mem_name hname hmem
    rw [Form.isNameChar_of_ascii (by decide) (by decide)] at this
    cases this
  obtain ⟨data, rfl, hbehind⟩ := exists_append_of_not_mem (append_of_name hname) hmark
  have hdata : ¬ ['?', '>'] <:+: data :=
    fun h' => hbody (h'.trans (List.suffix_append target data).isInfix)
  subst hbehind
  dsimp only at h
  cases data with
  | nil =>
    simp only [List.nil_append] at h
    split at h
    · cases h
    · rw [if_pos (by decide)] at h
      obtain ⟨⟨u, left⟩, hend, hret⟩ := bind_eq_ok.mp h
      cases hret
      exact (List.cons.inj (exactly_eq_ok.mp hend)).2.symm
  | cons d data =>
    simp only [List.cons_append] at h
    split at h
    · cases h
    · split at h
      · -- a question mark inside of the body ends nothing
        rename_i hd
        obtain rfl := beq_iff_eq.mp hd
        obtain ⟨⟨u, left⟩, hend, -⟩ := bind_eq_ok.mp h
        have heq := exactly_eq_ok.mp hend
        cases data with
        | nil => simp at heq
        | cons e data =>
          obtain ⟨rfl, -⟩ := List.cons.inj heq
          exact absurd ⟨[], data, rfl⟩ hdata
      · obtain ⟨⟨more, left⟩, hmore, hret⟩ := bind_eq_ok.mp h
        cases hret
        exact instructionBody_eq_ok (fun h' => hdata (List.infix_cons h')) hmore

end Scan

/-! ## Tokens of a document type declaration -/

namespace Token

variable {t : Token}

theorem literalBody_eq_ok {q : Char} {after : List Char}
    (h : literalBody q cs = .ok ((text, after), rest)) : cs = text ++ q :: rest ∧ q ∉ text := by
  induction cs generalizing text after with
  | nil => cases h
  | cons c cs ih =>
    rw [literalBody] at h
    split at h
    · rename_i hc
      split at h
      · cases h
        exact ⟨by simp [beq_iff_eq.mp hc], List.not_mem_nil⟩
      · cases h
    · rename_i hc
      split at h
      · obtain ⟨⟨⟨more, _⟩, left⟩, hmore, hret⟩ := bind_eq_ok.mp h
        cases hret
        obtain ⟨rfl, hmem⟩ := ih hmore
        refine ⟨rfl, List.not_mem_cons_of_ne_of_not_mem (Ne.symm ?_) hmem⟩
        simpa using hc
      · cases h

theorem keywordBody_eq_ok (h : keywordBody form cs = .ok (text, rest)) : cs = text ++ rest := by
  fun_induction keywordBody form cs generalizing text with
  | case1 => cases h
  | case2 c cs _ ih =>
    obtain ⟨⟨more, left⟩, hmore, hret⟩ := bind_eq_ok.mp h
    cases hret
    rw [ih hmore, List.cons_append]
  | case3 => cases h; rfl
  | case4 => cases h
  | case5 => cases h
  | case6 => cases h; rfl
  | case7 => cases h

theorem ofWord_cases (form : Form) (word : List Char) :
    ofWord form word = .word ∨ ofWord form word = name word ∨
      ofWord form word = qualified word := by
  unfold ofWord
  split
  · exact .inl rfl
  · split
    · exact .inr (.inl rfl)
    · split
      · exact .inl rfl
      · exact .inr (.inr rfl)

/-- A word goes up to the first character that words do not have. -/
theorem anyWord_eq_ok (hread : anyWord form cs = .ok (t, rest)) :
    t = repeated ∨ ∃ word, t = ofWord form word ∧ cs = word ++ rest ∧
      ∀ d ∈ word, form.isNameChar d = true ∨ d = ':' := by
  obtain ⟨⟨word, behind⟩, hrun, h⟩ := bind_eq_ok.mp hread
  obtain ⟨hword, hbehind⟩ := Scan.run_eq_ok hrun
  have happend : cs = word ++ behind := by rw [hword, hbehind, List.takeWhile_append_dropWhile]
  have hmem : ∀ d ∈ word, form.isNameChar d = true ∨ d = ':' := fun d hd => by
    have hd' := List.mem_takeWhile_imp (hword ▸ hd)
    simpa using hd'
  dsimp only at h
  split at h
  · split at h
    · cases h
    · cases h
      exact .inr ⟨word, rfl, happend, hmem⟩
  · split at h
    · cases h
    · split at h
      · cases h
        exact .inr ⟨word, rfl, happend, hmem⟩
      · split at h
        · cases h
          exact .inl rfl
        · cases h

/-- What is known of the source from which a token was read, for the tokens of a document type
declaration without brackets. -/
def Spelled (form : Form) (cs rest : List Char) : Token → Prop
  | space => ∃ c ds, cs = c :: ds ∧ isSpace c = true ∧ rest = ds.dropWhile isSpace
  | close => cs = '>' :: rest
  | openBracket => cs = '[' :: rest
  | literal text _ => ∃ q, RootTag.isQuote q = true ∧ cs = q :: text ++ q :: rest ∧ q ∉ text
  | name text | qualified text =>
    cs = text ++ rest ∧ ∀ d ∈ text, form.isNameChar d = true ∨ d = ':'
  | _ => True

theorem spelled_of_anyWord (h : anyWord form cs = .ok (t, rest)) : t.Spelled form cs rest := by
  rcases anyWord_eq_ok h with rfl | ⟨word, rfl, hword⟩
  · trivial
  · rcases ofWord_cases form word with heq | heq | heq <;> rw [heq]
    · trivial
    · exact hword
    · exact hword

theorem ofInstruction_cases (i : Scan.Instruction) (rest : List Char) :
    ofInstruction i rest = remark ∨
      ∃ body after, ofInstruction i rest = declaration body after := by
  unfold ofInstruction
  split
  · exact .inr ⟨_, _, rfl⟩
  · exact .inl rfl

/-! Behind the signs that open markup, references, keywords and groups, no token of such a
declaration is read. -/

theorem spelled_of_tagRest (h : tagRest form cs = .ok (t, rest)) (ds : List Char) :
    t.Spelled form ds rest := by
  unfold tagRest at h
  split at h
  · cases h
  · unfold declarationRest at h
    split at h
    · cases h
    · obtain ⟨_, -, hret⟩ := bind_eq_ok.mp h
      cases hret
      trivial
    · cases h
      trivial
    · split at h
      · obtain ⟨_, -, hret⟩ := bind_eq_ok.mp h
        cases hret
        trivial
      · cases h
  · obtain ⟨⟨i, left⟩, -, hret⟩ := bind_eq_ok.mp h
    cases hret
    rcases ofInstruction_cases i rest with heq | ⟨body, after, heq⟩ <;> rw [heq] <;> trivial
  · split at h
    · cases h
      trivial
    · cases h

theorem spelled_of_percentRest (h : percentRest form cs = .ok (t, rest)) (ds : List Char) :
    t.Spelled form ds rest := by
  unfold percentRest at h
  split at h
  · cases h
  · split at h
    · cases h
      trivial
    · obtain ⟨_, -, h⟩ := bind_eq_ok.mp h
      obtain ⟨_, -, hret⟩ := bind_eq_ok.mp h
      cases hret
      trivial

theorem spelled_of_keywordRest (h : keywordRest form cs = .ok (t, rest)) (ds : List Char) :
    t.Spelled form ds rest := by
  obtain ⟨⟨word, left⟩, -, h⟩ := bind_eq_ok.mp h
  dsimp only at h
  split at h
  · cases h
    trivial
  · cases h

theorem spelled_of_bracketRest (h : bracketRest cs = .ok (t, rest)) (ds : List Char) :
    t.Spelled form ds rest := by
  unfold bracketRest at h
  split at h
  · cases h
  · cases h
    trivial
  · cases h
    trivial

theorem spelled_of_groupRest (h : groupRest cs = .ok (t, rest)) (ds : List Char) :
    t.Spelled form ds rest := by
  unfold groupRest at h
  split at h
  · cases h
    trivial
  · split at h
    · cases h
      trivial
    · split at h
      · cases h
        trivial
      · cases h

/-- The source of a token of a document type declaration without brackets. -/
theorem spelled_of_scan : scan form cs = .ok (t, rest) → t.Spelled form cs rest := by
  fun_cases scan form cs with
  | case1 => intro h; cases h
  | case2 => exact fun h => spelled_of_tagRest h _
  | case3 => exact fun h => spelled_of_percentRest h _
  | case4 => exact fun h => spelled_of_keywordRest h _
  | case9 => exact fun h => spelled_of_bracketRest h _
  | case11 => exact fun h => spelled_of_groupRest h _
  | case5 | case6 | case10 => rintro ⟨⟩; trivial
  | case7 | case8 => rintro ⟨⟩; rfl
  | case12 cs c _ _ _ _ _ _ _ _ _ _ hc => rintro ⟨⟩; exact ⟨c, cs, rfl, hc, rfl⟩
  | case13 cs c _ _ _ _ _ _ _ _ _ _ _ hc =>
    intro h
    obtain ⟨⟨⟨text, after⟩, left⟩, hbody, hret⟩ := bind_eq_ok.mp h
    cases hret
    obtain ⟨rfl, hmem⟩ := literalBody_eq_ok hbody
    exact ⟨c, hc, rfl, hmem⟩
  | case14 => exact spelled_of_anyWord

theorem scan_space (h : isSpace c = true) :
    scan form (c :: cs) = .ok (space, cs.dropWhile isSpace) :=
  of_isSpace (P := fun c => scan form (c :: cs) = .ok (space, cs.dropWhile isSpace)) h
    ⟨rfl, rfl, rfl, rfl⟩

/-- White space that XML does not know opens no token. -/
theorem scan_ne_ok_of_isBlank (hblank : Text.isBlank c = true) (hspace : isSpace c = false) :
    scan .utf8 (c :: cs) ≠ .ok (t, rest) := by
  generalize hds : c :: cs = ds
  fun_cases scan .utf8 ds with
  | case1 => cases hds
  | case2 | case3 | case4 | case5 | case6 | case7 | case8 | case9 | case10 | case11 =>
    cases hds
    cases hblank
  | case12 ds e _ _ _ _ _ _ _ _ _ _ he =>
    cases hds
    rw [hspace] at he
    cases he
  | case13 ds e _ _ _ _ _ _ _ _ _ _ _ he =>
    cases hds
    rcases Bool.or_eq_true_iff.mp he with he | he
    · rw [beq_iff_eq.mp he] at hblank
      cases hblank
    · rw [beq_iff_eq.mp he] at hblank
      cases hblank
  | case14 =>
    cases hds
    intro hread
    -- such a character is in no word, so the word is empty
    have hc : (Form.utf8.isNameChar c || c == ':') = false := by
      rw [Form.isNameChar_of_isBlank hblank, Bool.false_or, beq_eq_false_iff_ne]
      rintro rfl
      cases hblank
    obtain ⟨⟨word, behind⟩, hrun, h⟩ := bind_eq_ok.mp hread
    obtain ⟨hword, hbehind⟩ := Scan.run_eq_ok hrun
    simp only [List.takeWhile_cons, List.dropWhile_cons, hc, Bool.false_eq_true, if_false]
      at hword hbehind
    subst hword hbehind
    cases h

theorem scan_root (h : RootTag.isNameStart c = true) :
    scan .utf8 ('<' :: c :: cs) = .ok (root, '<' :: c :: cs) := by
  have hascii := RootTag.toNat_lt_of_isNameStart h
  have hopens : Form.utf8.opensRoot c = true := by
    have hstart : Form.utf8.isNameStart c = true := by
      rw [Form.isNameStart, if_pos hascii]
      exact h
    simp [Form.opensRoot, Form.isKeywordChar, hascii, hstart]
  have htag : tagRest .utf8 (c :: cs) = .ok (root, '<' :: c :: cs) := by
    generalize hds : c :: cs = ds
    fun_cases tagRest .utf8 ds with
    | case1 => cases hds
    | case2 | case3 => cases hds; cases h
    | case4 => cases hds; rfl
    | case5 _ _ _ _ hrefused => cases hds; exact absurd hopens hrefused
  exact htag

end Token

end MathLint.Xml

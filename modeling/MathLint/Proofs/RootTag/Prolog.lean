import Mathlib.Data.List.TakeWhile
import MathLint.Proofs.RootTag

/-!
# The start tag behind a prolog

What stands before the root of most documents is made of pieces that end at their first end mark:
white space, processing instructions, comments and document type declarations (`Piece`). The search
for the start tag passes over them one by one.

* `findFrom_blank`, `findFrom_instruction_cons`, `findFrom_comment_cons`, `findFrom_tag`: one step
  of the search.
* `findFrom_piece`, `findFrom_prolog`: the search behind a piece, and behind a whole prolog.
* `nameAt_cases`, `tagAt?_eq_some_iff`: the form of a name, and the tag at a name.
* `find?_behind_prolog`: the tag that is found behind a prolog.
-/

namespace MathLint.RootTag

open Text

variable {c : Char} {cs : List Char} {t : RootTag}

/-! ## Steps of the search -/

theorem toNat_lt_of_isNameStart (h : isNameStart c = true) : c.toNat < 0x80 := by
  have hdef : isNameStart c = ((decide ('A'.val ≤ c.val ∧ c.val ≤ 'Z'.val) ||
      ('a'.val ≤ c.val && c.val ≤ 'z'.val)) || c == '_') := rfl
  simp only [hdef, Bool.or_eq_true, Bool.and_eq_true, decide_eq_true_eq, beq_iff_eq,
    UInt32.le_iff_toNat_le] at h
  rcases h with (h | h) | rfl
  · exact Nat.lt_of_le_of_lt h.2 (by decide)
  · exact Nat.lt_of_le_of_lt h.2 (by decide)
  · decide

theorem isNameChar_of_isNameStart (h : isNameStart c = true) : isNameChar c = true := by
  have hascii := toNat_lt_of_isNameStart h
  simp only [isNameStart, Bool.or_eq_true] at h
  simp only [isNameChar, isWordChar, if_pos hascii, Char.isAlphanum, Bool.or_eq_true]
  rcases h with h | h
  · exact .inl (.inl (.inl (.inl h)))
  · exact .inl (.inl (.inr h))

theorem findFrom_blank (h : isBlank c = true) :
    findFrom .between (c :: cs) = (findFrom .between cs).map (behind [c]) := by
  have hc : c ≠ '<' := by rintro rfl; exact absurd h (by decide)
  rw [findFrom.eq_def]
  split <;> grind

theorem findFrom_other (hc : c ≠ '<') (hblank : isBlank c = false) :
    findFrom .between (c :: cs) = none := by
  rw [findFrom.eq_def]
  split <;> grind

/-- Behind a `<` that opens neither a tag nor a piece, nothing is found. -/
theorem findFrom_stray (hstart : isNameStart c = false) (hinstruction : c ≠ '?')
    (hcomment : ¬ ['!', '-', '-'] <+: c :: cs)
    (hdoctype : ¬ ['!', 'D', 'O', 'C', 'T', 'Y', 'P', 'E'] <+: c :: cs) :
    findFrom .between ('<' :: c :: cs) = none := by
  rw [findFrom.eq_def]
  split
  case h_3 => simp_all
  all_goals grind

theorem findFrom_tag (h : isNameStart c = true) :
    findFrom .between ('<' :: c :: cs) = (tagAt? (c :: cs)).map (behind ['<']) := by
  have hc : c ≠ '?' ∧ c ≠ '!' := by constructor <;> (rintro rfl; exact absurd h (by decide))
  rw [findFrom.eq_def]
  split <;> grind

theorem findFrom_instruction_end :
    findFrom .instruction ('?' :: '>' :: cs) =
      ((findFrom .between cs).map (behind ['?', '>'])).or
        ((findFrom .instruction ('>' :: cs)).map (behind ['?'])) := rfl

theorem findFrom_instruction_cons (h : ¬ ['?', '>'] <+: c :: cs) :
    findFrom .instruction (c :: cs) = (findFrom .instruction cs).map (behind [c]) := by
  rw [findFrom.eq_def]
  split <;> grind

theorem findFrom_comment_end :
    findFrom .comment ('-' :: '-' :: '>' :: cs) =
      ((findFrom .between cs).map (behind ['-', '-', '>'])).or
        ((findFrom .comment ('-' :: '>' :: cs)).map (behind ['-'])) := rfl

theorem findFrom_comment_cons (h : ¬ ['-', '-', '>'] <+: c :: cs) :
    findFrom .comment (c :: cs) = (findFrom .comment cs).map (behind [c]) := by
  rw [findFrom.eq_def]
  split <;> grind

theorem findFrom_doctype_end :
    findFrom .doctype ('>' :: cs) = (findFrom .between cs).map (behind ['>']) := rfl

theorem findFrom_doctype_cons (h : c ≠ '>') :
    findFrom .doctype (c :: cs) = (findFrom .doctype cs).map (behind [c]) :=
  if_neg (by simpa using h)

theorem behind_behind (u v : List Char) (t : RootTag) :
    (t.behind v).behind u = t.behind (u ++ v) := by
  simp [behind]

/-! ## Pieces of a prolog -/

/-- A piece of what may stand before the root. The body of an instruction, of a comment and of a
declaration is all that stands before its end mark, which does not occur in it. -/
inductive Piece where
  | space (c : Char) (blank : isBlank c = true)
  | instruction (body : List Char) (unended : ¬ ['?', '>'] <:+: body)
  | comment (body : List Char) (unended : ¬ ['-', '-', '>'] <:+: body)
  | doctype (body : List Char) (unended : '>' ∉ body)

namespace Piece

/-- The text of a piece. -/
def text : Piece → List Char
  | space c _ => [c]
  | instruction body _ => '<' :: '?' :: body ++ ['?', '>']
  | comment body _ => '<' :: '!' :: '-' :: '-' :: body ++ ['-', '-', '>']
  | doctype body _ => '<' :: '!' :: 'D' :: 'O' :: 'C' :: 'T' :: 'Y' :: 'P' :: 'E' :: body ++ ['>']

end Piece

/-- The text of a prolog. -/
def prologText (p : List Piece) : List Char := p.flatMap Piece.text

/-- An instruction ends at its first end mark if a tag is found behind that. -/
theorem findFrom_instruction_body {body : List Char} (hbody : ¬ ['?', '>'] <:+: body)
    (h : findFrom .between cs = some t) :
    findFrom .instruction (body ++ '?' :: '>' :: cs) = some (t.behind (body ++ ['?', '>'])) := by
  induction body with
  | nil => rw [List.nil_append, findFrom_instruction_end, h]; rfl
  | cons c body ih =>
    have hrest : ¬ ['?', '>'] <:+: body := fun h' => hbody (List.infix_cons h')
    have hopen : ¬ ['?', '>'] <+: c :: (body ++ '?' :: '>' :: cs) := by
      intro hpre
      cases body with
      | nil => simp at hpre
      | cons d body =>
        simp only [List.cons_append, List.cons_prefix_cons, List.nil_prefix, and_true] at hpre
        exact hbody ⟨[], body, by simpa using hpre⟩
    rw [List.cons_append, findFrom_instruction_cons hopen, ih hrest, Option.map_some,
      behind_behind]
    rfl

/-- A comment ends at its first end mark if a tag is found behind that. -/
theorem findFrom_comment_body {body : List Char} (hbody : ¬ ['-', '-', '>'] <:+: body)
    (h : findFrom .between cs = some t) :
    findFrom .comment (body ++ '-' :: '-' :: '>' :: cs) =
      some (t.behind (body ++ ['-', '-', '>'])) := by
  induction body with
  | nil => rw [List.nil_append, findFrom_comment_end, h]; rfl
  | cons c body ih =>
    have hrest : ¬ ['-', '-', '>'] <:+: body := fun h' => hbody (List.infix_cons h')
    have hopen : ¬ ['-', '-', '>'] <+: c :: (body ++ '-' :: '-' :: '>' :: cs) := by
      intro hpre
      -- an end mark that begins in the body would need a second `>`
      rcases body with _ | ⟨d, _ | ⟨e, body⟩⟩
      · simp at hpre
      · simp at hpre
      · simp only [List.cons_append, List.cons_prefix_cons, List.nil_prefix, and_true] at hpre
        exact hbody ⟨[], body, by simpa using hpre⟩
    rw [List.cons_append, findFrom_comment_cons hopen, ih hrest, Option.map_some, behind_behind]
    rfl

theorem findFrom_doctype_body {body : List Char} (hbody : '>' ∉ body)
    (h : findFrom .between cs = some t) :
    findFrom .doctype (body ++ '>' :: cs) = some (t.behind (body ++ ['>'])) := by
  induction body with
  | nil => exact congrArg (Option.map (behind ['>'])) h
  | cons c body ih =>
    simp only [List.mem_cons, not_or] at hbody
    rw [List.cons_append, findFrom_doctype_cons (Ne.symm hbody.1), ih hbody.2, Option.map_some,
      behind_behind]
    rfl

/-- The search passes over a piece if a tag is found behind it. -/
theorem findFrom_piece (x : Piece) (h : findFrom .between cs = some t) :
    findFrom .between (x.text ++ cs) = some (t.behind x.text) := by
  cases x with
  | space c blank =>
    simp only [Piece.text, List.cons_append, List.nil_append]
    rw [findFrom_blank blank, h, Option.map_some]
  | instruction body unended =>
    simp only [Piece.text, List.cons_append, List.append_assoc, List.nil_append]
    exact congrArg (Option.map (behind ['<', '?'])) (findFrom_instruction_body unended h)
  | comment body unended =>
    simp only [Piece.text, List.cons_append, List.append_assoc, List.nil_append]
    exact congrArg (Option.map (behind ['<', '!', '-', '-'])) (findFrom_comment_body unended h)
  | doctype body unended =>
    simp only [Piece.text, List.cons_append, List.append_assoc, List.nil_append]
    exact congrArg (Option.map (behind "<!DOCTYPE".toList)) (findFrom_doctype_body unended h)

/-- The search passes over a prolog if a tag is found behind it. -/
theorem findFrom_prolog (p : List Piece) (h : findFrom .between cs = some t) :
    findFrom .between (prologText p ++ cs) = some (t.behind (prologText p)) := by
  induction p with
  | nil => exact h
  | cons x p ih =>
    have htext : prologText (x :: p) = x.text ++ prologText p := rfl
    rw [htext, List.append_assoc, findFrom_piece x ih, behind_behind]

/-! ## The tag at a name -/

/-- A name with a colon in it, which no name character follows, is read to its end. -/
theorem nameAt_qualified {first second rest : List Char} (hfirst : ∀ c ∈ first, isNameChar c = true)
    (hsecond : ∀ c ∈ second, isNameChar c = true) (hne : second ≠ [])
    (hrest : ∀ c, rest.head? = some c → isNameChar c = false) :
    nameAt (first ++ ':' :: second ++ rest) = first ++ ':' :: second := by
  have htake : (second ++ rest).takeWhile isNameChar = second := by
    rw [List.takeWhile_append_of_pos hsecond]
    cases rest with
    | nil => simp
    | cons d rest => simp [hrest d rfl]
  have hcolon : isNameChar ':' = false := by decide
  unfold nameAt
  rw [List.append_assoc, List.cons_append, List.takeWhile_append_of_pos hfirst,
    List.dropWhile_append_of_pos hfirst, List.takeWhile_cons_of_neg (by simp [hcolon]),
    List.dropWhile_cons_of_neg (by simp [hcolon])]
  simp only [htake, List.isEmpty_iff, hne, if_false, List.append_nil]

/-- A name has name characters only, or a colon between such characters. -/
theorem nameAt_cases (cs : List Char) :
    (∀ c ∈ nameAt cs, isNameChar c = true) ∨
      ∃ first second, nameAt cs = first ++ ':' :: second ∧ (∀ c ∈ first, isNameChar c = true) ∧
        (∀ c ∈ second, isNameChar c = true) ∧ second ≠ [] := by
  have htake (l : List Char) : ∀ c ∈ l.takeWhile isNameChar, isNameChar c = true :=
    fun _ => List.mem_takeWhile_imp
  unfold nameAt
  dsimp only
  split
  · split
    · exact .inl (htake cs)
    · rename_i after _ hsecond
      exact .inr ⟨_, _, rfl, htake cs, htake after, by simpa using hsecond⟩
  · exact .inl (htake cs)

theorem mem_nameAt {c : Char} (h : c ∈ nameAt cs) : isNameChar c = true ∨ c = ':' := by
  rcases nameAt_cases cs with hall | ⟨first, second, heq, hfirst, hsecond, -⟩
  · exact .inl (hall c h)
  · rw [heq, List.mem_append, List.mem_cons] at h
    rcases h with h | h | h
    · exact .inl (hfirst c h)
    · exact .inr h
    · exact .inl (hsecond c h)

theorem exists_nameAt_cons {c : Char} (cs : List Char) (h : isNameChar c = true) :
    ∃ name, nameAt (c :: cs) = c :: name := by
  unfold nameAt
  rw [List.takeWhile_cons_of_pos h]
  dsimp only
  split
  · split <;> exact ⟨_, rfl⟩
  · exact ⟨_, rfl⟩

theorem tagAt?_eq_some_iff : tagAt? cs = some t ↔
    t.lead = [] ∧ t.name = nameAt cs ∧ '>' ∉ t.attributes ∧ t.source = cs := by
  constructor
  · intro h
    have hsource := source_of_tagAt? h
    unfold tagAt? at h
    dsimp only at h
    split at h
    · cases h
      exact ⟨rfl, rfl, fun hmem => by simpa using List.mem_takeWhile_imp hmem, hsource⟩
    · cases h
  · obtain ⟨lead, name, attributes, rest⟩ := t
    rintro ⟨rfl, hname, hend, rfl⟩
    dsimp only at hname hend
    have hall : ∀ c ∈ attributes, (c != '>') = true := fun c hc => by
      rw [bne_iff_ne]
      rintro rfl
      exact hend hc
    have hdrop : (source ⟨[], name, attributes, rest⟩).drop name.length =
        attributes ++ '>' :: rest := by
      simp [source]
    unfold tagAt?
    dsimp only
    rw [← hname, hdrop, List.dropWhile_append_of_pos hall, List.takeWhile_append_of_pos hall]
    simp

/-- A text up to its first `>`, and what follows. -/
theorem takeWhile_append_end {r : List Char} (h : '>' ∈ r) :
    r.takeWhile (· != '>') ++ '>' :: (r.dropWhile (· != '>')).tail = r := by
  induction r with
  | nil => simp at h
  | cons c r ih =>
    by_cases hc : c = '>'
    · simp [hc]
    · have hr : '>' ∈ r := by simpa [Ne.symm hc] using h
      rw [List.takeWhile_cons_of_pos (by simpa using hc),
        List.dropWhile_cons_of_pos (by simpa using hc), List.cons_append, ih hr]

/-- The tag behind a prolog is found if it has a name and an end. -/
theorem find?_behind_prolog (p : List Piece) {name r : List Char} (hstart : isNameStart c = true)
    (hname : nameAt (c :: name ++ r) = c :: name) (hend : '>' ∈ r) :
    find? (String.ofList (prologText p ++ '<' :: c :: name ++ r)) = some
      ⟨prologText p ++ ['<'], c :: name, r.takeWhile (· != '>'),
        (r.dropWhile (· != '>')).tail⟩ := by
  have htag : tagAt? (c :: (name ++ r)) = some
      ⟨[], c :: name, r.takeWhile (· != '>'), (r.dropWhile (· != '>')).tail⟩ := by
    refine tagAt?_eq_some_iff.mpr ⟨rfl, hname.symm, fun hmem => ?_, ?_⟩
    · simpa using List.mem_takeWhile_imp hmem
    · simp [source, takeWhile_append_end hend]
  have hroot := findFrom_prolog p ((findFrom_tag hstart).trans
    (congrArg (Option.map (behind ['<'])) htag))
  simpa [find?, behind] using hroot

/-- A tag is missed only where nothing could end it. -/
theorem not_mem_of_tagAt?_eq_none (h : tagAt? cs = none) : '>' ∉ cs := by
  intro hmem
  have hname : '>' ∉ nameAt cs := by
    intro h'
    rcases mem_nameAt h' with h' | h' <;> revert h' <;> decide
  rw [← List.prefix_iff_eq_append.mp (nameAt_isPrefix cs)] at hmem
  have hafter := (List.mem_append.mp hmem).resolve_left hname
  unfold tagAt? at h
  dsimp only at h
  split at h
  · cases h
  · rename_i hnil
    have hall := List.dropWhile_eq_nil_iff.mp hnil '>' hafter
    simp at hall

end MathLint.RootTag

import MathLint.Proofs.Text.Blank

/-!
# Words

White space around a text has no part in its words. The words of a text, joined by spaces, are a
text without other white space than single spaces between its other characters.

* `words_pad`, `words_trim`: white space around a text.
* `of_mem_words`, `words_ne_nil`: what words are made of, and which texts have any.
* `IsSpaced`, `isSpaced_collapse`: the white space of collapsed texts.
-/

namespace MathLint.Text

variable {cs before after word rest : List Char} {s : String}

/-! ## White space around a text -/

/-- A text has white space around what is left when it is trimmed. -/
theorem exists_pad_trim (s : String) :
    ∃ before after : String, isBlankText before = true ∧ isBlankText after = true ∧
      s = before ++ trim s ++ after := by
  have hright (cs : List Char) :
      trimRight cs ++ (cs.reverse.takeWhile isBlank).reverse = cs := by
    rw [trimRight, ← List.reverse_append, List.takeWhile_append_dropWhile, List.reverse_reverse]
  refine ⟨.ofList (s.toList.takeWhile isBlank),
    .ofList ((trimLeft s.toList).reverse.takeWhile isBlank).reverse, ?_, ?_, ?_⟩
  · simp [isBlankText]
  · simp [isBlankText]
  · apply String.toList_injective
    simp only [String.toList_append, String.toList_ofList, trim, List.append_assoc, hright]
    rw [trimLeft, List.takeWhile_append_dropWhile]

/-- A text that begins and ends with other characters than white space is left as it is. -/
theorem trim_eq_self (hhead : ∀ c, s.toList.head? = some c → isBlank c = false)
    (hlast : ∀ c, s.toList.getLast? = some c → isBlank c = false) : trim s = s := by
  have hdrop {cs : List Char} (h : ∀ c, cs.head? = some c → isBlank c = false) :
      cs.dropWhile isBlank = cs := by
    cases cs with
    | nil => rfl
    | cons c cs => rw [List.dropWhile_cons, h c rfl, if_neg (by decide)]
  rw [trim, trimLeft, hdrop hhead, trimRight, hdrop fun c hc => ?_, List.reverse_reverse,
    String.ofList_toList]
  rw [List.head?_reverse] at hc
  exact hlast c hc

theorem wordsFrom_blank_append (h : ∀ c ∈ before, isBlank c = true) :
    wordsFrom [] (before ++ cs) = wordsFrom [] cs := by
  induction before with
  | nil => rfl
  | cons c before ih =>
    obtain ⟨hc, hbefore⟩ := List.forall_mem_cons.mp h
    rw [List.cons_append, wordsFrom, if_pos hc]
    exact ih hbefore

theorem wordsFrom_append_blank (h : ∀ c ∈ after, isBlank c = true) (word : List Char) :
    wordsFrom word (cs ++ after) = wordsFrom word cs := by
  induction cs generalizing word with
  | nil =>
    cases after with
    | nil => rfl
    | cons c after =>
      -- the first character of the white space ends the word, and no other one begins
      obtain ⟨hc, hafter⟩ := List.forall_mem_cons.mp h
      have hnone : wordsFrom [] after = [] := by
        simpa [wordsFrom] using @wordsFrom_blank_append [] after hafter
      rw [List.nil_append, wordsFrom, wordsFrom, if_pos hc, hnone]
  | cons c cs ih => simp only [List.cons_append, wordsFrom, ih]

/-- White space around a text has no part in its words. -/
theorem words_pad {before after : String} (hbefore : isBlankText before = true)
    (hafter : isBlankText after = true) (s : String) :
    words (before ++ s ++ after) = words s := by
  simp only [isBlankText, List.all_eq_true] at hbefore hafter
  rw [words, String.toList_append, wordsFrom_append_blank hafter, String.toList_append,
    wordsFrom_blank_append hbefore]
  rfl

theorem words_trim (s : String) : words (trim s) = words s := by
  obtain ⟨before, after, hbefore, hafter, hs⟩ := exists_pad_trim s
  rw [← words_pad hbefore hafter (trim s), ← hs]

/-! ## What words are made of -/

/-- The characters of a word: at least one, and no white space. -/
def IsWord (word : List Char) : Prop := word ≠ [] ∧ ∀ c ∈ word, isBlank c = false

theorem isWord_of_mem_wordsFrom (hword : ∀ c ∈ word, isBlank c = false)
    {w : List Char} (hw : w ∈ wordsFrom word cs) : IsWord w := by
  induction cs generalizing word with
  | nil =>
    rw [wordsFrom] at hw
    split at hw
    · cases hw
    · rename_i hne
      rw [List.mem_singleton.mp hw]
      exact ⟨by simpa using hne, by simpa using hword⟩
  | cons c cs ih =>
    rw [wordsFrom] at hw
    split at hw
    · split at hw
      · exact ih (by simp) hw
      · rename_i hne
        rcases List.mem_cons.mp hw with rfl | hw
        · exact ⟨by simpa using hne, by simpa using hword⟩
        · exact ih (by simp) hw
    · rename_i hc
      exact ih (List.forall_mem_cons.mpr ⟨by simpa using hc, hword⟩) hw

theorem isWord_of_mem_words {w : String} (hw : w ∈ words s) : IsWord w.toList := by
  obtain ⟨word, hword, rfl⟩ := List.mem_map.mp hw
  rw [String.toList_ofList]
  exact isWord_of_mem_wordsFrom (by simp) hword

theorem wordsFrom_ne_nil_of_held (hword : word ≠ []) : wordsFrom word cs ≠ [] := by
  induction cs generalizing word with
  | nil => simp [wordsFrom, hword]
  | cons c cs ih =>
    rw [wordsFrom]
    split
    · simp [hword]
    · exact ih (List.cons_ne_nil _ _)

theorem wordsFrom_ne_nil (h : ∃ c ∈ cs, isBlank c = false) : wordsFrom [] cs ≠ [] := by
  induction cs with
  | nil => simp at h
  | cons c cs ih =>
    rw [wordsFrom]
    cases hc : isBlank c with
    | true =>
      obtain ⟨d, hd, hblank⟩ := h
      refine ih ⟨d, (List.mem_cons.mp hd).resolve_left ?_, hblank⟩
      rintro rfl
      rw [hc] at hblank
      cases hblank
    | false => exact wordsFrom_ne_nil_of_held (List.cons_ne_nil _ _)

theorem words_ne_nil (h : isBlankText s = false) : words s ≠ [] := by
  rw [isBlankText, List.all_eq_false] at h
  obtain ⟨c, hc, hblank⟩ := h
  rw [words, ne_eq, List.map_eq_nil_iff]
  exact wordsFrom_ne_nil ⟨c, hc, by simpa using hblank⟩

/-! ## Collapsed texts -/

/-- The only white space in a text is single spaces between other characters. -/
def IsSpaced (cs : List Char) : Prop :=
  ∀ before c after, cs = before ++ c :: after → isBlank c = true →
    c = ' ' ∧ (∃ b, before.getLast? = some b ∧ isBlank b = false) ∧
      ∃ b, after.head? = some b ∧ isBlank b = false

theorem IsWord.isSpaced (h : IsWord word) : IsSpaced word := by
  rintro before c after rfl hc
  rw [h.2 c (by simp)] at hc
  cases hc

/-- A word, a space, and a text that begins with another character than white space. -/
theorem IsWord.isSpaced_append (h : IsWord word) (hrest : IsSpaced rest)
    (hhead : ∃ b, rest.head? = some b ∧ isBlank b = false) :
    IsSpaced (word ++ ' ' :: rest) := by
  have hlast : ∃ b, word.getLast? = some b ∧ isBlank b = false :=
    ⟨word.getLast h.1, List.getLast?_eq_some_getLast h.1, h.2 _ (List.getLast_mem _)⟩
  intro before c after hcs hc
  rcases List.append_eq_append_iff.mp hcs with ⟨inner, rfl, hinner⟩ | ⟨left, rfl, hleft⟩
  · cases inner with
    | nil =>
      obtain ⟨rfl, rfl⟩ := List.cons.inj hinner
      exact ⟨rfl, by simpa using hlast, hhead⟩
    | cons b inner =>
      obtain ⟨rfl, rfl⟩ := List.cons.inj hinner
      obtain ⟨hspace, ⟨d, hd, hblank⟩, hbehind⟩ := hrest inner c after rfl hc
      refine ⟨hspace, ⟨d, ?_, hblank⟩, hbehind⟩
      rw [List.getLast?_append, List.getLast?_cons, hd]
      rfl
  · cases left with
    | nil =>
      obtain ⟨rfl, rfl⟩ := List.cons.inj hleft
      exact ⟨rfl, by simpa using hlast, hhead⟩
    | cons b left =>
      -- white space inside the word
      obtain ⟨rfl, rfl⟩ := List.cons.inj hleft
      rw [h.2 c (by simp)] at hc
      cases hc

theorem head?_intercalate (h : IsWord word) (ws : List (List Char)) :
    ∃ b, ([' '].intercalate (word :: ws)).head? = some b ∧ isBlank b = false := by
  obtain ⟨hne, hblank⟩ := h
  obtain ⟨c, cs, rfl⟩ := List.exists_cons_of_ne_nil hne
  refine ⟨c, ?_, hblank c List.mem_cons_self⟩
  cases ws with
  | nil => simp
  | cons v ws => rw [List.intercalate_cons_cons]; rfl

/-- Words joined by spaces. -/
theorem isSpaced_intercalate {ws : List (List Char)} (h : ∀ w ∈ ws, IsWord w) :
    IsSpaced ([' '].intercalate ws) := by
  induction ws with
  | nil =>
    rintro before c after hcs
    simp at hcs
  | cons w ws ih =>
    obtain ⟨hw, hws⟩ := List.forall_mem_cons.mp h
    cases ws with
    | nil => simpa using hw.isSpaced
    | cons v ws =>
      rw [List.intercalate_cons_cons, List.append_assoc, List.singleton_append]
      exact hw.isSpaced_append (ih hws) (head?_intercalate (hws v List.mem_cons_self) ws)

/-- A collapsed text has no white space but single spaces between its other characters. -/
theorem isSpaced_collapse (s : String) : IsSpaced (collapse s).toList := by
  rw [collapse, String.toList_intercalate]
  refine isSpaced_intercalate fun w hw => ?_
  obtain ⟨word, hword, rfl⟩ := List.mem_map.mp hw
  exact isWord_of_mem_words hword

theorem collapse_ne_empty (h : isBlankText s = false) : collapse s ≠ "" := by
  obtain ⟨word, ws, hwords⟩ := List.exists_cons_of_ne_nil (words_ne_nil h)
  have hword : IsWord word.toList := isWord_of_mem_words (hwords ▸ List.mem_cons_self)
  obtain ⟨b, hb, -⟩ := head?_intercalate hword (ws.map String.toList)
  intro hempty
  rw [← List.map_cons, ← hwords] at hb
  have htext : (collapse s).toList.head? = some b := by
    rw [collapse, String.toList_intercalate]
    exact hb
  rw [hempty] at htext
  cases htext

end MathLint.Text

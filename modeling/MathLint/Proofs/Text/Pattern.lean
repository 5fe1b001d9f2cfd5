import Mathlib.Data.List.Forall2
import MathLint.Proofs.Text.Blank
import MathLint.Text.Pattern

/-!
# The texts of composed patterns

What the patterns describe that are composed of others: options, repetitions of a character,
sequences, choices, and words in any case.

* `matches_optional_iff`, `matches_many_iff`, `matches_oneOrMore_char_iff`,
  `matches_between_char_iff`, `matches_sequence_cons_iff`, `matches_anyOf_iff`: one lemma for each
  way to compose.
* `Spells`, `matches_anyCase_iff`: a word in letters of any case.
* `Only`, `Only.forall_mem`: the characters of the texts of a pattern.
* `matches_line_iff`, `accepts_line_trim_iff`: the line feed that may follow a text.
-/

namespace MathLint.Text.Pattern

variable {p q : Pattern} {f : Char → Bool} {c : Char} {s t : List Char}

/-! ## Ways to compose -/

theorem matches_optional_iff : Matches (optional p) s ↔ s = [] ∨ Matches p s := by
  rw [optional, matches_either_iff, matches_empty_iff]

theorem matches_exactly_iff : Matches (exactly c) s ↔ s = [c] := by
  rw [exactly, matches_char_iff]
  simp

/-- Repetitions are parts that are not empty, one after another. -/
theorem matches_many_iff :
    Matches (many p) s ↔
      ∃ parts : List (List Char), (∀ t ∈ parts, t ≠ [] ∧ Matches p t) ∧ s = parts.flatten := by
  constructor
  · intro h
    generalize hq : many p = q at h
    induction h with
    | manyNil => exact ⟨[], by simp, rfl⟩
    | manyCons hhead _ _ ih =>
      cases hq
      obtain ⟨parts, hparts, rfl⟩ := ih rfl
      exact ⟨_ :: parts, List.forall_mem_cons.mpr ⟨⟨List.cons_ne_nil _ _, hhead⟩, hparts⟩, rfl⟩
    | _ => cases hq
  · rintro ⟨parts, hparts, rfl⟩
    induction parts with
    | nil => exact .manyNil
    | cons t parts ih =>
      obtain ⟨⟨hne, ht⟩, hrest⟩ := List.forall_mem_cons.mp hparts
      obtain ⟨c, t, rfl⟩ := List.exists_cons_of_ne_nil hne
      exact .manyCons ht (ih hrest)

theorem matches_many_char_iff : Matches (many (char f)) s ↔ ∀ c ∈ s, f c = true := by
  induction s with
  | nil => simp [Matches.manyNil]
  | cons d s ih =>
    rw [matches_many_cons_iff, List.forall_mem_cons, ← ih]
    constructor
    · rintro ⟨a, b, ha, hb, rfl⟩
      obtain ⟨e, he, hda⟩ := matches_char_iff.mp ha
      obtain ⟨rfl, rfl⟩ := List.cons.inj hda
      exact ⟨he, hb⟩
    · rintro ⟨hd, hs⟩
      exact ⟨[], s, .char hd, hs, rfl⟩

theorem matches_append_char_iff :
    Matches (append (char f) p) s ↔ ∃ c t, f c = true ∧ Matches p t ∧ s = c :: t := by
  simp only [matches_append_iff, matches_char_iff]
  constructor
  · rintro ⟨_, t, ⟨c, hc, rfl⟩, ht, rfl⟩
    exact ⟨c, t, hc, ht, rfl⟩
  · rintro ⟨c, t, hc, ht, rfl⟩
    exact ⟨[c], t, ⟨c, hc, rfl⟩, ht, rfl⟩

theorem matches_oneOrMore_char_iff :
    Matches (oneOrMore (char f)) s ↔ s ≠ [] ∧ ∀ c ∈ s, f c = true := by
  simp only [oneOrMore, matches_append_char_iff, matches_many_char_iff]
  constructor
  · rintro ⟨d, t, hd, ht, rfl⟩
    exact ⟨List.cons_ne_nil _ _, List.forall_mem_cons.mpr ⟨hd, ht⟩⟩
  · rintro ⟨hne, hs⟩
    obtain ⟨d, t, rfl⟩ := List.exists_cons_of_ne_nil hne
    obtain ⟨hd, ht⟩ := List.forall_mem_cons.mp hs
    exact ⟨d, t, hd, ht, rfl⟩

theorem matches_between_char_iff {least extra : Nat} :
    Matches (between (char f) least extra) s ↔
      least ≤ s.length ∧ s.length ≤ least + extra ∧ ∀ c ∈ s, f c = true := by
  fun_induction between (char f) least extra generalizing s with
  | case1 least extra ih =>
    rw [matches_append_char_iff]
    constructor
    · rintro ⟨c, t, hc, ht, rfl⟩
      obtain ⟨hleast, hmost, hall⟩ := ih.mp ht
      rw [List.length_cons]
      exact ⟨by omega, by omega, List.forall_mem_cons.mpr ⟨hc, hall⟩⟩
    · rintro ⟨hleast, hmost, hall⟩
      obtain ⟨c, t, rfl⟩ := List.exists_cons_of_length_pos (Nat.lt_of_lt_of_le (by omega) hleast)
      rw [List.length_cons] at hleast hmost
      obtain ⟨hc, hall⟩ := List.forall_mem_cons.mp hall
      exact ⟨c, t, hc, ih.mpr ⟨by omega, by omega, hall⟩, rfl⟩
  | case2 extra ih =>
    rw [matches_optional_iff, matches_append_char_iff]
    constructor
    · rintro (rfl | ⟨c, t, hc, ht, rfl⟩)
      · simp
      · obtain ⟨-, hmost, hall⟩ := ih.mp ht
        rw [List.length_cons]
        exact ⟨by omega, by omega, List.forall_mem_cons.mpr ⟨hc, hall⟩⟩
    · rintro ⟨-, hmost, hall⟩
      cases s with
      | nil => exact .inl rfl
      | cons c t =>
        rw [List.length_cons] at hmost
        obtain ⟨hc, hall⟩ := List.forall_mem_cons.mp hall
        exact .inr ⟨c, t, hc, ih.mpr ⟨by omega, by omega, hall⟩, rfl⟩
  | case3 =>
    rw [matches_empty_iff]
    constructor
    · rintro rfl
      simp
    · rintro ⟨-, hnone, -⟩
      exact List.length_eq_zero_iff.mp (by omega)

theorem matches_sequence_nil_iff : Matches (sequence []) s ↔ s = [] := matches_empty_iff

theorem matches_sequence_cons_iff {ps : List Pattern} :
    Matches (sequence (p :: ps)) s ↔
      ∃ a b, Matches p a ∧ Matches (sequence ps) b ∧ s = a ++ b := by
  cases ps with
  | nil => simp [sequence, matches_empty_iff]
  | cons q ps => exact matches_append_iff

theorem matches_anyOf_iff {ps : List Pattern} : Matches (anyOf ps) s ↔ ∃ p ∈ ps, Matches p s := by
  induction ps with
  | nil => simp [anyOf, not_matches_nothing]
  | cons p ps ih =>
    cases ps with
    | nil => simp [anyOf]
    | cons q ps =>
      have hsplit : anyOf (p :: q :: ps) = either p (anyOf (q :: ps)) := rfl
      rw [hsplit, matches_either_iff, ih]
      simp

/-! ## Words -/

/-- Whether a text is a word of small letters, in letters of any case. -/
def Spells (word : String) (s : List Char) : Prop :=
  List.Forall₂ (fun letter c => foldsTo letter c = true) word.toList s

theorem matches_letters_iff {letters : List Char} :
    Matches (sequence (letters.map fun letter => char (foldsTo letter))) s ↔
      List.Forall₂ (fun letter c => foldsTo letter c = true) letters s := by
  induction letters generalizing s with
  | nil => simp [sequence, matches_empty_iff]
  | cons letter letters ih =>
    rw [List.map_cons, matches_sequence_cons_iff, List.forall₂_cons_left_iff]
    constructor
    · rintro ⟨a, b, ha, hb, rfl⟩
      obtain ⟨d, hd, rfl⟩ := matches_char_iff.mp ha
      exact ⟨d, b, hd, ih.mp hb, rfl⟩
    · rintro ⟨d, b, hd, hb, rfl⟩
      exact ⟨[d], b, .char hd, ih.mpr hb, rfl⟩

theorem matches_anyCase_iff {word : String} : Matches (anyCase word) s ↔ Spells word s :=
  matches_letters_iff

theorem spells_empty_iff : Spells "" s ↔ s = [] := by
  rw [Spells, String.toList_empty, List.forall₂_nil_left_iff]

theorem matches_anyOf_anyCase_iff {words : List String} :
    Matches (anyOf (words.map anyCase)) s ↔ ∃ word ∈ words, Spells word s := by
  simp [matches_anyOf_iff, matches_anyCase_iff]

/-- A text that spells two words one after another is made of two parts. -/
theorem spells_append_iff {word word' : String} :
    Spells (word ++ word') s ↔ ∃ a b, Spells word a ∧ Spells word' b ∧ s = a ++ b := by
  unfold Spells
  rw [String.toList_append]
  constructor
  · intro h
    refine ⟨s.take word.toList.length, s.drop word.toList.length, ?_, ?_,
      (List.take_append_drop _ _).symm⟩
    · simpa using List.forall₂_take word.toList.length h
    · simpa using List.forall₂_drop word.toList.length h
  · rintro ⟨a, b, ha, hb, rfl⟩
    exact List.rel_append ha hb

/-! ## Characters -/

/-- Whether every character that a pattern names satisfies `P`. -/
def Only (P : Char → Prop) : Pattern → Prop
  | nothing | empty => True
  | char f => ∀ c, f c = true → P c
  | append p q | either p q => p.Only P ∧ q.Only P
  | many p => p.Only P

variable {P : Char → Prop}

theorem Only.forall_mem (hp : p.Only P) (h : Matches p s) : ∀ c ∈ s, P c := by
  induction h with
  | empty => simp
  | char hf => simpa using hp _ hf
  | append _ _ iha ihb =>
    exact List.forall_mem_append.mpr ⟨iha hp.1, ihb hp.2⟩
  | left _ ih => exact ih hp.1
  | right _ ih => exact ih hp.2
  | manyNil => simp
  | manyCons _ _ iha ihb => exact List.forall_mem_append.mpr ⟨iha hp, ihb hp⟩

theorem only_sequence {ps : List Pattern} (h : ∀ p ∈ ps, p.Only P) : (sequence ps).Only P := by
  induction ps with
  | nil => trivial
  | cons p ps ih =>
    obtain ⟨hp, hps⟩ := List.forall_mem_cons.mp h
    cases ps with
    | nil => exact hp
    | cons q ps => exact ⟨hp, ih hps⟩

theorem only_anyOf {ps : List Pattern} (h : ∀ p ∈ ps, p.Only P) : (anyOf ps).Only P := by
  induction ps with
  | nil => trivial
  | cons p ps ih =>
    obtain ⟨hp, hps⟩ := List.forall_mem_cons.mp h
    cases ps with
    | nil => exact hp
    | cons q ps => exact ⟨hp, ih hps⟩

theorem only_anyCase {word : String} (h : ∀ l ∈ word.toList, ∀ c, foldsTo l c = true → P c) :
    (anyCase word).Only P := by
  refine only_sequence fun p hp => ?_
  obtain ⟨l, hl, rfl⟩ := List.mem_map.mp hp
  exact h l hl

/-! ## Lines -/

/-- A text of a line is one of the pattern, unless it ends with a line feed. -/
theorem matches_line_iff (h : s.getLast? ≠ some '\n') : Matches (line p) s ↔ Matches p s := by
  rw [line, matches_append_iff]
  simp only [matches_optional_iff, matches_exactly_iff]
  constructor
  · rintro ⟨a, b, ha, rfl | rfl, rfl⟩
    · rwa [List.append_nil]
    · simp at h
  · intro hs
    exact ⟨s, [], hs, .inl rfl, (List.append_nil s).symm⟩

/-- No line feed is left at the end of a text without white space there. -/
theorem accepts_line_trim_iff (v : String) :
    (line p).accepts (trim v).toList = true ↔ Matches p (trim v).toList := by
  have hlast : (trim v).toList.getLast? ≠ some '\n' := fun h =>
    absurd (not_isBlank_of_getLast?_trim h) (by decide)
  rw [accepts_iff, matches_line_iff hlast]

end MathLint.Text.Pattern

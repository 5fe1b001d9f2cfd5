import Mathlib.Data.Nat.Digits.Defs
import MathLint.Text.Integer

/-!
# Reading digits as an integer

Digits of all kinds are taken for a number, but only decimal digits are read as one, and only so
many of them. No more digits than that are written.

* `not_isBlank_of_isDigitLike`: no digit is white space.
* `Integer.read_error_iff`: the texts of digits that are no integer.
* `Integer.write_of_isShort`, `Integer.write_of_not_isShort`: the integers that have a text.
-/

namespace MathLint.Text

/-! ## Digits -/

/-- The ranges of all digits: ASCII, the other blocks of decimal digits, and digits of other
kinds. -/
def digitRanges : Ranges :=
  (0x30, 0x39) :: decimalZeros.map (fun low => (low, low + 9)) ++ otherDigitRanges

theorem exists_digitRange {c : Char} (h : isDigitLike c = true) :
    ∃ r ∈ digitRanges, r.1 ≤ c.toNat ∧ c.toNat ≤ r.2 := by
  rcases Bool.or_eq_true_iff.mp h with h | h
  · unfold isDecimal decimalValue? at h
    split at h
    · split at h
      · rename_i hdigit
        simp only [Char.isDigit, Bool.and_eq_true, decide_eq_true_eq] at hdigit
        exact ⟨_, List.mem_cons_self, hdigit.1, hdigit.2⟩
      · cases h
    · rw [Option.isSome_map, List.find?_isSome] at h
      obtain ⟨low, hlow, hin⟩ := h
      simp only [Bool.and_eq_true, decide_eq_true_eq] at hin
      refine ⟨(low, low + 9), ?_, hin.1, by omega⟩
      exact List.mem_append_left _ (List.mem_cons_of_mem _ (List.mem_map_of_mem hlow))
  · obtain ⟨r, hr, hin⟩ := List.any_eq_true.mp h
    simp only [Bool.and_eq_true, decide_eq_true_eq] at hin
    exact ⟨r, List.mem_append_right _ hr, hin⟩

/-- No digit is white space. -/
theorem not_isBlank_of_isDigitLike {c : Char} (h : isDigitLike c = true) : isBlank c = false := by
  have hranges : ∀ r ∈ digitRanges, ∀ i < r.2 - r.1 + 1,
      isBlank (Char.ofNat (r.1 + i)) = false := by decide
  obtain ⟨r, hr, hlow, hhigh⟩ := exists_digitRange h
  have hblank := hranges r hr (c.toNat - r.1) (by omega)
  rwa [show r.1 + (c.toNat - r.1) = c.toNat by omega, Char.ofNat_toNat] at hblank

theorem not_isBlank_of_isDecimal {c : Char} (h : isDecimal c = true) : isBlank c = false :=
  not_isBlank_of_isDigitLike (Bool.or_eq_true_iff.mpr (.inl h))

namespace Integer

variable {cs : List Char}

/-- Decimal digits are read to their end. -/
theorem digitsFrom_of_decimal (h : ∀ c ∈ cs, isDecimal c = true) (value count : Nat) :
    ∃ total, digitsFrom value count false cs = some (total, count + cs.length, []) := by
  induction cs generalizing value count with
  | nil => exact ⟨value, rfl⟩
  | cons c cs ih =>
    obtain ⟨d, hd⟩ := Option.isSome_iff_exists.mp (h c List.mem_cons_self)
    obtain ⟨total, ht⟩ :=
      ih (fun b hb => h b (List.mem_cons_of_mem _ hb)) (10 * value + d) (count + 1)
    refine ⟨total, ?_⟩
    rw [digitsFrom, hd]
    simp only [ht, List.length_cons]
    congr 3
    omega

/-- Among digits of all kinds, the reading stops at one that is no decimal digit. -/
theorem digitsFrom_of_other (hlike : ∀ c ∈ cs, isDigitLike c = true)
    (hother : ∃ c ∈ cs, isDecimal c = false) (value count : Nat) (bar : Bool) :
    digitsFrom value count bar cs = none ∨
      ∃ total seen c rest, digitsFrom value count bar cs = some (total, seen, c :: rest) ∧
        isDigitLike c = true := by
  induction cs generalizing value count bar with
  | nil => simp at hother
  | cons c cs ih =>
    rw [digitsFrom]
    cases hd : decimalValue? c with
    | some d =>
      have hdecimal : isDecimal c = true := by simp [isDecimal, hd]
      obtain ⟨b, hb, hnot⟩ := hother
      rcases List.mem_cons.mp hb with rfl | hb
      · rw [hdecimal] at hnot; cases hnot
      · exact ih (fun a ha => hlike a (List.mem_cons_of_mem _ ha)) ⟨b, hb, hnot⟩ _ _ _
    | none =>
      have hc := hlike c List.mem_cons_self
      have hbar : (c == '_') = false := by
        have hnot : isDigitLike '_' = false := by decide
        refine beq_false_of_ne fun he => ?_
        rw [he, hnot] at hc
        cases hc
      cases bar with
      | true => exact .inl rfl
      | false =>
        refine .inr ⟨value, count, c, cs, ?_, hc⟩
        simp [hbar]

/-- The digits of a text that begins with one are read from its front. -/
theorem read_of_isDigitLike {text : String} {c : Char} (htext : text.toList = c :: cs)
    (hc : isDigitLike c = true) :
    read text =
      match digitsFrom 0 0 true (c :: cs) with
      | none => .error (.malformed text)
      | some (value, count, rest) =>
        if maxDigits < count then .error (.tooLong count)
        else if rest.all isMargin then .ok value
        else .error (.malformed text) := by
  have hsigns : isDigitLike '-' = false ∧ isDigitLike '+' = false := by decide
  have hdrop : (c :: cs).dropWhile isMargin = c :: cs := by
    simp [isMargin, not_isBlank_of_isDigitLike hc]
  have hsign : sign (c :: cs) = (false, c :: cs) := by
    unfold sign
    split
    · rename_i he
      obtain ⟨rfl, -⟩ := List.cons.inj he
      rw [hsigns.1] at hc; cases hc
    · rename_i he
      obtain ⟨rfl, -⟩ := List.cons.inj he
      rw [hsigns.2] at hc; cases hc
    · rfl
  unfold read
  rw [htext, hdrop, hsign]
  rfl

/-- Digits are no integer if one of them is no decimal digit or there are too many. -/
theorem read_error_iff {text : String} (hne : text ≠ "")
    (hlike : ∀ c ∈ text.toList, isDigitLike c = true) :
    (∃ e, read text = .error e) ↔
      (∃ c ∈ text.toList, isDecimal c = false) ∨ maxDigits < text.length := by
  obtain ⟨c, cs, htext⟩ : ∃ c cs, text.toList = c :: cs := by
    cases h : text.toList with
    | nil => exact absurd (String.toList_eq_nil_iff.mp h) hne
    | cons c cs => exact ⟨c, cs, rfl⟩
  rw [htext] at hlike ⊢
  rw [read_of_isDigitLike htext (hlike c List.mem_cons_self)]
  by_cases hother : ∃ b ∈ c :: cs, isDecimal b = false
  · refine ⟨fun _ => .inl hother, fun _ => ?_⟩
    rcases digitsFrom_of_other hlike hother 0 0 true with h | ⟨total, seen, b, rest, h, hb⟩
    · exact ⟨_, by rw [h]⟩
    · rw [h]
      dsimp only
      split
      · exact ⟨_, rfl⟩
      · rw [if_neg (by simp [isMargin, not_isBlank_of_isDigitLike hb])]
        exact ⟨_, rfl⟩
  · have hdecimal : ∀ b ∈ c :: cs, isDecimal b = true := by
      intro b hb
      cases hd : isDecimal b with
      | true => rfl
      | false => exact absurd ⟨b, hb, hd⟩ hother
    obtain ⟨d, hd⟩ := Option.isSome_iff_exists.mp (hdecimal c List.mem_cons_self)
    have hrest : ∀ b ∈ cs, isDecimal b = true := fun b hb => hdecimal b (List.mem_cons_of_mem _ hb)
    obtain ⟨total, ht⟩ := digitsFrom_of_decimal hrest (10 * 0 + d) (0 + 1)
    have hlength : text.length = 0 + 1 + cs.length := by
      rw [← String.length_toList, htext, List.length_cons]
      omega
    rw [digitsFrom, hd]
    simp only [ht, hother, false_or, hlength]
    split
    · rename_i hlong
      exact ⟨fun _ => hlong, fun _ => ⟨_, rfl⟩⟩
    · rename_i hshort
      simp [hshort]

/-- An integer has no more digits than are written. -/
def IsShort (n : Int) : Prop := n.natAbs < 10 ^ maxDigits

instance (n : Int) : Decidable (IsShort n) :=
  inferInstanceAs (Decidable (n.natAbs < 10 ^ maxDigits))

theorem length_toDigits_le_iff {n : Int} :
    (Nat.toDigits 10 n.natAbs).length ≤ maxDigits ↔ IsShort n :=
  Nat.length_toDigits_le_iff (by decide) (by decide)

theorem write_of_isShort {n : Int} (h : IsShort n) : write n = .ok (toString n) :=
  if_neg (Nat.not_lt.mpr (length_toDigits_le_iff.mpr h))

theorem write_of_not_isShort {n : Int} (h : ¬ IsShort n) : write n = .error .unwritable :=
  if_pos (Nat.not_le.mp (mt length_toDigits_le_iff.mp h))

end Integer

end MathLint.Text

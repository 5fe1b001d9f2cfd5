import MathLint.Text.Lowercase

/-!
# Lower case twice

A text in lower case is left as it is by lowercasing wherever that gives ASCII characters: the
capitals with a small letter in ASCII are those of ASCII and the Kelvin sign, and none of them is
the small letter of another character.

* `lowerChar_lowerChar`: the fact for one character.
* `lower_lower`, `lower_lower_mem_iff`: the fact for a text, and for a list of names.
* `quote_mem_of_lower`: lowercasing brings no quotation marks.
-/

namespace MathLint.Text

variable {c : Char}

/-- The small letters of a run of capitals are characters, beyond ASCII but for that of the Kelvin
sign, and none of them is the Kelvin sign. -/
theorem caseRuns_bounds : ∀ r ∈ caseRuns,
    (0x80 ≤ r.first + r.shift ∨ r.first = 0x212A ∧ r.last = 0x212A ∧ r.shift = -8383) ∧
    (r.last + r.shift < 0x212A ∨ 0x212A < r.first + r.shift) ∧
    (r.last + r.shift < 0xD800 ∨ 0xE000 ≤ r.first + r.shift ∧ r.last + r.shift < 0x110000) := by
  decide +kernel

/-- What a character beyond ASCII has as its small letter: itself, `k`, or another character beyond
ASCII that is not the Kelvin sign. -/
theorem lowerChar_cases (h : 0x80 ≤ c.toNat) :
    lowerChar c = c ∨ c.toNat = 0x212A ∧ lowerChar c = 'k' ∨
      0x80 ≤ (lowerChar c).toNat ∧ (lowerChar c).toNat ≠ 0x212A := by
  unfold lowerChar
  rw [if_neg (by omega)]
  split
  · rename_i r hr
    obtain ⟨hascii, hkelvin, hvalid⟩ := caseRuns_bounds r (List.mem_of_find?_eq_some hr)
    have hin := List.find?_some hr
    simp only [Bool.and_eq_true, decide_eq_true_eq] at hin
    obtain ⟨⟨hfirst, hlast⟩, -⟩ := hin
    have htoNat : (Char.ofNat (c.toNat + r.shift).toNat).toNat = (c.toNat + r.shift).toNat := by
      have hchar : (c.toNat + r.shift).toNat.isValidChar := by
        unfold Nat.isValidChar
        omega
      rw [Char.ofNat, dif_pos hchar]
      rfl
    rcases hascii with hascii | ⟨hf, hl, hs⟩
    · refine .inr (.inr ⟨?_, ?_⟩)
      · rw [htoNat]
        omega
      · rw [htoNat]
        omega
    · have hc : c.toNat = 0x212A := by omega
      refine .inr (.inl ⟨hc, ?_⟩)
      rw [hc, hs]
      rfl
  · exact .inl rfl

/-- A small letter is its own if its own is in ASCII. -/
theorem lowerChar_lowerChar (h : (lowerChar (lowerChar c)).toNat < 0x80) :
    lowerChar (lowerChar c) = lowerChar c := by
  by_cases hc : c.toNat < 0x80
  · have hascii : ∀ n < 0x80, lowerChar (lowerChar (Char.ofNat n)) = lowerChar (Char.ofNat n) := by
      decide
    have hn := hascii c.toNat hc
    rwa [Char.ofNat_toNat] at hn
  · have hc' : 0x80 ≤ c.toNat := by omega
    rcases lowerChar_cases hc' with heq | ⟨-, hk⟩ | ⟨hbeyond, hkelvin⟩
    · rw [heq, heq]
    · rw [hk]
      decide
    · rcases lowerChar_cases hbeyond with heq | ⟨hk, -⟩ | ⟨hbeyond', -⟩
      · exact heq
      · exact absurd hk hkelvin
      · omega

/-- Every character of a text in lower case is the small letter of a character. -/
theorem exists_of_mem_lowerFrom {before cs : List Char} (h : c ∈ lowerFrom before cs) :
    ∃ d, c = lowerChar d := by
  induction cs generalizing before with
  | nil => simp [lowerFrom] at h
  | cons d cs ih =>
    simp only [lowerFrom, List.mem_append] at h
    rcases h with h | h
    · split at h
      · simp only [List.mem_cons, List.not_mem_nil, or_false] at h
        rcases h with rfl | rfl
        · exact ⟨'i', by decide⟩
        · exact ⟨Char.ofNat 0x307, by decide⟩
      · split at h
        · rw [List.mem_singleton.mp h]
          split
          · exact ⟨Char.ofNat 0x3C2, by decide⟩
          · exact ⟨Char.ofNat 0x3C3, by decide⟩
        · exact ⟨d, List.mem_singleton.mp h⟩
    · exact ih h

/-- Small letters are left as they are where the result is in ASCII. -/
theorem lowerFrom_of_small {before cs : List Char} (hsmall : ∀ c ∈ cs, ∃ d, c = lowerChar d)
    (hascii : ∀ c ∈ lowerFrom before cs, c.toNat < 0x80) : lowerFrom before cs = cs := by
  induction cs generalizing before with
  | nil => rfl
  | cons c cs ih =>
    simp only [lowerFrom, List.mem_append] at hascii ⊢
    have hrest := ih (fun d hd => hsmall d (List.mem_cons_of_mem _ hd))
      (fun d hd => hascii d (.inr hd))
    rw [hrest]
    obtain ⟨d, rfl⟩ := hsmall c List.mem_cons_self
    -- a dotted capital I and a capital sigma give characters beyond ASCII
    split at hascii
    · exact absurd (hascii (Char.ofNat 0x307) (.inl (by simp))) (by decide)
    · split at hascii
      · have hsigma := hascii _ (.inl (List.mem_singleton.mpr rfl))
        split at hsigma <;> exact absurd hsigma (by decide)
      · have hsame := lowerChar_lowerChar (hascii _ (.inl (List.mem_singleton.mpr rfl)))
        simp_all

/-- A text in lower case is left as it is where the result is in ASCII. -/
theorem lower_lower {s : String} (h : ∀ c ∈ (lower (lower s)).toList, c.toNat < 0x80) :
    lower (lower s) = lower s := by
  unfold lower at h ⊢
  rw [String.toList_ofList] at h ⊢
  rw [String.toList_ofList] at h
  rw [lowerFrom_of_small (fun c hc => exists_of_mem_lowerFrom hc) h]

/-- A text in lower case is one of some names in ASCII before or after lowercasing. -/
theorem lower_lower_mem_iff {names : List String}
    (hnames : ∀ t ∈ names, t.toList.all (·.toNat < 0x80) = true ∧ lower t = t) (s : String) :
    lower (lower s) ∈ names ↔ lower s ∈ names := by
  constructor
  · intro h
    have hascii : ∀ c ∈ (lower (lower s)).toList, c.toNat < 0x80 := by
      simpa only [List.all_eq_true, decide_eq_true_eq] using (hnames _ h).1
    rwa [lower_lower hascii] at h
  · intro h
    rwa [(hnames _ h).2]

/-! ## Quotation marks -/

/-- A quotation mark is the small letter of itself only. -/
theorem eq_quote_of_lowerChar (h : lowerChar c = '"') : c = '"' := by
  by_cases hc : c.toNat < 0x80
  · have hascii : ∀ n < 0x80, lowerChar (Char.ofNat n) = '"' → Char.ofNat n = '"' := by decide
    have hn := hascii c.toNat hc
    rw [Char.ofNat_toNat] at hn
    exact hn h
  · have hc' : 0x80 ≤ c.toNat := by omega
    rcases lowerChar_cases hc' with heq | ⟨-, hk⟩ | ⟨hbeyond, -⟩
    · rw [← heq, h]
    · rw [hk] at h
      exact absurd h (by decide)
    · rw [h] at hbeyond
      exact absurd hbeyond (by decide)

theorem quote_mem_of_lowerFrom {before cs : List Char} (h : '"' ∈ lowerFrom before cs) :
    '"' ∈ cs := by
  induction cs generalizing before with
  | nil => simp [lowerFrom] at h
  | cons d cs ih =>
    simp only [lowerFrom, List.mem_append] at h
    rcases h with h | h
    · split at h
      · exact absurd h (by decide)
      · split at h
        · split at h <;> exact absurd h (by decide)
        · rw [← eq_quote_of_lowerChar (List.mem_singleton.mp h).symm]
          exact List.mem_cons_self
    · exact List.mem_cons_of_mem _ (ih h)

theorem quote_mem_of_lower {s : String} (h : '"' ∈ (lower s).toList) : '"' ∈ s.toList := by
  unfold lower at h
  rw [String.toList_ofList] at h
  exact quote_mem_of_lowerFrom h

end MathLint.Text

import MathLint.Proofs.Text.Blank
import MathLint.Proofs.Text.Integer
import MathLint.Proofs.Text.Pattern
import MathLint.Schema.Grammar

/-!
# Lengths

A length is a number with an optional unit, or a named space (`IsLength`). That is what the grammar
of lengths accepts. The grammar of lengths that may refer to the size of the content reads a value
without its spaces, and so it accepts every length whose white space consists of spaces.

* `Length.IsNumber`, `Length.IsUnit`, `Length.IsNamedSpace`, `IsLength`: the forms of a length.
* `Length.matches_numberPattern_iff`, `Length.matches_namedSpacePattern_iff`: its parts as patterns.
* `Grammar.isLength_trim_iff`: the values that the grammar of lengths accepts.
* `Grammar.isPaddedLength_trim_iff`: of these, the ones that the other grammar accepts.
-/

namespace MathLint

open Text Pattern

/-! ## Forms -/

namespace Length

/-- A sign, or none. -/
def IsSign (s : List Char) : Prop := s = [] ∨ s = ['+'] ∨ s = ['-']

/-- Decimal digits of any script, or none. -/
def IsDigits (s : List Char) : Prop := ∀ c ∈ s, isDecimal c = true

/-- A number without its sign: digits, which a point and more digits may follow, or a point and
digits. -/
inductive IsNumber : List Char → Prop where
  | whole {ds : List Char} : ds ≠ [] → IsDigits ds → IsNumber ds
  | pointed {ds es : List Char} : ds ≠ [] → IsDigits ds → IsDigits es → IsNumber (ds ++ '.' :: es)
  | fraction {es : List Char} : es ≠ [] → IsDigits es → IsNumber ('.' :: es)

/-- A unit: a name in any case, or a percent sign. -/
def IsUnit (s : List Char) : Prop :=
  s = ['%'] ∨
    ∃ name ∈ ["px", "in", "cm", "mm", "pt", "pc", "em", "ex", "rem", "ch", "vw", "vh", "mu"],
      Spells name s

/-- A named space: a size, before which it may say that it is negative and, once or twice, `very`.
The letters may be in any case. -/
def IsNamedSpace (s : List Char) : Prop :=
  ∃ negative ∈ ["", "negative"], ∃ very ∈ ["", "very", "veryvery"],
    ∃ size ∈ ["thin", "thick", "medium"], Spells (negative ++ very ++ size ++ "mathspace") s

end Length

open Length

/-- A length: a number with an optional sign and an optional unit, white space between number and
unit, or a named space. -/
inductive IsLength : List Char → Prop where
  | measure {sign number blanks unit : List Char} :
    IsSign sign → IsNumber number → (∀ c ∈ blanks, isBlank c = true) → (unit = [] ∨ IsUnit unit) →
      IsLength (sign ++ number ++ blanks ++ unit)
  | namedSpace {s : List Char} : IsNamedSpace s → IsLength s

/-! ## Forms as patterns -/

namespace Length

variable {s : List Char}

theorem matches_signPattern_iff : Matches Grammar.signPattern s ↔ IsSign s := by
  rw [Grammar.signPattern, matches_optional_iff, matches_char_iff]
  simp [IsSign, or_and_right, exists_or]

theorem matches_digitsPattern_iff :
    Matches Grammar.digitsPattern s ↔ s ≠ [] ∧ IsDigits s := matches_oneOrMore_char_iff

/-- Digits that a point and more digits may follow. -/
theorem matches_digits_fraction_iff :
    Matches (append Grammar.digitsPattern
        (optional (append (exactly '.') (many (char isDecimal))))) s ↔
      (s ≠ [] ∧ IsDigits s) ∨
        ∃ ds es, ds ≠ [] ∧ IsDigits ds ∧ IsDigits es ∧ s = ds ++ '.' :: es := by
  simp only [matches_append_iff, matches_optional_iff, matches_digitsPattern_iff,
    matches_exactly_iff, matches_many_char_iff]
  constructor
  · rintro ⟨ds, _, ⟨hne, hds⟩, rfl | ⟨_, es, rfl, hes, rfl⟩, rfl⟩
    · exact .inl ⟨by simpa using hne, by simpa using hds⟩
    · exact .inr ⟨ds, es, hne, hds, hes, rfl⟩
  · rintro (⟨hne, hds⟩ | ⟨ds, es, hne, hds, hes, rfl⟩)
    · exact ⟨s, [], ⟨hne, hds⟩, .inl rfl, (List.append_nil s).symm⟩
    · exact ⟨ds, '.' :: es, ⟨hne, hds⟩, .inr ⟨['.'], es, rfl, hes, rfl⟩, rfl⟩

theorem matches_numberPattern_iff :
    Matches Grammar.numberPattern s ↔
      ∃ sign number, IsSign sign ∧ IsNumber number ∧ s = sign ++ number := by
  have hunsigned (t : List Char) : IsNumber t ↔
      ((t ≠ [] ∧ IsDigits t) ∨
          ∃ ds es, ds ≠ [] ∧ IsDigits ds ∧ IsDigits es ∧ t = ds ++ '.' :: es) ∨
        ∃ a b, a = ['.'] ∧ (b ≠ [] ∧ IsDigits b) ∧ t = a ++ b := by
    constructor
    · rintro (⟨hne, hds⟩ | ⟨hne, hds, hes⟩ | ⟨hne, hes⟩)
      · exact .inl (.inl ⟨hne, hds⟩)
      · exact .inl (.inr ⟨_, _, hne, hds, hes, rfl⟩)
      · exact .inr ⟨_, _, rfl, ⟨hne, hes⟩, rfl⟩
    · rintro ((⟨hne, hds⟩ | ⟨ds, es, hne, hds, hes, rfl⟩) | ⟨_, es, rfl, ⟨hne, hes⟩, rfl⟩)
      · exact .whole hne hds
      · exact .pointed hne hds hes
      · exact .fraction hne hes
  simp only [Grammar.numberPattern, Pattern.sequence, matches_append_iff, matches_either_iff,
    matches_signPattern_iff]
  simp only [← matches_append_iff, matches_digits_fraction_iff]
  simp only [matches_append_iff, matches_exactly_iff, matches_digitsPattern_iff, hunsigned]

theorem matches_optional_anyCase_iff {word : String} :
    Matches (optional (anyCase word)) s ↔ ∃ w ∈ ["", word], Spells w s := by
  simp [matches_optional_iff, matches_anyCase_iff, spells_empty_iff]

/-- A word that may stand there up to twice. -/
theorem exists_spells_twice_iff {word : String} :
    (∃ a b, (∃ w ∈ ["", word], Spells w a) ∧ (∃ w ∈ ["", word], Spells w b) ∧ s = a ++ b) ↔
      ∃ w ∈ ["", word, word ++ word], Spells w s := by
  constructor
  · rintro ⟨a, b, ⟨v, hv, ha⟩, ⟨w, hw, hb⟩, rfl⟩
    refine ⟨v ++ w, ?_, spells_append_iff.mpr ⟨a, b, ha, hb, rfl⟩⟩
    simp only [List.mem_cons, List.not_mem_nil, or_false] at hv hw
    rcases hv with rfl | rfl <;> rcases hw with rfl | rfl <;> simp
  · rintro ⟨w, hw, hs⟩
    simp only [List.mem_cons, List.not_mem_nil, or_false] at hw
    rcases hw with rfl | rfl | rfl
    · exact ⟨s, [], ⟨"", by simp, hs⟩, ⟨"", by simp, spells_empty_iff.mpr rfl⟩, by simp⟩
    · exact ⟨s, [], ⟨w, by simp, hs⟩, ⟨"", by simp, spells_empty_iff.mpr rfl⟩, by simp⟩
    · obtain ⟨a, b, ha, hb, rfl⟩ := spells_append_iff.mp hs
      exact ⟨a, b, ⟨word, by simp, ha⟩, ⟨word, by simp, hb⟩, rfl⟩

theorem matches_namedSpacePattern_iff :
    Matches Grammar.namedSpacePattern s ↔ IsNamedSpace s := by
  have hsize (t : List Char) :
      Matches (anyOf [anyCase "thin", anyCase "thick", anyCase "medium"]) t ↔
        ∃ size ∈ ["thin", "thick", "medium"], Spells size t :=
    @matches_anyOf_anyCase_iff t ["thin", "thick", "medium"]
  simp only [Grammar.namedSpacePattern, matches_sequence_cons_iff, matches_sequence_nil_iff,
    matches_optional_anyCase_iff, hsize, matches_anyCase_iff]
  unfold IsNamedSpace
  constructor
  · rintro ⟨s₁, _, ⟨negative, hnegative, h₁⟩, ⟨s₂, _, h₂, ⟨s₃, _, h₃, ⟨s₄, _, ⟨size, hsize, h₄⟩,
      ⟨s₅, _, h₅, rfl, rfl⟩, rfl⟩, rfl⟩, rfl⟩, rfl⟩
    obtain ⟨very, hvery, h₂₃⟩ := exists_spells_twice_iff.mp ⟨s₂, s₃, h₂, h₃, rfl⟩
    refine ⟨negative, hnegative, very, hvery, size, hsize, ?_⟩
    simp only [spells_append_iff]
    exact ⟨_, s₅, ⟨_, s₄, ⟨s₁, _, h₁, h₂₃, rfl⟩, h₄, rfl⟩, h₅, by simp⟩
  · rintro ⟨negative, hnegative, very, hvery, size, hsize, h⟩
    simp only [spells_append_iff] at h
    obtain ⟨_, s₅, ⟨_, s₄, ⟨s₁, s₂₃, h₁, h₂₃, rfl⟩, h₄, rfl⟩, h₅, rfl⟩ := h
    obtain ⟨s₂, s₃, h₂, h₃, rfl⟩ := exists_spells_twice_iff.mpr ⟨very, hvery, h₂₃⟩
    exact ⟨s₁, _, ⟨negative, hnegative, h₁⟩, ⟨s₂, _, h₂, ⟨s₃, _, h₃, ⟨s₄, _, ⟨size, hsize, h₄⟩,
      ⟨s₅, _, h₅, rfl, rfl⟩, rfl⟩, rfl⟩, rfl⟩, by simp⟩

theorem matches_units_iff :
    Matches (anyOf (Grammar.units.map anyCase ++ [exactly '%'])) s ↔ IsUnit s := by
  simp only [matches_anyOf_iff, List.mem_append, or_and_right, exists_or, List.mem_map,
    List.mem_singleton, exists_eq_left, matches_exactly_iff]
  simp only [exists_exists_and_eq_and, matches_anyCase_iff]
  exact or_comm

theorem matches_lengthPattern_iff : Matches Grammar.lengthPattern s ↔ IsLength s := by
  rw [Grammar.lengthPattern, matches_either_iff, matches_namedSpacePattern_iff]
  simp only [matches_sequence_cons_iff, matches_sequence_nil_iff, matches_numberPattern_iff,
    matches_many_char_iff, matches_optional_iff, matches_units_iff]
  constructor
  · rintro (⟨_, _, ⟨sign, number, hsign, hnumber, rfl⟩, ⟨blanks, _, hblanks, ⟨unit, _, hunit, rfl,
      rfl⟩, rfl⟩, rfl⟩ | h)
    · rw [List.append_nil, ← List.append_assoc]
      exact .measure hsign hnumber hblanks hunit
    · exact .namedSpace h
  · rintro (⟨hsign, hnumber, hblanks, hunit⟩ | h)
    · exact .inl ⟨_, _, ⟨_, _, hsign, hnumber, rfl⟩, ⟨_, _, hblanks, ⟨_, _, hunit, rfl, rfl⟩, rfl⟩,
        by simp⟩
    · exact .inr h

/-! ## White space in lengths -/

theorem toLower_of_isBlank {c : Char} (h : isBlank c = true) : c.toLower = c := by
  unfold Char.toLower
  refine dif_neg fun hupper => ?_
  have hrange : 0x41 ≤ c.toNat ∧ c.toNat ≤ 0x5A := hupper
  simp only [isBlank, Bool.or_eq_true, Bool.and_eq_true, decide_eq_true_eq, beq_iff_eq] at h
  omega

/-- A letter in another case is no white space, either. -/
theorem not_isBlank_of_foldsTo {letter c : Char} (hletter : isBlank letter = false)
    (h : foldsTo letter c = true) : isBlank c = false := by
  have hspecial : ∀ n ∈ [0x212A, 0x17F, 0x130, 0x131], isBlank (Char.ofNat n) = false := by decide
  have hcode {n : Nat} (hc : c.toNat = n) : c = Char.ofNat n := by rw [← hc, Char.ofNat_toNat]
  simp only [foldsTo, Bool.or_eq_true, Bool.and_eq_true, beq_iff_eq] at h
  rcases h with ((h | ⟨-, h⟩) | ⟨-, h⟩) | ⟨-, h | h⟩
  · by_contra hblank
    rw [Bool.not_eq_false] at hblank
    rw [← toLower_of_isBlank hblank, h, hletter] at hblank
    cases hblank
  all_goals
    rw [hcode h]
    exact hspecial _ (by decide)

theorem only_anyCase_of_all {word : String} (h : word.toList.all (!isBlank ·) = true) :
    (anyCase word).Only (isBlank · = false) := by
  refine only_anyCase fun l hl c hc => not_isBlank_of_foldsTo ?_ hc
  simpa using List.all_eq_true.mp h l hl

theorem only_char_or {a b : Char} (ha : isBlank a = false) (hb : isBlank b = false) :
    (char fun c => c == a || c == b).Only (isBlank · = false) := fun c hc => by
  simp only [Bool.or_eq_true, beq_iff_eq] at hc
  rcases hc with rfl | rfl
  · exact ha
  · exact hb

theorem only_signPattern : Grammar.signPattern.Only (isBlank · = false) :=
  ⟨trivial, only_char_or (by decide) (by decide)⟩

theorem only_exactly {c : Char} (h : isBlank c = false) :
    (exactly c).Only (isBlank · = false) := fun d hd => by
  rwa [beq_iff_eq.mp hd]

theorem only_digitsPattern : Grammar.digitsPattern.Only (isBlank · = false) :=
  ⟨fun _ => not_isBlank_of_isDecimal, fun _ => not_isBlank_of_isDecimal⟩

theorem only_numberPattern : Grammar.numberPattern.Only (isBlank · = false) := by
  have hpoint : (exactly '.').Only (isBlank · = false) := only_exactly (by decide)
  exact ⟨only_signPattern,
    ⟨only_digitsPattern, ⟨trivial, hpoint, fun _ => not_isBlank_of_isDecimal⟩⟩,
    hpoint, only_digitsPattern⟩

theorem only_words {words : List String}
    (h : words.all (fun word => word.toList.all (!isBlank ·)) = true) :
    ∀ p ∈ words.map anyCase, p.Only (isBlank · = false) := by
  intro p hp
  obtain ⟨word, hword, rfl⟩ := List.mem_map.mp hp
  exact only_anyCase_of_all (List.all_eq_true.mp h word hword)

theorem only_namedSpacePattern : Grammar.namedSpacePattern.Only (isBlank · = false) :=
  ⟨⟨trivial, only_anyCase_of_all (by decide)⟩, ⟨trivial, only_anyCase_of_all (by decide)⟩,
    ⟨trivial, only_anyCase_of_all (by decide)⟩,
    only_anyOf (@only_words ["thin", "thick", "medium"] (by decide)),
    only_anyCase_of_all (by decide)⟩

theorem only_paddedPattern : Grammar.paddedPattern.Only (isBlank · = false) := by
  refine ⟨⟨only_numberPattern, ⟨trivial, only_exactly (by decide)⟩, trivial, ?_⟩,
    only_signPattern, only_namedSpacePattern⟩
  refine only_anyOf (List.forall_mem_append.mpr ⟨List.forall_mem_append.mpr ⟨?_, ?_⟩, ?_⟩)
  · exact only_words (by decide)
  · exact only_words (by decide)
  · exact List.forall_mem_singleton.mpr only_namedSpacePattern

theorem filter_eq_self_of_matches {p : Pattern} (hp : p.Only (isBlank · = false))
    (h : Matches p s) : s.filter (· != ' ') = s := by
  refine List.filter_eq_self.mpr fun c hc => ?_
  rw [bne_iff_ne]
  rintro rfl
  exact absurd (hp.forall_mem h ' ' hc) (by decide)

/-- Of the lengths, the other grammar accepts those without their spaces that have no other white
space. -/
theorem matches_paddedPattern_iff (h : IsLength s) :
    Matches Grammar.paddedPattern (s.filter (· != ' ')) ↔
      ∀ c ∈ s, isBlank c = true → c = ' ' := by
  constructor
  · intro hmatch c hc hblank
    by_contra hne
    have hkept : c ∈ s.filter (· != ' ') := List.mem_filter.mpr ⟨hc, by simpa using hne⟩
    rw [only_paddedPattern.forall_mem hmatch c hkept] at hblank
    cases hblank
  · intro hspaces
    rw [Grammar.paddedPattern, matches_either_iff]
    cases h with
    | namedSpace hnamed =>
      have hmatch := matches_namedSpacePattern_iff.mpr hnamed
      rw [filter_eq_self_of_matches only_namedSpacePattern hmatch]
      exact .inr (.append (matches_signPattern_iff.mpr (.inl rfl)) hmatch)
    | @measure sign number blanks unit hsign hnumber hblanks hunit =>
      have hmatch := matches_numberPattern_iff.mpr ⟨sign, number, hsign, hnumber, rfl⟩
      have hblanks' : blanks.filter (· != ' ') = [] :=
        List.filter_eq_nil_iff.mpr fun c hc => by simp [hspaces c (by simp [hc]) (hblanks c hc)]
      rw [List.filter_append, List.filter_append, hblanks', List.append_nil,
        filter_eq_self_of_matches only_numberPattern hmatch]
      refine .inl (.append hmatch ?_)
      simp only [Pattern.sequence, matches_append_iff, matches_optional_iff, matches_exactly_iff]
      -- a percent sign stands in a place of its own, before the units
      rcases hunit with rfl | rfl | ⟨name, hname, hspells⟩
      · exact ⟨[], [], .inl rfl, .inl rfl, rfl⟩
      · exact ⟨['%'], [], .inr rfl, .inl rfl, rfl⟩
      · have hword := matches_anyCase_iff.mpr hspells
        have hmem : anyCase name ∈ Grammar.units.map anyCase := List.mem_map_of_mem hname
        rw [filter_eq_self_of_matches (only_words (by decide) _ hmem) hword]
        refine ⟨[], unit, .inl rfl, .inr (matches_anyOf_iff.mpr ⟨_, ?_, hword⟩), rfl⟩
        exact List.mem_append_left _ (List.mem_append_left _ hmem)

end Length

/-! ## Values -/

namespace Grammar

/-- A value without white space at its ends is accepted if it is a length. -/
theorem isLength_trim_iff (v : String) : isLength (trim v) = true ↔ IsLength (trim v).toList := by
  rw [isLength, accepts_line_trim_iff, Length.matches_lengthPattern_iff]

/-- A length is accepted where it may refer to the size of the content if it has no white space but
spaces. -/
theorem isPaddedLength_trim_iff {v : String} (h : IsLength (trim v).toList) :
    isPaddedLength (trim v) = true ↔ ∀ c ∈ (trim v).toList, isBlank c = true → c = ' ' := by
  have hlast : ((trim v).toList.filter (· != ' ')).getLast? ≠ some '\n' := by
    cases hlast : (trim v).toList.getLast? with
    | none => simp [List.getLast?_eq_none_iff.mp hlast]
    | some c =>
      -- the last character is no space and stays the last
      have hblank := not_isBlank_of_getLast?_trim hlast
      have hspace : c ≠ ' ' := by rintro rfl; exact absurd hblank (by decide)
      have hfeed : c ≠ '\n' := by rintro rfl; exact absurd hblank (by decide)
      obtain ⟨init, hinit⟩ := List.getLast?_eq_some_iff.mp hlast
      simp [hinit, hspace, hfeed]
  rw [isPaddedLength, accepts_iff, matches_line_iff hlast, Length.matches_paddedPattern_iff h]

end Grammar

end MathLint

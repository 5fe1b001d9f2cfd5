import MathLint.Check.Ambiguity
import MathLint.Proofs.Schema.Length
import MathLint.Proofs.Text.Words

/-!
# Numerals

Two checks read the text of numbers: the hints at tokens of several characters leave out numerals
(`IsNumeral`), and the check for split numbers looks for the two ends of one (`IsHeadGroup`,
`IsTailGroup`). Both read digits of every script. They agree: a number that is written as a single
token, as the check for split numbers advises, is a numeral, and no hint is given at it.

* `matches_numberPattern_iff`, `isNumber_trim_iff`, `isHeadGroup_trim_iff`, `isTailGroup_trim_iff`:
  the texts that the patterns accept.
* `isNumeral_join`: the two ends of a split number with the comma between them.
* `exists_longToken_iff`: the numbers at which a hint is given.
* `SplitAt`, `splitNumber?_first`: where a split number is found.
* `numbers_agree`: both checks, and what becomes of a number that is joined.
-/

namespace MathLint

open Text Pattern Length Xml

namespace Shape

/-! ## Forms -/

/-- A group of a number after the first one: a point or a comma, and digits. -/
def IsGroup (s : List Char) : Prop :=
  ∃ mark ds, (mark = '.' ∨ mark = ',') ∧ ds ≠ [] ∧ IsDigits ds ∧ s = mark :: ds

/-- A numeral without sign and exponent: digits in groups, which a point and more digits may follow,
or a point and digits. -/
inductive IsMantissa : List Char → Prop where
  | grouped {ds : List Char} {groups : List (List Char)} {fraction : List Char} :
    ds ≠ [] → IsDigits ds → (∀ g ∈ groups, IsGroup g) →
      (fraction = [] ∨ ∃ es, IsDigits es ∧ fraction = '.' :: es) →
      IsMantissa (ds ++ groups.flatten ++ fraction)
  | fraction {es : List Char} : es ≠ [] → IsDigits es → IsMantissa ('.' :: es)

/-- An exponent, or none. -/
inductive IsExponent : List Char → Prop where
  | none : IsExponent []
  | power {mark : Char} {sign ds : List Char} :
    (mark = 'e' ∨ mark = 'E') → IsSign sign → ds ≠ [] → IsDigits ds →
      IsExponent (mark :: (sign ++ ds))

/-- A number in digits of any script, with an optional sign and an optional exponent. -/
def IsNumeral (s : List Char) : Prop :=
  ∃ sign mantissa exponent, IsSign sign ∧ IsMantissa mantissa ∧ IsExponent exponent ∧
    s = sign ++ mantissa ++ exponent

/-- The first group of a grouped number: one to three digits. -/
def IsHeadGroup (s : List Char) : Prop := 1 ≤ s.length ∧ s.length ≤ 3 ∧ IsDigits s

/-- The last group of a grouped number: three digits, which a point and more digits may follow. -/
def IsTailGroup (s : List Char) : Prop :=
  ∃ ds fraction, ds.length = 3 ∧ IsDigits ds ∧
    (fraction = [] ∨ ∃ es, es ≠ [] ∧ IsDigits es ∧ fraction = '.' :: es) ∧ s = ds ++ fraction

/-! ## Forms as patterns -/

variable {s : List Char}

theorem matches_digits_iff : Matches digits s ↔ s ≠ [] ∧ IsDigits s := matches_oneOrMore_char_iff

theorem matches_point_append_iff {p : Pattern} :
    Matches (append (exactly '.') p) s ↔ ∃ es, Matches p es ∧ s = '.' :: es := by
  simp [exactly, matches_append_char_iff]

theorem matches_group_iff :
    Matches (append (char fun c => c == '.' || c == ',') digits) s ↔ IsGroup s := by
  simp only [matches_append_char_iff, matches_digits_iff, Bool.or_eq_true, beq_iff_eq, and_assoc]
  rfl

theorem IsGroup.ne_nil (h : IsGroup s) : s ≠ [] := by
  obtain ⟨mark, ds, -, -, -, rfl⟩ := h
  exact List.cons_ne_nil _ _

theorem matches_groups_iff :
    Matches (many (append (char fun c => c == '.' || c == ',') digits)) s ↔
      ∃ groups : List (List Char), (∀ g ∈ groups, IsGroup g) ∧ s = groups.flatten := by
  have hgroup (t : List Char) : t ≠ [] ∧ IsGroup t ↔ IsGroup t :=
    and_iff_right_of_imp IsGroup.ne_nil
  simp only [matches_many_iff, matches_group_iff, hgroup]

theorem matches_mantissa_iff :
    Matches (either
      (sequence [
        digits,
        many (append (char fun c => c == '.' || c == ',') digits),
        optional (append (exactly '.') (many (char isDecimal)))])
      (append (exactly '.') digits)) s ↔ IsMantissa s := by
  have hdigits {t : List Char} : Matches (many (char isDecimal)) t ↔ IsDigits t :=
    matches_many_char_iff
  simp only [matches_either_iff, matches_sequence_cons_iff, matches_sequence_nil_iff,
    matches_optional_iff, matches_point_append_iff, matches_digits_iff, matches_groups_iff, hdigits]
  constructor
  · rintro (⟨ds, _, ⟨hne, hds⟩, ⟨_, _, ⟨groups, hgroups, rfl⟩, ⟨fraction, _, hfraction, rfl, rfl⟩,
      rfl⟩, rfl⟩ | ⟨es, ⟨hne, hes⟩, rfl⟩)
    · rw [List.append_nil, ← List.append_assoc]
      exact .grouped hne hds hgroups hfraction
    · exact .fraction hne hes
  · rintro (⟨hne, hds, hgroups, hfraction⟩ | ⟨hne, hes⟩)
    · exact .inl ⟨_, _, ⟨hne, hds⟩, ⟨_, _, ⟨_, hgroups, rfl⟩, ⟨_, _, hfraction, rfl, rfl⟩, rfl⟩,
        by simp⟩
    · exact .inr ⟨_, ⟨hne, hes⟩, rfl⟩

theorem matches_sign_iff :
    Matches (optional (char fun c => c == '+' || c == '-')) s ↔ IsSign s :=
  matches_signPattern_iff

theorem matches_exponent_iff :
    Matches (optional (sequence [
      char fun c => c == 'e' || c == 'E',
      optional (char fun c => c == '+' || c == '-'),
      digits])) s ↔ IsExponent s := by
  rw [matches_optional_iff]
  simp only [Pattern.sequence, matches_append_char_iff, Bool.or_eq_true, beq_iff_eq]
  simp only [matches_append_iff, matches_sign_iff, matches_digits_iff]
  constructor
  · rintro (rfl | ⟨mark, _, hmark, ⟨sign, ds, hsign, ⟨hne, hds⟩, rfl⟩, rfl⟩)
    · exact .none
    · exact .power hmark hsign hne hds
  · rintro (_ | ⟨hmark, hsign, hne, hds⟩)
    · exact .inl rfl
    · exact .inr ⟨_, _, hmark, ⟨_, _, hsign, ⟨hne, hds⟩, rfl⟩, rfl⟩

/-- The texts that the pattern of numbers describes are the numerals. -/
theorem matches_numberPattern_iff : Matches numberPattern s ↔ IsNumeral s := by
  simp only [numberPattern, matches_sequence_cons_iff, matches_sequence_nil_iff, matches_sign_iff,
    matches_mantissa_iff, matches_exponent_iff]
  constructor
  · rintro ⟨sign, _, hsign, ⟨mantissa, _, hmantissa, ⟨exponent, _, hexponent, rfl, rfl⟩, rfl⟩, rfl⟩
    exact ⟨sign, mantissa, exponent, hsign, hmantissa, hexponent, by simp⟩
  · rintro ⟨sign, mantissa, exponent, hsign, hmantissa, hexponent, rfl⟩
    exact ⟨_, _, hsign, ⟨_, _, hmantissa, ⟨_, _, hexponent, rfl, rfl⟩, rfl⟩, by simp⟩

theorem matches_headPattern_iff : Matches headPattern s ↔ IsHeadGroup s :=
  matches_between_char_iff

theorem matches_tailPattern_iff : Matches tailPattern s ↔ IsTailGroup s := by
  have hthree {t : List Char} :
      Matches (between (char isDecimal) 3 0) t ↔ t.length = 3 ∧ IsDigits t := by
    rw [matches_between_char_iff, ← and_assoc, Nat.add_zero, and_comm (a := 3 ≤ _),
      ← Nat.le_antisymm_iff]
    rfl
  simp only [tailPattern, matches_append_iff (p := between _ _ _), matches_optional_iff,
    matches_point_append_iff, matches_digits_iff, hthree, and_assoc]
  rfl

/-! ## Texts without white space at their ends -/

theorem isNumber_trim_iff (v : String) : isNumber (trim v) = true ↔ IsNumeral (trim v).toList := by
  rw [isNumber, accepts_line_trim_iff, matches_numberPattern_iff]

theorem isHeadGroup_trim_iff (v : String) :
    isHeadGroup (trim v) = true ↔ IsHeadGroup (trim v).toList := by
  rw [isHeadGroup, accepts_line_trim_iff, matches_headPattern_iff]

theorem isTailGroup_trim_iff (v : String) :
    isTailGroup (trim v) = true ↔ IsTailGroup (trim v).toList := by
  rw [isTailGroup, accepts_line_trim_iff, matches_tailPattern_iff]

theorem only_numberPattern : numberPattern.Only (isBlank · = false) := by
  have hpoint : (exactly '.').Only (isBlank · = false) := only_exactly (by decide)
  have hdigits : digits.Only (isBlank · = false) := only_digitsPattern
  exact ⟨only_signPattern,
    ⟨⟨hdigits, ⟨only_char_or (by decide) (by decide), hdigits⟩,
        trivial, hpoint, fun _ => not_isBlank_of_isDecimal⟩,
      hpoint, hdigits⟩,
    trivial, only_char_or (by decide) (by decide), only_signPattern, hdigits⟩

/-- A numeral has no white space. -/
theorem trim_of_isNumeral {v : String} (h : IsNumeral v.toList) : trim v = v := by
  have hblank := only_numberPattern.forall_mem (matches_numberPattern_iff.mpr h)
  exact trim_eq_self (fun c hc => hblank c (List.mem_of_head? hc))
    fun c hc => hblank c (List.mem_of_getLast? hc)

/-! ## Grouped numbers -/

/-- The two ends of a grouped number with a comma between them are a numeral. -/
theorem isNumeral_join {head tail : List Char} (hhead : IsHeadGroup head)
    (htail : IsTailGroup tail) : IsNumeral (head ++ ',' :: tail) := by
  obtain ⟨hleast, -, hdigits⟩ := hhead
  obtain ⟨ds, fraction, hthree, hds, hfraction, rfl⟩ := htail
  have hgroup : ∀ g ∈ [',' :: ds], IsGroup g := by
    refine List.forall_mem_singleton.mpr ⟨',', ds, .inr rfl, ?_, hds, rfl⟩
    exact List.ne_nil_of_length_pos (by omega)
  have hmantissa : IsMantissa (head ++ [',' :: ds].flatten ++ fraction) :=
    .grouped (List.ne_nil_of_length_pos hleast) hdigits hgroup
      (hfraction.imp_right fun ⟨es, _, hes, heq⟩ => ⟨es, hes, heq⟩)
  exact ⟨[], _, [], .inl rfl, hmantissa, .none, by simp⟩

end Shape

namespace Ambiguity

open Shape

variable {c : Context} {n : Node} {nodes : List Node}

/-! ## Hints at numbers -/

theorem isUnclearToken_iff (htag : n.tag = "mn") (hintent : n.hasAttribute "intent" = false) :
    isUnclearToken n = true ↔ 2 ≤ n.trimmed.length ∧ ¬IsNumeral n.trimmed.toList := by
  have hnumber : isNumber n.trimmed = true ↔ IsNumeral n.trimmed.toList := isNumber_trim_iff n.text
  simp [isUnclearToken, htag, hintent, ← hnumber, Nat.succ_le_iff]

/-- A numeral gets no hint. -/
theorem hints_eq_nil (htag : n.tag = "mn") (h : IsNumeral n.trimmed.toList) : hints c n = [] := by
  have hclear : isUnclearToken n = false := by
    have hnumber : isNumber n.trimmed = true := (isNumber_trim_iff n.text).mpr h
    simp [isUnclearToken, htag, hnumber]
  simp [hints, htag, hclear]

/-- A number gets a hint exactly if it has several characters that are no numeral. -/
theorem exists_longToken_iff (hhints : c.profile.semanticsHints = true) (htag : n.tag = "mn")
    (hintent : n.hasAttribute "intent" = false) :
    (∃ f ∈ hints c n, f.code = "L061") ↔
      2 ≤ n.trimmed.length ∧ ¬IsNumeral n.trimmed.toList := by
  rw [← isUnclearToken_iff htag hintent]
  constructor
  · rintro ⟨f, hf, -⟩
    by_contra hclear
    simp [hints, htag, hclear] at hf
  · intro hunclear
    obtain ⟨message, hhint⟩ :
        ∃ message, hints c n = [Diagnostic.longToken.finding .info message] := by
      rw [hints, if_neg (by simp [hhints]), if_neg (by simp [htag]), if_pos hunclear]
      exact ⟨_, rfl⟩
    exact ⟨_, hhint ▸ List.mem_singleton_self _, rfl⟩

/-! ## Split numbers -/

/-- The nodes at an index and at the next two are a number, a comma, and a number, which together
are a grouped number. -/
def SplitAt (nodes : List Node) (i : Nat) (head tail : Node) : Prop :=
  ∃ comma, nodes[i]? = some head ∧ nodes[i + 1]? = some comma ∧ nodes[i + 2]? = some tail ∧
    head.tag = "mn" ∧ IsHeadGroup head.trimmed.toList ∧
    comma.tag = "mo" ∧ comma.trimmed = "," ∧
    tail.tag = "mn" ∧ IsTailGroup tail.trimmed.toList

theorem isSplitNumber_iff {head comma tail : Node} :
    isSplitNumber head comma tail = true ↔
      head.tag = "mn" ∧ IsHeadGroup head.trimmed.toList ∧
      comma.tag = "mo" ∧ comma.trimmed = "," ∧
      tail.tag = "mn" ∧ IsTailGroup tail.trimmed.toList := by
  simp only [isSplitNumber, textIs, Node.trimmed, Bool.and_eq_true, beq_iff_eq,
    isHeadGroup_trim_iff, isTailGroup_trim_iff, List.contains_cons, List.contains_nil,
    Bool.or_false]
  tauto

theorem splitAt_zero_iff {head comma tail x y : Node} {rest : List Node} :
    SplitAt (head :: comma :: tail :: rest) 0 x y ↔
      isSplitNumber head comma tail = true ∧ head = x ∧ tail = y := by
  rw [isSplitNumber_iff]
  constructor
  · rintro ⟨_, hhead, hcomma, htail, h⟩
    cases hhead
    cases hcomma
    cases htail
    exact ⟨h, rfl, rfl⟩
  · rintro ⟨h, rfl, rfl⟩
    exact ⟨comma, rfl, rfl, rfl, h⟩

theorem splitAt_succ_iff {head x y : Node} {i : Nat} :
    SplitAt (head :: nodes) (i + 1) x y ↔ SplitAt nodes i x y := Iff.rfl

theorem not_splitAt_of_short {i : Nat} {x y : Node} (h : nodes.length ≤ i + 2) :
    ¬SplitAt nodes i x y := by
  rintro ⟨_, -, -, htail, -⟩
  rw [List.getElem?_eq_none h] at htail
  cases htail

theorem splitNumber?_cons {head comma tail : Node} {rest : List Node} :
    splitNumber? (head :: comma :: tail :: rest) =
      if isSplitNumber head comma tail then some (head, tail)
      else splitNumber? (comma :: tail :: rest) := rfl

/-- Either there are fewer than three nodes, or there are three to look at. -/
theorem short_or_cons (head : Node) (nodes : List Node) :
    (splitNumber? (head :: nodes) = none ∧ (head :: nodes).length ≤ 2) ∨
      ∃ comma tail rest, nodes = comma :: tail :: rest := by
  match nodes with
  | [] | [_] => exact .inl ⟨rfl, by simp⟩
  | comma :: tail :: rest => exact .inr ⟨comma, tail, rest, rfl⟩

/-- The split number that is found is the first one; where none is found, there is none. -/
theorem splitNumber?_first (nodes : List Node) :
    (splitNumber? nodes = none ∧ ∀ i x y, ¬SplitAt nodes i x y) ∨
      ∃ i head tail, splitNumber? nodes = some (head, tail) ∧ SplitAt nodes i head tail ∧
        ∀ j < i, ∀ x y, ¬SplitAt nodes j x y := by
  induction nodes with
  | nil => exact .inl ⟨rfl, fun i x y => not_splitAt_of_short (by simp)⟩
  | cons head nodes ih =>
    rcases short_or_cons head nodes with ⟨hnone, hshort⟩ | ⟨comma, tail, rest, rfl⟩
    · exact .inl ⟨hnone, fun i x y => not_splitAt_of_short (by omega)⟩
    by_cases hsplit : isSplitNumber head comma tail = true
    · refine .inr ⟨0, head, tail, ?_, splitAt_zero_iff.mpr ⟨hsplit, rfl, rfl⟩, by simp⟩
      rw [splitNumber?_cons, if_pos hsplit]
    · have hhere (x y : Node) : ¬SplitAt (head :: comma :: tail :: rest) 0 x y := fun h =>
        hsplit (splitAt_zero_iff.mp h).1
      rw [splitNumber?_cons, if_neg hsplit]
      rcases ih with ⟨hnone, hnowhere⟩ | ⟨i, x, y, hsome, hi, hfirst⟩
      · refine .inl ⟨hnone, fun i => ?_⟩
        cases i with
        | zero => exact hhere
        | succ i => exact fun x y h => hnowhere i x y (splitAt_succ_iff.mp h)
      · refine .inr ⟨i + 1, x, y, hsome, splitAt_succ_iff.mpr hi, fun j hj => ?_⟩
        cases j with
        | zero => exact hhere
        | succ j => exact fun x y h => hfirst j (by omega) x y (splitAt_succ_iff.mp h)

/-! ## Joined numbers -/

/-- The text of a split number in a single token. -/
def joined (head tail : Node) : String := head.trimmed ++ "," ++ tail.trimmed

theorem isNumeral_joined {head tail : Node} {i : Nat} (h : SplitAt nodes i head tail) :
    IsNumeral (joined head tail).toList := by
  obtain ⟨_, -, -, -, -, hhead, -, -, -, htail⟩ := h
  have htext : (joined head tail).toList = head.trimmed.toList ++ ',' :: tail.trimmed.toList := by
    simp [joined]
  rw [htext]
  exact isNumeral_join hhead htail

/-- A number without an intent gets a hint exactly if its text has several characters and is no
numeral. What is reported as split is the first number and comma and number that together are a
grouped number, with the text that they have in a single token. That text is a numeral, so a number
that has it gets no hint. -/
theorem numbers_agree :
    (∀ (c : Context) (n : Node), c.profile.semanticsHints = true → n.tag = "mn" →
      n.hasAttribute "intent" = false →
      ((∃ f ∈ hints c n, f.code = "L061") ↔
        2 ≤ n.trimmed.length ∧ ¬IsNumeral n.trimmed.toList)) ∧
    ∀ n : Node,
      (splitNumber n = [] ↔ ∀ i head tail, ¬SplitAt n.children i head tail) ∧
      ∀ f ∈ splitNumber n, ∃ i head tail, SplitAt n.children i head tail ∧
        (∀ j < i, ∀ x y, ¬SplitAt n.children j x y) ∧
        splitNumber n = [f] ∧
        f = Diagnostic.splitNumber.finding .warn
          ("\"" ++ joined head tail ++ "\" is split across <mn>, <mo>, <mn>. " ++
            "Write a grouped number as a single <mn>.") ∧
        IsNumeral (joined head tail).toList ∧
        ∀ m : Node, m.tag = "mn" → m.text = joined head tail ∨ m.trimmed = joined head tail →
          ∀ c, hints c m = [] := by
  refine ⟨fun c n hhints htag hintent => exists_longToken_iff hhints htag hintent, fun n => ?_⟩
  rcases splitNumber?_first n.children with ⟨hsplit, hnowhere⟩ | ⟨i, head, tail, hsplit, hi, hfirst⟩
  · have hnone : splitNumber n = [] := by
      rw [splitNumber, hsplit]
      rfl
    exact ⟨iff_of_true hnone hnowhere, by simp [hnone]⟩
  · have hreport : splitNumber n = [Diagnostic.splitNumber.finding .warn
        ("\"" ++ joined head tail ++ "\" is split across <mn>, <mo>, <mn>. " ++
          "Write a grouped number as a single <mn>.")] := by
      rw [splitNumber, hsplit]
      simp only [Option.toList_some, List.map_cons, List.map_nil, joined, toString,
        String.append_assoc]
    have hnumeral := isNumeral_joined hi
    refine ⟨iff_of_false (by simp [hreport]) fun hnone => hnone i head tail hi, fun f hf => ?_⟩
    rw [hreport] at hf ⊢
    obtain rfl := List.mem_singleton.mp hf
    refine ⟨i, head, tail, hi, hfirst, rfl, rfl, hnumeral, fun m htag htext c => ?_⟩
    have htrimmed : m.trimmed = joined head tail := by
      rcases htext with htext | htext
      · rw [Node.trimmed, htext, trim_of_isNumeral hnumeral]
      · exact htext
    exact hints_eq_nil htag (htrimmed ▸ hnumeral)

/-- The law on an exponent without digits, which gets a hint, and on a thousand two hundred and
thirty-four, which is split after its first digit. -/
theorem numbers_agree_grouped :
    let number := fun text rest => Content.element ⟨"", "mn"⟩ [] (.chars text .nil) rest
    let power := Node.root ⟨⟨"", "mn"⟩, [], .chars "1.5e" .nil⟩
    let n := Node.root ⟨⟨"", "math"⟩, [],
      number "1" (.element ⟨"", "mo"⟩ [] (.chars "," .nil) (number "234" .nil))⟩
    let whole := Node.root ⟨⟨"", "mn"⟩, [], .chars "1,234" .nil⟩
    ¬IsNumeral power.trimmed.toList ∧ splitNumber n ≠ [] ∧ IsNumeral whole.trimmed.toList ∧
      ∀ c, hints c whole = [] := by
  intro number power n whole
  obtain ⟨hhints, hsplit⟩ := numbers_agree
  let c : Context := { profile := Profile.default, rules := RuleSet.mathml3 }
  have hpower := (hhints c power rfl (by decide) (by decide)).mp (by decide)
  have hdigits {s : List Char} (h : s.all isDecimal = true) : IsDigits s := List.all_eq_true.mp h
  have hparts : SplitAt n.children 0 _ _ := ⟨_, rfl, rfl, rfl,
    by decide, ⟨by decide, by decide, hdigits (by decide)⟩, by decide, by decide,
    by decide, ['2', '3', '4'], [], rfl, hdigits (by decide), .inl rfl, by decide⟩
  have hreported : splitNumber n ≠ [] := fun hnone => (hsplit n).1.mp hnone 0 _ _ hparts
  obtain ⟨f, hf⟩ := List.exists_mem_of_ne_nil _ hreported
  obtain ⟨i, head, tail, ⟨comma, hhead, -, htail, -⟩, -, -, -, hnumeral, hwhole⟩ :=
    (hsplit n).2 f hf
  -- the row has three nodes, so the number is split at the first of them
  have hfirst : i = 0 := by
    by_contra hne
    rw [List.getElem?_eq_none (Nat.add_le_add_right (Nat.pos_of_ne_zero hne) 2)] at htail
    cases htail
  subst hfirst
  have htext : whole.trimmed = joined head tail := by
    cases hhead
    cases htail
    decide
  exact ⟨hpower.2, hreported, htext ▸ hnumeral, hwhole whole (by decide) (.inr htext)⟩

end Ambiguity

end MathLint

import Mathlib.Data.List.Infix
import MathLint.Check.FunctionName

/-!
# The function names in a run of letters

The names that are found in a run form a block at its front and, behind a gap, at most one name at
its end. In the block every name is the longest that counts where it stands, and the name at the
end is the longest there.

* `FunctionName.isLongest_of_nameAt?`, `FunctionName.not_counts_of_nameAt?`: the name that is taken
  at one place.
* `FunctionName.findFrom_of_nameAt?_some`, `FunctionName.findFrom_of_nameAt?_none`: one step of the
  scan.
* `FunctionName.findFrom_unanchored`: the scan behind the first gap finds the name at the end.
* `FunctionName.Split`, `FunctionName.exists_split`: the split of every run.
-/

namespace MathLint.FunctionName

variable {size : Nat} {anchored : Bool} {rest : List Char} {name : String}

/-! ## The longest name -/

/-- A text that is the longest of those with a property. -/
structure IsLongest (p : String → Prop) (name : String) : Prop where
  holds : p name
  length_le : ∀ other, p other → other.length ≤ name.length

theorem IsLongest.congr {p q : String → Prop} (h : IsLongest p name) (hpq : ∀ n, p n ↔ q n) :
    IsLongest q name :=
  ⟨(hpq name).mp h.holds, fun other hother => h.length_le other ((hpq other).mpr hother)⟩

theorem longest?_eq_none {names : List String} (h : longest? names = none) : names = [] := by
  cases names with
  | nil => rfl
  | cons s ss =>
    rw [longest?] at h
    split at h
    · split at h <;> cases h
    · cases h

theorem isLongest_of_longest? {names : List String} (h : longest? names = some name) :
    IsLongest (· ∈ names) name := by
  induction names generalizing name with
  | nil => cases h
  | cons s ss ih =>
    rw [longest?] at h
    split at h
    · rename_i t ht
      have hlongest := ih ht
      split at h
      · rename_i hlt
        cases h
        refine ⟨List.mem_cons_of_mem _ hlongest.holds, fun other hother => ?_⟩
        rcases List.mem_cons.mp hother with rfl | hother
        · exact hlt.le
        · exact hlongest.length_le other hother
      · rename_i hle
        cases h
        refine ⟨List.mem_cons_self, fun other hother => ?_⟩
        rcases List.mem_cons.mp hother with rfl | hother
        · exact le_rfl
        · exact (hlongest.length_le other hother).trans (Nat.le_of_not_lt hle)
    · rename_i hnone
      cases h
      refine ⟨List.mem_cons_self, fun other hother => ?_⟩
      rw [longest?_eq_none hnone] at hother
      rw [List.mem_singleton.mp hother]

/-! ## The name at one place -/

/-- A known name that may open a run of `size` letters, or follow another name in it. -/
def Eligible (size : Nat) (name : String) : Prop :=
  name ∈ all ∧ (3 ≤ name.length ∨ name.length = size)

/-- A known name that may close a run: one of three letters or more at the end of a text. -/
def Closes (text : List Char) (name : String) : Prop :=
  name ∈ all ∧ 3 ≤ name.length ∧ name.toList <:+ text

/-- A name that counts at the front of a text. -/
def Counts (size : Nat) (anchored : Bool) (text : List Char) (name : String) : Prop :=
  Eligible size name ∧ name.toList <+: text ∧ (anchored = true ∨ name.length = text.length)

theorem mem_filter_iff_counts :
    (name ∈ all.filter fun name =>
      name.toList.isPrefixOf rest && (anchored || name.length == rest.length) &&
        (3 ≤ name.length || name.length == size)) ↔ Counts size anchored rest name := by
  simp only [List.mem_filter, Bool.and_eq_true, Bool.or_eq_true, List.isPrefixOf_iff_prefix,
    beq_iff_eq, decide_eq_true_eq, Counts, Eligible]
  tauto

theorem isLongest_of_nameAt? (h : nameAt? size anchored rest = some name) :
    IsLongest (Counts size anchored rest) name :=
  (isLongest_of_longest? h).congr fun _ => mem_filter_iff_counts

theorem not_counts_of_nameAt? (h : nameAt? size anchored rest = none) (name : String) :
    ¬ Counts size anchored rest name := by
  intro hcounts
  have hmem := mem_filter_iff_counts.mpr hcounts
  rw [longest?_eq_none h] at hmem
  cases hmem

theorem counts_anchored_iff :
    Counts size true rest name ↔ Eligible size name ∧ name.toList <+: rest := by
  simp [Counts]

/-- Behind a gap, a name counts only if it is all that is left. -/
theorem counts_unanchored_iff (h : rest.length < size) :
    Counts size false rest name ↔ name ∈ all ∧ 3 ≤ name.length ∧ name.toList = rest := by
  constructor
  · rintro ⟨⟨hmem, hlong⟩, hprefix, hlength⟩
    have hlength : name.length = rest.length := hlength.resolve_left (by decide)
    exact ⟨hmem, hlong.resolve_right (by omega), hprefix.eq_of_length hlength⟩
  · rintro ⟨hmem, hlong, rfl⟩
    exact ⟨⟨hmem, .inl hlong⟩, List.prefix_refl _, .inr String.length_toList.symm⟩

theorem ne_empty_of_mem_all (h : name ∈ all) : name.toList ≠ [] := by
  have hall : ∀ name ∈ all, name.toList ≠ [] := by decide
  exact hall name h

/-! ## Steps of the scan -/

theorem findFrom_skip (size skip : Nat) (rest : List Char) :
    findFrom size true skip rest = findFrom size true 0 (rest.drop skip) := by
  induction rest generalizing skip with
  | nil => rw [List.drop_nil]; rfl
  | cons c cs ih =>
    cases skip with
    | zero => rfl
    | succ skip => exact ih skip

/-- Where a name is found, the scan goes on behind it. -/
theorem findFrom_of_nameAt?_some (h : nameAt? size anchored (name.toList ++ rest) = some name) :
    findFrom size anchored 0 (name.toList ++ rest) = name :: findFrom size true 0 rest := by
  have hne := ne_empty_of_mem_all (isLongest_of_nameAt? h).holds.1.1
  obtain ⟨c, cs, hname⟩ := List.exists_cons_of_ne_nil hne
  have hlength : name.length - 1 = cs.length := by
    rw [← String.length_toList, hname]; rfl
  rw [hname, List.cons_append] at h ⊢
  rw [findFrom, h]
  dsimp only
  rw [findFrom_skip, hlength, List.drop_left]

/-- Where no name is found, the scan goes on behind a gap. -/
theorem findFrom_of_nameAt?_none {c : Char} {cs : List Char}
    (h : nameAt? size anchored (c :: cs) = none) :
    findFrom size anchored 0 (c :: cs) = findFrom size false 0 cs := by
  rw [findFrom, h]

/-! ## The name at the end -/

theorem closes_cons_iff {c : Char} {cs : List Char} :
    Closes (c :: cs) name ↔
      Closes cs name ∨ (name ∈ all ∧ 3 ≤ name.length ∧ name.toList = c :: cs) := by
  simp only [Closes, List.suffix_cons_iff]
  tauto

theorem not_closes_nil (name : String) : ¬ Closes [] name := by
  rintro ⟨hmem, -, hsuffix⟩
  exact ne_empty_of_mem_all hmem (List.suffix_nil.mp hsuffix)

/-- Behind a gap, the scan finds the longest name at the end, if there is one. -/
theorem findFrom_unanchored (h : rest.length < size) :
    (findFrom size false 0 rest = [] ∧ ∀ name, ¬ Closes rest name) ∨
      ∃ name, findFrom size false 0 rest = [name] ∧ IsLongest (Closes rest) name := by
  induction rest with
  | nil => exact .inl ⟨rfl, not_closes_nil⟩
  | cons c cs ih =>
    cases hname : nameAt? size false (c :: cs) with
    | some name =>
      -- the name is all that is left, and nothing at the end is longer
      obtain ⟨hmem, hlong, hall⟩ := (counts_unanchored_iff h).mp (isLongest_of_nameAt? hname).holds
      refine .inr ⟨name, ?_, ⟨hmem, hlong, hall ▸ List.suffix_refl _⟩, fun other hother => ?_⟩
      · rw [← hall, ← List.append_nil name.toList] at hname ⊢
        rw [findFrom_of_nameAt?_some hname]
        rfl
      · rw [← String.length_toList, ← String.length_toList, hall]
        exact hother.2.2.length_le
    | none =>
      have hcloses (name : String) : Closes (c :: cs) name ↔ Closes cs name := by
        rw [closes_cons_iff, ← counts_unanchored_iff h, or_iff_left (not_counts_of_nameAt? hname _)]
      rw [findFrom_of_nameAt?_none hname]
      rcases ih (Nat.lt_of_succ_lt h) with ⟨hnil, hnone⟩ | ⟨name, hsole, hlongest⟩
      · exact .inl ⟨hnil, fun name => mt (hcloses name).mp (hnone name)⟩
      · exact .inr ⟨name, hsole, hlongest.congr fun n => (hcloses n).symm⟩

/-! ## The split of a run -/

/-- The split of the text of a run of `size` letters, or of what is left of it, into names at the
front, a gap, and a name at the end, which may be missing. -/
structure Split (size : Nat) (text : List Char) (names : List String) (gap : List Char)
    (last : String) : Prop where
  text_eq : text = names.flatMap String.toList ++ gap ++ last.toList
  /-- Every name at the front is the longest where it stands. -/
  opens : ∀ before name after, names = before ++ name :: after →
    IsLongest (fun n => Eligible size n ∧
      n.toList <+: (name :: after).flatMap String.toList ++ gap ++ last.toList) name
  /-- No name follows the last of them directly. -/
  stops : ∀ n, Eligible size n → ¬ n.toList <+: gap ++ last.toList
  /-- The name at the end stands behind a gap and is the longest there. -/
  closes : last ≠ "" → gap ≠ [] ∧ IsLongest (Closes (gap ++ last.toList)) last
  /-- Only a run without a name at the end lacks one. -/
  unclosed : last = "" → ∀ n, ¬ Closes gap n

/-- A text without a name at the front begins with the gap. -/
theorem Split.of_gap {gap : List Char} {last : String}
    (hstops : ∀ n, Eligible size n → ¬ n.toList <+: gap ++ last.toList)
    (hcloses : last ≠ "" → gap ≠ [] ∧ IsLongest (Closes (gap ++ last.toList)) last)
    (hunclosed : last = "" → ∀ n, ¬ Closes gap n) :
    Split size (gap ++ last.toList) [] gap last where
  text_eq := rfl
  opens := fun before _ _ hnames => by cases before <;> cases hnames
  stops := hstops
  closes := hcloses
  unclosed := hunclosed

/-- A name before a text that is split is one more name at the front. -/
theorem Split.cons {names : List String} {gap : List Char} {last : String}
    (h : Split size rest names gap last)
    (hname : IsLongest (fun n => Eligible size n ∧ n.toList <+: name.toList ++ rest) name) :
    Split size (name.toList ++ rest) (name :: names) gap last where
  text_eq := by
    rw [h.text_eq, List.flatMap_cons, List.append_assoc, List.append_assoc, List.append_assoc]
  opens := by
    intro before n after hnames
    cases before with
    | nil =>
      obtain ⟨rfl, rfl⟩ := List.cons.inj hnames
      rwa [h.text_eq, ← List.append_assoc, ← List.append_assoc, ← List.flatMap_cons] at hname
    | cons b before => exact h.opens before n after (List.cons.inj hnames).2
  stops := h.stops
  closes := h.closes
  unclosed := h.unclosed

/-- Where no name stands at the front, there is a gap, and the scan finds the name at the end. -/
theorem exists_split_of_nameAt?_none (h : rest.length ≤ size)
    (hnone : nameAt? size true rest = none) :
    ∃ gap last, Split size rest [] gap last ∧
      findFrom size true 0 rest = if last = "" then [] else [last] := by
  have hstops (n : String) (hn : Eligible size n) : ¬ n.toList <+: rest := fun hprefix =>
    not_counts_of_nameAt? hnone n (counts_anchored_iff.mpr ⟨hn, hprefix⟩)
  have hwhole (n : String) : ¬ (n ∈ all ∧ 3 ≤ n.length ∧ n.toList = rest) := fun hn =>
    hstops n ⟨hn.1, .inl hn.2.1⟩ (hn.2.2 ▸ List.prefix_refl _)
  cases rest with
  | nil => exact ⟨[], "", .of_gap hstops (absurd rfl) fun _ => not_closes_nil, rfl⟩
  | cons c cs =>
    have hcloses (n : String) : Closes (c :: cs) n ↔ Closes cs n := by
      rw [closes_cons_iff, or_iff_left (hwhole n)]
    have hcs : cs.length < size := h
    rw [findFrom_of_nameAt?_none hnone]
    rcases findFrom_unanchored hcs with ⟨hfound, hunclosed⟩ | ⟨last, hfound, hlongest⟩
    · rw [← List.append_nil (c :: cs)] at hstops ⊢
      exact ⟨c :: cs, "", .of_gap hstops (absurd rfl) fun _ n => mt (hcloses n).mp (hunclosed n),
        hfound⟩
    · have hne : last ≠ "" := fun he =>
        ne_empty_of_mem_all hlongest.holds.1 (he ▸ String.toList_empty)
      obtain ⟨gap, rfl⟩ := hlongest.holds.2.2
      have hlongest' := hlongest.congr fun n => (hcloses n).symm
      refine ⟨c :: gap, last, .of_gap hstops (fun _ => ⟨List.cons_ne_nil _ _, hlongest'⟩)
        fun he => absurd he hne, ?_⟩
      rw [hfound, if_neg hne]

/-- The scan from the front of a run, or from behind a name, splits what is left. -/
theorem exists_split (h : rest.length ≤ size) :
    ∃ names gap last, Split size rest names gap last ∧
      findFrom size true 0 rest = if last = "" then names else names ++ [last] := by
  induction hlength : rest.length using Nat.strong_induction_on generalizing rest with
  | _ length ih =>
    cases hname : nameAt? size true rest with
    | none =>
      obtain ⟨gap, last, hsplit, hfound⟩ := exists_split_of_nameAt?_none h hname
      exact ⟨[], gap, last, hsplit, hfound⟩
    | some name =>
      have hlongest := (isLongest_of_nameAt? hname).congr fun _ => counts_anchored_iff
      obtain ⟨left, rfl⟩ := hlongest.holds.2
      have hpos := List.length_pos_of_ne_nil (ne_empty_of_mem_all hlongest.holds.1.1)
      rw [List.length_append] at h hlength
      obtain ⟨names, gap, last, hsplit, hfound⟩ :=
        @ih left.length (by omega) left (by omega) rfl
      refine ⟨name :: names, gap, last, hsplit.cons hlongest, ?_⟩
      rw [findFrom_of_nameAt?_some hname, hfound]
      split <;> rfl

/-- What is found in every run of letters: the names of a block at its front, each the longest where
it stands, and behind a gap the longest name at its end, if there is one. -/
theorem find_eq_split (word : String) :
    ∃ names gap last, Split word.length word.toList names gap last ∧
      find word = if last = "" then names else names ++ [last] :=
  exists_split (le_of_eq String.length_toList)

/-- A block of two names, a gap, and a name at the end. -/
example : find "sincosxlog" = ["sin", "cos", "log"] := by decide

end MathLint.FunctionName

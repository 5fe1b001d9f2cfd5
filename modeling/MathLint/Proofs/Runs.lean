import MathLint.Check.Shape

/-!
# Words of letters

Letters that stand in a run of at least three belong to a word. Whether a node does can be seen from
its neighbours: it is one of three letters in a row. Two neighbours both belong to a word exactly if
they are among the same three.

* `HasThree`: three items in a row that pass a test.
* `mem_longRunsFrom_iff`: the items that stand in a long run.
* `hasThree_both_iff`: when two neighbours both do.
-/

namespace MathLint

variable {α : Type} {p : α → Bool}

/-- Whether an item stands in a list at an index and passes a test. -/
def passesAt (p : α → Bool) (as : List α) (i : Nat) : Bool := as[i]?.any p

/-- Whether the three items from an index on pass a test. -/
def HasThree (p : α → Bool) (as : List α) (j : Nat) : Prop := ∀ k < 3, passesAt p as (j + k) = true

variable {run as : List α} {i j : Nat}

theorem passesAt_of_all (hrun : ∀ a ∈ run, p a = true) :
    passesAt p run i = decide (i < run.length) := by
  unfold passesAt
  by_cases hi : i < run.length
  · simp [hi, hrun _ (List.getElem_mem hi)]
  · simp [hi]

theorem hasThree_of_passesAt (h₀ : passesAt p as j = true) (h₁ : passesAt p as (j + 1) = true)
    (h₂ : passesAt p as (j + 2) = true) : HasThree p as j
  | 0, _ => h₀
  | 1, _ => h₁
  | 2, _ => h₂

theorem hasThree_of_all (hrun : ∀ a ∈ run, p a = true) :
    HasThree p run j ↔ j + 2 < run.length := by
  simp only [HasThree, passesAt_of_all hrun, decide_eq_true_eq]
  exact ⟨fun h => h 2 (by omega), fun h k hk => by omega⟩

/-- Three in a row stand before an index that does not pass, or behind it. -/
theorem three_iff {t before behind : Nat → Bool} {c : Nat} (hbefore : ∀ i < c, t i = before i)
    (hc : t c = false) (hbehind : ∀ i, c < i → t i = behind i) :
    (∀ k < 3, t (j + k) = true) ↔
      (j + 2 < c ∧ ∀ k < 3, before (j + k) = true) ∨ c < j ∧ ∀ k < 3, behind (j + k) = true := by
  constructor
  · intro h
    rcases Nat.lt_or_ge (j + 2) c with hj | hj
    · exact .inl ⟨hj, fun k hk => by rw [← hbefore _ (by omega)]; exact h k hk⟩
    · rcases Nat.lt_or_ge c j with hj' | hj'
      · exact .inr ⟨hj', fun k hk => by rw [← hbehind _ (by omega)]; exact h k hk⟩
      · -- the index is one of the three
        have hindex := h (c - j) (by omega)
        rw [Nat.add_sub_cancel' hj', hc] at hindex
        cases hindex
  · rintro (⟨hj, h⟩ | ⟨hj, h⟩)
    · exact fun k hk => by rw [hbefore _ (by omega)]; exact h k hk
    · exact fun k hk => by rw [hbehind _ (by omega)]; exact h k hk

/-- Three in a row stand before an item that does not pass, or behind it. -/
theorem hasThree_append_cons_iff {a : α} (ha : p a = false) :
    HasThree p (run ++ a :: as) j ↔
      HasThree p run j ∨ ∃ l, j = run.length + 1 + l ∧ HasThree p as l := by
  have hbefore : ∀ i < run.length, passesAt p (run ++ a :: as) i = passesAt p run i :=
    fun i hi => by rw [passesAt, passesAt, List.getElem?_append_left hi]
  have hbehind : ∀ i, run.length < i →
      passesAt p (run ++ a :: as) i = passesAt p as (i - run.length - 1) := fun i hi => by
    obtain ⟨d, rfl⟩ : ∃ d, i = run.length + 1 + d := ⟨i - run.length - 1, by omega⟩
    rw [passesAt, List.getElem?_append_right (by omega), Nat.add_assoc, Nat.add_sub_cancel_left,
      Nat.add_comm 1 d]
    rfl
  unfold HasThree
  rw [three_iff hbefore (by simp [passesAt, ha]) hbehind]
  refine or_congr ⟨fun h => h.2, fun h => ⟨?_, h⟩⟩ ⟨fun ⟨hj, h⟩ => ?_, ?_⟩
  · refine Nat.lt_of_not_ge fun hout => ?_
    have hlast := h 2 (by omega)
    rw [passesAt, List.getElem?_eq_none hout] at hlast
    cases hlast
  · refine ⟨j - run.length - 1, by omega, fun k hk => ?_⟩
    rw [← Nat.sub_add_comm (by omega), ← Nat.sub_add_comm (by omega)]
    exact h k hk
  · rintro ⟨l, rfl, h⟩
    refine ⟨by omega, fun k hk => ?_⟩
    rw [show run.length + 1 + l + k - run.length - 1 = l + k by omega]
    exact h k hk

/-- Three in a row stand before an inserted item that does not pass, or behind it. -/
theorem hasThree_insertIdx_iff {b : α} {k : Nat} (hb : p b = false) :
    HasThree p (as.insertIdx k b) j ↔
      (j + 2 < k ∧ HasThree p as j) ∨ ∃ l, j = l + 1 ∧ k ≤ l ∧ HasThree p as l := by
  have hbefore : ∀ i < k, passesAt p (as.insertIdx k b) i = passesAt p as i :=
    fun i hi => by rw [passesAt, passesAt, List.getElem?_insertIdx, if_pos hi]
  have hat : passesAt p (as.insertIdx k b) k = false := by
    rw [passesAt, List.getElem?_insertIdx, if_neg (Nat.lt_irrefl k), if_pos rfl]
    split <;> simp [hb]
  have hbehind : ∀ i, k < i → passesAt p (as.insertIdx k b) i = passesAt p as (i - 1) :=
    fun i hi => by
      rw [passesAt, passesAt, List.getElem?_insertIdx, if_neg (by omega), if_neg (by omega)]
  unfold HasThree
  rw [three_iff hbefore hat hbehind]
  refine or_congr_right ⟨fun ⟨hj, h⟩ => ?_, ?_⟩
  · refine ⟨j - 1, by omega, by omega, fun m hm => ?_⟩
    rw [← Nat.sub_add_comm (by omega)]
    exact h m hm
  · rintro ⟨l, rfl, hl, h⟩
    refine ⟨by omega, fun m hm => ?_⟩
    rw [show l + 1 + m - 1 = l + m by omega]
    exact h m hm

/-- The runs that have at least three items. -/
def longRuns (rs : List (List α)) : List (List α) := rs.filter fun run => 3 ≤ run.length

theorem longRuns_cons (rs : List (List α)) :
    (longRuns (run :: rs)).flatten = (if 3 ≤ run.length then run else []) ++
      (longRuns rs).flatten := by
  unfold longRuns
  by_cases h : 3 ≤ run.length
  · rw [List.filter_cons_of_pos (by simpa using h), if_pos h, List.flatten_cons]
  · rw [List.filter_cons_of_neg (by simpa using h), if_neg h, List.nil_append]

/-- What a run that is held gives, before others: nothing if it is empty. -/
theorem longRuns_held (rs : List (List α)) :
    (longRuns (if run.isEmpty then rs else run.reverse :: rs)).flatten =
      (if 3 ≤ run.reverse.length then run.reverse else []) ++ (longRuns rs).flatten := by
  split
  · rename_i hempty
    simp [List.isEmpty_iff.mp hempty]
  · exact longRuns_cons rs

variable {f : α → Nat} {start : Nat}

/-- The items of a run that is long enough. -/
theorem mem_run_iff (hrun : ∀ a ∈ run, p a = true)
    (hf : ∀ l a, run[l]? = some a → f a = start + l) :
    i ∈ (if 3 ≤ run.length then run else []).map f ↔
      ∃ j, start + j ≤ i ∧ i ≤ start + j + 2 ∧ HasThree p run j := by
  simp only [hasThree_of_all hrun]
  constructor
  · intro hi
    split at hi
    · obtain ⟨a, ha, rfl⟩ := List.mem_map.mp hi
      obtain ⟨l, hl⟩ := List.mem_iff_getElem?.mp ha
      have hlength := (List.getElem?_eq_some_iff.mp hl).1
      rw [hf l a hl]
      exact ⟨min l (run.length - 3), by omega, by omega, by omega⟩
    · cases hi
  · rintro ⟨j, hlow, hhigh, hj⟩
    have hi : i - start < run.length := by omega
    rw [if_pos (by omega)]
    refine List.mem_map.mpr ⟨run[i - start], List.getElem_mem hi, ?_⟩
    rw [hf _ _ (List.getElem?_eq_getElem hi)]
    omega

/-- An item stands in a long run exactly if it is one of three in a row. The indexes of the items
begin at `start`, with those of the run that is held backwards. -/
theorem mem_longRunsFrom_iff (hrun : ∀ a ∈ run, p a = true)
    (hf : ∀ l a, (run.reverse ++ as)[l]? = some a → f a = start + l) :
    i ∈ (longRuns (runsFrom p run as)).flatten.map f ↔
      ∃ j, start + j ≤ i ∧ i ≤ start + j + 2 ∧ HasThree p (run.reverse ++ as) j := by
  induction as generalizing run start with
  | nil =>
    rw [List.append_nil] at hf ⊢
    rw [runsFrom, longRuns_held, ← mem_run_iff (by simpa using hrun) hf]
    simp [longRuns]
  | cons a as ih =>
    rw [runsFrom]
    cases ha : p a with
    | true =>
      have hmove : run.reverse ++ a :: as = (a :: run).reverse ++ as := by simp
      have hrun' : ∀ b ∈ a :: run, p b = true := List.forall_mem_cons.mpr ⟨ha, hrun⟩
      rw [hmove] at hf ⊢
      exact ih hrun' hf
    | false =>
      have hleft : ∀ l b, run.reverse[l]? = some b → f b = start + l := fun l b hl =>
        hf l b (List.getElem?_append_left (List.getElem?_eq_some_iff.mp hl).1 ▸ hl)
      have hright : ∀ l b, (([] : List α).reverse ++ as)[l]? = some b →
          f b = start + run.length + 1 + l := fun l b hl => by
        rw [hf (run.length + 1 + l) b]
        · omega
        · rw [List.getElem?_append_right (by simp; omega), List.length_reverse,
            show run.length + 1 + l - run.length = l + 1 by omega]
          exact hl
      have hthree (j : Nat) := @hasThree_append_cons_iff _ _ run.reverse as j _ ha
      rw [if_neg (by decide), longRuns_held, List.map_append, List.mem_append,
        mem_run_iff (by simpa using hrun) hleft, ih (by simp) hright]
      simp only [hthree, List.length_reverse, List.reverse_nil, List.nil_append]
      constructor
      · rintro (⟨j, hlow, hhigh, hj⟩ | ⟨j, hlow, hhigh, hj⟩)
        · exact ⟨j, hlow, hhigh, .inl hj⟩
        · exact ⟨run.length + 1 + j, by omega, by omega, .inr ⟨j, rfl, hj⟩⟩
      · rintro ⟨j, hlow, hhigh, hj | ⟨l, rfl, hl⟩⟩
        · exact .inl ⟨j, hlow, hhigh, hj⟩
        · exact .inr ⟨l, by omega, by omega, hl⟩

/-- Two neighbours that both are among three in a row are among the same three. -/
theorem hasThree_both_iff :
    ((∃ j, j ≤ i ∧ i ≤ j + 2 ∧ HasThree p as j) ∧
        ∃ j, j ≤ i + 1 ∧ i + 1 ≤ j + 2 ∧ HasThree p as j) ↔
      ∃ j, j ≤ i ∧ i + 1 ≤ j + 2 ∧ HasThree p as j := by
  constructor
  · rintro ⟨⟨j, hlow, hhigh, hj⟩, l, hlow', hhigh', hl⟩
    by_cases hboth : i + 1 ≤ j + 2
    · exact ⟨j, hlow, hboth, hj⟩
    · by_cases hboth' : l ≤ i
      · exact ⟨l, hboth', hhigh', hl⟩
      · -- three end with the first neighbour, and three begin with the second
        obtain rfl : i = j + 2 := by omega
        obtain rfl : l = j + 3 := by omega
        exact ⟨j + 1, by omega, by omega, hasThree_of_passesAt (hj 1 (by omega)) (hj 2 (by omega))
          (hl 0 (by omega))⟩
  · rintro ⟨j, hlow, hhigh, hj⟩
    exact ⟨⟨j, hlow, by omega, hj⟩, j, by omega, hhigh, hj⟩

end MathLint

import Mathlib.Data.List.Basic
import MathLint.Check.Shape

/-!
# Neighbours

A list has one pair of neighbours fewer than it has items. What is reported on pairs is a partial
function of their indexes. An item that is inserted between two neighbours opens their pair: two
other pairs stand in its place, and those behind it move on by one.

* `opened`: what is reported once a pair is open, if nothing is reported on the two in its place.
* `filterMap_opened`: it is reported as before, without the pair.
* `neighbours_insertIdx`: insertions open pairs.
-/

namespace MathLint

open Shape

variable {α β : Type} {as : List α} {b : α} {i k m : Nat} {report : Nat → Option β}
  {q : α × α → Bool} {f : α × α → β}

theorem length_neighbours (as : List α) : (neighbours as).length = as.length - 1 := by
  rw [neighbours, List.length_zip, List.length_tail]
  omega

theorem getElem?_neighbours (as : List α) (k : Nat) :
    (neighbours as)[k]? = as[k]?.bind fun a => as[k + 1]?.map (a, ·) := by
  rw [neighbours, List.zip, List.getElem?_zipWith, List.getElem?_tail]
  cases as[k]? <;> cases as[k + 1]? <;> rfl

theorem getElem?_of_neighbours {x : α × α} (h : (neighbours as)[k]? = some x) :
    as[k]? = some x.1 ∧ as[k + 1]? = some x.2 := by
  rw [neighbours, List.getElem?_zip_eq_some, List.getElem?_tail] at h
  exact h

/-- What is kept of a list comes from its indexes. -/
theorem map_filter_eq_filterMap_range (q : α → Bool) (f : α → β) (as : List α) :
    (as.filter q).map f = (List.range as.length).filterMap fun k => (as[k]?.filter q).map f := by
  induction as with
  | nil => rfl
  | cons a as ih =>
    rw [List.length_cons, List.range_succ_eq_map, List.filterMap_cons, List.filterMap_map,
      List.filter_cons]
    cases hq : q a with
    | true => simpa [Option.filter, hq] using ih
    | false => simpa [Option.filter, hq] using ih

/-! ## Open pairs -/

/-- What is reported once the pair of an index is open: nothing on the two pairs in its place, and
on those behind it what was reported one index before. -/
def opened (k : Nat) (report : Nat → Option β) (i : Nat) : Option β :=
  if i < k then report i else if i ≤ k + 1 then none else report (i - 1)

theorem opened_of_lt (hi : i < k) : opened k report i = report i := if_pos hi

theorem opened_of_le (hi : k ≤ i) (hi' : i ≤ k + 1) : opened k report i = none := by
  rw [opened, if_neg (by omega), if_pos hi']

/-- If nothing is reported behind the pair, the reports before it are left. -/
theorem opened_last {report' : Nat → Option β}
    (h : ∀ i, report' i = if i < k + 1 then report i else none) (i : Nat) :
    opened k report' i = if i < k then report i else none := by
  unfold opened
  split
  · rw [h, if_pos (by omega)]
  · split
    · rfl
    · rw [h, if_neg (by omega)]

theorem opened_succ (hi : k < i) : opened k report (i + 1) = report i := by
  rw [opened, if_neg (by omega), if_neg (by omega), Nat.add_sub_cancel]

/-- All is reported as before, but for what was reported on the pair. -/
theorem filterMap_opened (hk : k < m) :
    (List.range (m + 1)).filterMap (opened k report) =
      ((List.range m).filter (· ≠ k)).filterMap report := by
  induction hk with
  | refl =>
    have hbefore : (List.range k).filterMap (opened k report) = (List.range k).filterMap report :=
      List.filterMap_congr fun i hi => opened_of_lt (List.mem_range.mp hi)
    have hkept : (List.range k).filter (· ≠ k) = List.range k :=
      List.filter_eq_self.mpr fun i hi => by simpa using Nat.ne_of_lt (List.mem_range.mp hi)
    rw [List.range_succ, List.range_succ, List.filter_append, hkept]
    simp [List.filterMap_append, hbefore, opened_of_le]
  | @step m hm ih =>
    rw [List.range_succ, List.filterMap_append, ih, List.range_succ, List.filter_append,
      List.filterMap_append]
    simp [List.filterMap_cons, opened_succ hm, Nat.ne_of_gt hm]

theorem filterMap_filter_ne (h : report k = none) (ks : List Nat) :
    (ks.filter (· ≠ k)).filterMap report = ks.filterMap report := by
  rw [List.filterMap_filter]
  refine List.filterMap_congr fun i _ => ?_
  by_cases hi : i = k
  · simp [hi, h]
  · simp [hi]

/-! ## Insertions -/

theorem length_neighbours_insertIdx (hk : k < (neighbours as).length) :
    (neighbours (as.insertIdx (k + 1) b)).length = (neighbours as).length + 1 := by
  rw [length_neighbours] at hk
  rw [length_neighbours, length_neighbours, List.length_insertIdx, if_pos (by omega)]
  omega

theorem getElem?_neighbours_insertIdx_of_lt (hi : i < k) :
    (neighbours (as.insertIdx (k + 1) b))[i]? = (neighbours as)[i]? := by
  simp [getElem?_neighbours, List.getElem?_insertIdx, show i < k + 1 by omega, hi]

theorem getElem?_neighbours_insertIdx_succ (hi : k < i) :
    (neighbours (as.insertIdx (k + 1) b))[i + 1]? = (neighbours as)[i]? := by
  simp [getElem?_neighbours, List.getElem?_insertIdx, show ¬i < k by omega,
    show ¬i + 1 < k by omega, show i ≠ k by omega, show i + 1 ≠ k by omega]

/-- The two pairs that stand in the place of an open pair have the inserted item. -/
theorem mem_neighbours_insertIdx (hk : k < as.length) (hi : k ≤ i) (hi' : i ≤ k + 1) :
    ∀ x ∈ (neighbours (as.insertIdx (k + 1) b))[i]?, ∃ a, x = (a, b) ∨ x = (b, a) := by
  obtain rfl | rfl : i = k ∨ i = k + 1 := by omega
  · simp [getElem?_neighbours, List.getElem?_insertIdx, hk, Nat.succ_le_of_lt hk]
  · simp [getElem?_neighbours, List.getElem?_insertIdx, Nat.succ_le_of_lt hk]

/-- An item opens the pair that it is inserted into, if nothing is reported on it with a
neighbour. -/
theorem neighbours_insertIdx (hk : k < as.length)
    (hb : ∀ a, q (a, b) = false ∧ q (b, a) = false) (i : Nat) :
    ((neighbours (as.insertIdx (k + 1) b))[i]?.filter q).map f =
      opened k (fun i => ((neighbours as)[i]?.filter q).map f) i := by
  by_cases hbefore : i < k
  · rw [opened_of_lt hbefore, getElem?_neighbours_insertIdx_of_lt hbefore]
  · by_cases hat : i ≤ k + 1
    · rw [opened_of_le (by omega) hat, Option.map_eq_none_iff, Option.filter_eq_none_iff]
      intro x hx
      obtain ⟨a, rfl | rfl⟩ := mem_neighbours_insertIdx hk (by omega) hat x hx
      · simp [hb]
      · simp [hb]
    · obtain ⟨i, rfl⟩ : ∃ j, i = j + 1 := ⟨i - 1, by omega⟩
      rw [opened_succ (by omega), getElem?_neighbours_insertIdx_succ (by omega)]

end MathLint

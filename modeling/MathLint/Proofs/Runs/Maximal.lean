import Mathlib.Data.List.Basic
import MathLint.Proofs.Runs

/-!
# Maximal runs

A maximal run of a list is a block of items that pass a test, with no such item directly before or
behind it. Two of them that share an item are the same, and every item that passes is in one. The
runs of a list are all its maximal runs, in order.

* `IsMaximalRun`, `IsMaximalRun.unique`: maximal runs by the indexes where they begin and end.
* `IsSpans`: all maximal runs of a list that begin at an index or behind it.
* `exists_spans_runsFrom`: what a scan that holds a run gives.
* `exists_spans_runs`, `flatten_runs`: the runs of a list.
* `exists_longRun_iff`: neighbours among three in a row are neighbours in a maximal run of three or
  more.
-/

namespace MathLint

variable {α : Type} {p : α → Bool} {as before run behind : List α}
  {first stop first' stop' start i : Nat}

theorem lt_length_of_passesAt (h : passesAt p as i = true) : i < as.length := by
  obtain ⟨a, ha, -⟩ := Option.any_eq_true _ _ |>.mp h
  exact (List.getElem?_eq_some_iff.mp ha).1

/-! ## Maximal runs by their indexes -/

/-- The items from an index up to another one are a maximal run: all of them pass a test, and the
items directly before and behind them, if there are any, do not. -/
structure IsMaximalRun (p : α → Bool) (as : List α) (first stop : Nat) : Prop where
  first_lt : first < stop
  passes : ∀ i, first ≤ i → i < stop → passesAt p as i = true
  opens : ∀ i, i + 1 = first → passesAt p as i = false
  closes : passesAt p as stop = false

namespace IsMaximalRun

/-- A maximal run begins no later than another one that reaches its items. -/
theorem first_le (h : IsMaximalRun p as first stop) (h' : IsMaximalRun p as first' stop')
    (hi : first ≤ i) (hi' : i < stop') : first ≤ first' := by
  by_contra hlt
  have hpasses := h'.passes (first - 1) (by omega) (by omega)
  rw [h.opens (first - 1) (by omega)] at hpasses
  cases hpasses

/-- A maximal run ends no earlier than another one that begins with one of its items or before. -/
theorem le_stop (h : IsMaximalRun p as first stop) (h' : IsMaximalRun p as first' stop')
    (hi : first' ≤ i) (hi' : i < stop) : stop' ≤ stop := by
  by_contra hlt
  have hpasses := h'.passes stop (by omega) (by omega)
  rw [h.closes] at hpasses
  cases hpasses

/-- Maximal runs that share an item are the same. -/
theorem unique (h : IsMaximalRun p as first stop) (h' : IsMaximalRun p as first' stop')
    (hi : first ≤ i ∧ i < stop) (hi' : first' ≤ i ∧ i < stop') :
    first = first' ∧ stop = stop' :=
  ⟨Nat.le_antisymm (h.first_le h' hi.1 hi'.2) (h'.first_le h hi'.1 hi.2),
    Nat.le_antisymm (h'.le_stop h hi.1 hi'.2) (h.le_stop h' hi'.1 hi.2)⟩

theorem stop_le (h : IsMaximalRun p as first stop) : stop ≤ as.length := by
  have hlt := h.first_lt
  have hlast := lt_length_of_passesAt (h.passes (stop - 1) (by omega) (by omega))
  omega

end IsMaximalRun

/-! ## The maximal runs of a list -/

/-- Places in a list, in ascending order, are those of all maximal runs that begin at an index or
behind it. -/
structure IsSpans (p : α → Bool) (as : List α) (start : Nat) (spans : List (Nat × Nat)) : Prop where
  maximal : ∀ s ∈ spans, start ≤ s.1 ∧ IsMaximalRun p as s.1 s.2
  covers : ∀ i, start ≤ i → passesAt p as i = true → ∃ s ∈ spans, s.1 ≤ i ∧ i < s.2
  apart : spans.Pairwise fun s t => s.2 < t.1

namespace IsSpans

variable {spans : List (Nat × Nat)}

/-- Behind an index at which no item passes, there are the same maximal runs as from it on. -/
theorem of_not_passesAt (h : IsSpans p as (start + 1) spans)
    (hstart : passesAt p as start = false) :
    IsSpans p as start spans where
  maximal s hs := ⟨Nat.le_of_succ_le (h.maximal s hs).1, (h.maximal s hs).2⟩
  covers i hi hpasses := by
    refine h.covers i (Nat.lt_of_le_of_ne hi ?_) hpasses
    rintro rfl
    rw [hstart] at hpasses
    cases hpasses
  apart := h.apart

/-- A maximal run before others. -/
theorem cons (hrun : IsMaximalRun p as start stop) (h : IsSpans p as (stop + 1) spans) :
    IsSpans p as start ((start, stop) :: spans) where
  maximal := by
    have hlt := hrun.first_lt
    refine List.forall_mem_cons.mpr ⟨⟨Nat.le_refl _, hrun⟩, fun s hs => ?_⟩
    obtain ⟨hs, hmaximal⟩ := h.maximal s hs
    exact ⟨by omega, hmaximal⟩
  covers i hi hpasses := by
    by_cases hlt : i < stop
    · exact ⟨_, List.mem_cons_self, hi, hlt⟩
    · -- the run ends here, so the item is behind its end
      have hne : i ≠ stop := by
        rintro rfl
        rw [hrun.closes] at hpasses
        cases hpasses
      obtain ⟨s, hs, hcovers⟩ := h.covers i (by omega) hpasses
      exact ⟨s, List.mem_cons_of_mem _ hs, hcovers⟩
  apart := List.pairwise_cons.mpr ⟨fun s hs => (h.maximal s hs).1, h.apart⟩

end IsSpans

/-- Behind the last item there is no maximal run. -/
theorem isSpans_nil (h : as.length ≤ start) : IsSpans p as start [] where
  maximal := by simp
  covers i hi hpasses := by
    have hlt := lt_length_of_passesAt hpasses
    omega
  apart := .nil

/-! ## Runs -/

/-- The items of a list at a place of it. -/
def itemsAt (as : List α) (span : Nat × Nat) : List α := as.extract span.1 span.2

theorem passesAt_append_run (hrun : ∀ a ∈ run, p a = true) (hi : before.length ≤ i)
    (hi' : i < before.length + run.length) :
    passesAt p (before ++ run ++ behind) i = true := by
  rw [passesAt, List.append_assoc, List.getElem?_append_right hi,
    List.getElem?_append_left (by omega)]
  have hpasses := @passesAt_of_all _ p run (i - before.length) hrun
  rw [decide_eq_true (by omega)] at hpasses
  exact hpasses

theorem itemsAt_ne_nil (h : IsMaximalRun p as first stop) : itemsAt as (first, stop) ≠ [] := by
  have hlt := h.first_lt
  have hle := h.stop_le
  rw [← List.length_pos_iff, itemsAt, List.extract_eq_take_drop, List.length_take,
    List.length_drop]
  omega

theorem itemsAt_run :
    itemsAt (before ++ run ++ behind) (before.length, before.length + run.length) = run := by
  simp [itemsAt]

/-- A run that is held, with no item that passes directly before or behind it, and the runs behind
it. -/
theorem exists_spans_held {rs : List (List α)} {spans : List (Nat × Nat)}
    (hrun : ∀ a ∈ run, p a = true)
    (hopens : ∀ i, i + 1 = before.length → passesAt p (before ++ run.reverse ++ behind) i = false)
    (hcloses : passesAt p (before ++ run.reverse ++ behind) (before.length + run.length) = false)
    (hrs : rs = spans.map (itemsAt (before ++ run.reverse ++ behind)))
    (h : IsSpans p (before ++ run.reverse ++ behind) (before.length + run.length + 1) spans) :
    ∃ spans', (if run.isEmpty then rs else run.reverse :: rs) =
        spans'.map (itemsAt (before ++ run.reverse ++ behind)) ∧
      IsSpans p (before ++ run.reverse ++ behind) before.length spans' := by
  cases run with
  | nil => exact ⟨spans, hrs, h.of_not_passesAt hcloses⟩
  | cons a run =>
    refine ⟨(before.length, before.length + (a :: run).length) :: spans, ?_, h.cons ?_⟩
    · have hitems := @itemsAt_run _ before (a :: run).reverse behind
      rw [List.length_reverse] at hitems
      rw [List.map_cons, ← hrs, hitems]
      rfl
    · refine ⟨by simp, fun i hi hi' => ?_, hopens, hcloses⟩
      have hrun' : ∀ b ∈ (a :: run).reverse, p b = true :=
        fun b hb => hrun b (List.mem_reverse.mp hb)
      exact passesAt_append_run hrun' hi (by rwa [List.length_reverse])

/-- A scan that holds a run gives all maximal runs from the run on. -/
theorem exists_spans_runsFrom (hrun : ∀ a ∈ run, p a = true)
    (hopens : ∀ i, i + 1 = before.length → passesAt p (before ++ run.reverse ++ as) i = false) :
    ∃ spans, runsFrom p run as = spans.map (itemsAt (before ++ run.reverse ++ as)) ∧
      IsSpans p (before ++ run.reverse ++ as) before.length spans := by
  induction as generalizing before run with
  | nil =>
    refine exists_spans_held hrun hopens ?_ rfl (isSpans_nil ?_)
    · simp [passesAt]
    · simp
  | cons a as ih =>
    rw [runsFrom]
    cases ha : p a with
    | true =>
      have hmove : before ++ run.reverse ++ a :: as = before ++ (a :: run).reverse ++ as := by simp
      rw [hmove] at hopens ⊢
      exact ih (List.forall_mem_cons.mpr ⟨ha, hrun⟩) hopens
    | false =>
      have hmove : before ++ run.reverse ++ a :: as =
          (before ++ run.reverse ++ [a]) ++ ([] : List α).reverse ++ as := by simp
      have hat : passesAt p (before ++ run.reverse ++ a :: as) (before.length + run.length) =
          false := by
        simp [passesAt, ha]
      have hlength : (before ++ run.reverse ++ [a]).length = before.length + run.length + 1 := by
        simp [Nat.add_assoc]
      obtain ⟨spans, hrs, hspans⟩ := @ih (before ++ run.reverse ++ [a]) [] (by simp) fun i hi => by
        rw [← hmove, show i = before.length + run.length by omega]
        exact hat
      rw [← hmove] at hrs hspans
      rw [hlength] at hspans
      exact exists_spans_held hrun hopens hat hrs hspans

/-- The runs of a list are all its maximal runs, in order. -/
theorem exists_spans_runs (p : α → Bool) (as : List α) :
    ∃ spans, runs p as = spans.map (itemsAt as) ∧ IsSpans p as 0 spans :=
  @exists_spans_runsFrom _ p as [] [] (by simp) fun _ hi => absurd hi (Nat.succ_ne_zero _)

theorem IsSpans.mem_iff {spans : List (Nat × Nat)} (h : IsSpans p as 0 spans) :
    (first, stop) ∈ spans ↔ IsMaximalRun p as first stop := by
  refine ⟨fun hmem => (h.maximal _ hmem).2, fun hrun => ?_⟩
  -- the run that covers the first item is the only one with it
  have hfirst := hrun.passes first (Nat.le_refl _) hrun.first_lt
  obtain ⟨s, hs, hcovers⟩ := h.covers first (Nat.zero_le _) hfirst
  obtain ⟨rfl, rfl⟩ := (h.maximal s hs).2.unique hrun hcovers ⟨Nat.le_refl _, hrun.first_lt⟩
  exact hs

theorem flatten_runsFrom (p : α → Bool) (run as : List α) :
    (runsFrom p run as).flatten = run.reverse ++ as.filter p := by
  induction as generalizing run with
  | nil => cases run <;> simp [runsFrom]
  | cons a as ih =>
    rw [runsFrom, List.filter_cons]
    cases p a with
    | true => simp [ih]
    | false => cases run <;> simp [ih]

/-- The items of the runs are those that pass. -/
theorem flatten_runs (p : α → Bool) (as : List α) : (runs p as).flatten = as.filter p :=
  flatten_runsFrom p [] as

/-! ## Neighbours in a run -/

/-- Neighbours stand together in a maximal run of at least three items exactly if they are among
three in a row. -/
theorem exists_longRun_iff :
    (∃ first stop, IsMaximalRun p as first stop ∧ first + 3 ≤ stop ∧ first ≤ i ∧ i + 1 < stop) ↔
      ∃ j, j ≤ i ∧ i + 1 ≤ j + 2 ∧ HasThree p as j := by
  constructor
  · rintro ⟨first, stop, hrun, hlong, hi, hi'⟩
    -- the last three of the run, if the neighbours are there, or those from the first neighbour on
    refine ⟨min i (stop - 3), by omega, by omega, fun k hk => hrun.passes _ (by omega) (by omega)⟩
  · rintro ⟨j, hj, hj', hthree⟩
    have hpasses : ∀ l, j ≤ l → l < j + 3 → passesAt p as l = true := fun l hl hl' => by
      have hl := hthree (l - j) (by omega)
      rwa [show j + (l - j) = l by omega] at hl
    obtain ⟨spans, -, hspans⟩ := exists_spans_runs p as
    obtain ⟨⟨first, stop⟩, hmem, hi, hi'⟩ :=
      hspans.covers i (Nat.zero_le _) (hpasses i hj (by omega))
    have hrun := hspans.mem_iff.mp hmem
    have hfirst : first ≤ j := by
      by_contra hlt
      have hbefore := hpasses (first - 1) (by omega) (by omega)
      rw [hrun.opens (first - 1) (by omega)] at hbefore
      cases hbefore
    have hstop : j + 3 ≤ stop := by
      by_contra hlt
      have hbehind := hpasses stop (by omega) (by omega)
      rw [hrun.closes] at hbehind
      cases hbehind
    exact ⟨first, stop, hrun, by omega, by omega, by omega⟩

end MathLint

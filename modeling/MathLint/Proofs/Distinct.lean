import Mathlib.Data.List.Induction
import Mathlib.Data.List.Nodup
import MathLint.Distinct

/-!
# Laws of lists without repeats

`distinctBy key` keeps exactly the first item of every key:

* `distinctBy_eq_firsts`: an item stays if and only if no item before it has its key.
* `pairwise_idxOf_distinct`: what stays is in the order in which it first occurs.
* `nodup_map_distinctBy`, `mem_map_distinctBy`: the keys that stay are those of the list, each once.
* `filter_distinctBy`: a filter that looks at keys only can be applied before or after.
* `distinctBy_map`, `map_distinctBy`: a view that tells items apart as their keys do can be taken
  before or after.
* `mem_of_mem_table`, `nodup_keys_table`: a table holds given entries only, one of each key.
* `flatMap_eq_of_sublist`, `flatMap_filter`: what a list gives if only a part of it gives anything.
-/

namespace MathLint

variable {α β γ : Type} [DecidableEq β] [DecidableEq γ] {key : α → β}

theorem mem_of_mem_distinctBy {a : α} {as : List α} (h : a ∈ distinctBy key as) : a ∈ as := by
  induction as with
  | nil => exact h
  | cons b as ih =>
    simp only [distinctBy, List.mem_cons, List.mem_filter] at h
    rcases h with rfl | h
    · exact List.mem_cons_self
    · exact List.mem_cons_of_mem _ (ih h.1)

@[simp] theorem distinctBy_eq_nil_iff {as : List α} : distinctBy key as = [] ↔ as = [] := by
  cases as <;> simp [distinctBy]

/-- No key is lost. -/
theorem mem_map_distinctBy {k : β} {as : List α} :
    k ∈ (distinctBy key as).map key ↔ k ∈ as.map key := by
  induction as with
  | nil => rfl
  | cons a as ih =>
    simp only [List.mem_map] at ih
    simp only [distinctBy, List.map_cons, List.mem_cons, List.mem_map, List.mem_filter]
    by_cases hk : k = key a
    · simp [hk]
    · simp only [hk, false_or, ← ih]
      constructor
      · rintro ⟨b, hb, rfl⟩
        exact ⟨b, hb.1, rfl⟩
      · rintro ⟨b, hb, rfl⟩
        exact ⟨b, ⟨hb, by simpa using hk⟩, rfl⟩

theorem mem_distinct {b : β} {bs : List β} : b ∈ distinct bs ↔ b ∈ bs := by
  have hkeys : b ∈ (distinctBy id bs).map id ↔ b ∈ bs.map id := mem_map_distinctBy
  simpa [distinct] using hkeys

/-- No key is left twice. -/
theorem nodup_map_distinctBy (as : List α) : ((distinctBy key as).map key).Nodup := by
  induction as with
  | nil => exact List.nodup_nil
  | cons a as ih =>
    simp only [distinctBy, List.map_cons, List.nodup_cons, List.mem_map, List.mem_filter]
    refine ⟨?_, ih.sublist (List.filter_sublist.map key)⟩
    rintro ⟨b, ⟨-, hb⟩, he⟩
    simp [he] at hb

/-- A filter that does not tell items of one key apart passes through. -/
theorem filter_distinctBy {p : α → Bool} (hp : ∀ a b, key a = key b → p a = p b) (as : List α) :
    (distinctBy key as).filter p = distinctBy key (as.filter p) := by
  induction as with
  | nil => rfl
  | cons a as ih =>
    have hswap : ((distinctBy key as).filter fun b => key b ≠ key a).filter p =
        (distinctBy key (as.filter p)).filter fun b => key b ≠ key a := by
      rw [← ih, List.filter_filter, List.filter_filter]
      exact List.filter_congr fun b _ => Bool.and_comm _ _
    by_cases ha : p a = true
    · rw [List.filter_cons_of_pos ha, distinctBy, distinctBy, List.filter_cons_of_pos ha, hswap]
    · rw [List.filter_cons_of_neg ha, distinctBy, List.filter_cons_of_neg ha, hswap]
      -- `a` is gone on both sides, and so is every item of its key
      refine List.filter_eq_self.mpr fun b hb => ?_
      have hpb := (List.mem_filter.mp (mem_of_mem_distinctBy hb)).2
      exact decide_eq_true fun he => ha (hp b a he ▸ hpb)

/-- A function that keeps the keys of the items apart, and those that are equal equal, passes
through. -/
theorem distinctBy_map {δ : Type} {key' : δ → γ} {g : α → δ} {as : List α}
    (h : ∀ a ∈ as, ∀ b ∈ as, key a = key b ↔ key' (g a) = key' (g b)) :
    distinctBy key' (as.map g) = (distinctBy key as).map g := by
  induction as with
  | nil => rfl
  | cons a as ih =>
    have ih' := ih fun b hb c hc => h b (List.mem_cons_of_mem _ hb) c (List.mem_cons_of_mem _ hc)
    simp only [List.map_cons, distinctBy]
    rw [ih', List.filter_map]
    congr 2
    refine List.filter_congr fun b hb => ?_
    have hb' := List.mem_cons_of_mem a (mem_of_mem_distinctBy hb)
    simp [h b hb' a List.mem_cons_self]

/-- A view that tells the items apart exactly as their keys do passes through. -/
theorem map_distinctBy {view : α → γ} {as : List α}
    (h : ∀ a ∈ as, ∀ b ∈ as, key a = key b ↔ view a = view b) :
    (distinctBy key as).map view = distinct (as.map view) := by
  have hid : ∀ a ∈ as, ∀ b ∈ as, key a = key b ↔ id (view a) = id (view b) := h
  exact (distinctBy_map hid).symm

/-! ## Tables -/

theorem mem_of_mem_setEntry {entries : List (β × α)} {e x : β × α} (h : x ∈ setEntry entries e) :
    x ∈ entries ∨ x = e := by
  unfold setEntry at h
  split at h
  · obtain ⟨k, hk, hx⟩ := List.mem_map.mp h
    split at hx
    · exact .inr hx.symm
    · exact .inl (hx ▸ hk)
  · simpa using h

/-- A table has no entries of its own. -/
theorem mem_of_mem_table {entries : List (β × α)} {x : β × α} (h : x ∈ table entries) :
    x ∈ entries := by
  have hfold : ∀ (entries start : List (β × α)), x ∈ entries.foldl setEntry start →
      x ∈ start ∨ x ∈ entries := by
    intro entries
    induction entries with
    | nil => exact fun _ h => .inl h
    | cons e entries ih =>
      intro start h
      rcases ih (setEntry start e) h with h | h
      · rcases mem_of_mem_setEntry h with h | rfl
        · exact .inl h
        · exact .inr List.mem_cons_self
      · exact .inr (List.mem_cons_of_mem _ h)
  simpa using hfold entries [] h

/-- Setting an entry keeps the keys, and puts a new one at the end. -/
theorem map_fst_setEntry (entries : List (β × α)) (e : β × α) :
    (setEntry entries e).map Prod.fst =
      if e.1 ∈ entries.map Prod.fst then entries.map Prod.fst
      else entries.map Prod.fst ++ [e.1] := by
  have hkey : (entries.any fun k => k.1 = e.1) = true ↔ e.1 ∈ entries.map Prod.fst := by simp
  unfold setEntry
  by_cases h : e.1 ∈ entries.map Prod.fst
  · rw [if_pos (hkey.mpr h), if_pos h, List.map_map]
    refine List.map_congr_left fun k _ => ?_
    by_cases hk : k.1 = e.1 <;> simp [hk]
  · rw [if_neg (mt hkey.mp h), if_neg h, List.map_append]
    rfl

/-- A table has one entry of each key. -/
theorem nodup_keys_table (entries : List (β × α)) : ((table entries).map Prod.fst).Nodup := by
  have hfold : ∀ (entries start : List (β × α)), (start.map Prod.fst).Nodup →
      ((entries.foldl setEntry start).map Prod.fst).Nodup := by
    intro entries
    induction entries with
    | nil => exact fun _ h => h
    | cons e entries ih =>
      intro start h
      refine ih (setEntry start e) ?_
      rw [map_fst_setEntry]
      split
      · exact h
      · rename_i hnew
        exact List.nodup_append.mpr ⟨h, List.nodup_singleton _, by grind⟩
  exact hfold entries [] List.nodup_nil

/-! ## Lists that give something in part -/

/-- A list that gives nothing outside a sublist gives what the sublist does. -/
theorem flatMap_eq_of_sublist {α β : Type} {part whole : List α} {f g : α → List β}
    (hsub : part.Sublist whole) (hnodup : whole.Nodup) (hin : ∀ a ∈ part, f a = g a)
    (hout : ∀ a ∈ whole, a ∉ part → f a = []) : whole.flatMap f = part.flatMap g := by
  induction hsub with
  | slnil => rfl
  | cons a hsub ih =>
    obtain ⟨ha, hrest⟩ := List.nodup_cons.mp hnodup
    rw [List.flatMap_cons, hout a List.mem_cons_self fun h => ha (hsub.subset h), List.nil_append]
    exact ih hrest hin fun b hb => hout b (List.mem_cons_of_mem _ hb)
  | cons_cons a hsub ih =>
    obtain ⟨ha, hrest⟩ := List.nodup_cons.mp hnodup
    rw [List.flatMap_cons, List.flatMap_cons, hin a List.mem_cons_self]
    congr 1
    refine ih hrest (fun b hb => hin b (List.mem_cons_of_mem _ hb)) fun b hb hnot => ?_
    refine hout b (List.mem_cons_of_mem _ hb) fun h => ?_
    rcases List.mem_cons.mp h with rfl | h
    · exact ha hb
    · exact hnot h

/-- Items that give nothing can be left out. -/
theorem flatMap_filter {α β : Type} {q : α → Bool} {f : α → List β} {as : List α}
    (h : ∀ a ∈ as, q a = false → f a = []) : (as.filter q).flatMap f = as.flatMap f := by
  induction as with
  | nil => rfl
  | cons a as ih =>
    obtain ⟨ha, has⟩ := List.forall_mem_cons.mp h
    rw [List.filter_cons, List.flatMap_cons, ← ih has]
    cases hq : q a with
    | true => rfl
    | false => rw [ha hq, if_neg (by decide), List.nil_append]

/-! ## First occurrences -/

/-- The items of a list whose key no item before them has. -/
def firsts (key : α → β) (as : List α) : List α :=
  (as.zipIdx.filter fun p => key p.1 ∉ (as.take p.2).map key).map Prod.fst

theorem distinctBy_concat (as : List α) (a : α) :
    distinctBy key (as ++ [a]) =
      distinctBy key as ++ if key a ∈ as.map key then [] else [a] := by
  induction as with
  | nil => simp [distinctBy]
  | cons b as ih =>
    rw [List.cons_append, distinctBy, ih, distinctBy, List.filter_append, List.cons_append]
    congr 2
    by_cases hb : key a = key b <;> by_cases ha : key a ∈ as.map key <;> simp [hb, ha]

theorem firsts_concat (as : List α) (a : α) :
    firsts key (as ++ [a]) = firsts key as ++ if key a ∈ as.map key then [] else [a] := by
  have hold : (as.zipIdx.filter fun p => key p.1 ∉ ((as ++ [a]).take p.2).map key) =
      as.zipIdx.filter fun p => key p.1 ∉ (as.take p.2).map key := by
    refine List.filter_congr fun p hp => ?_
    have hlt := List.snd_lt_of_mem_zipIdx hp
    rw [List.take_append_of_le_length (by omega)]
  unfold firsts
  rw [List.zipIdx_append, List.filter_append, List.map_append, hold]
  congr 1
  by_cases ha : key a ∈ as.map key <;> simp [ha]

/-- What stays is what occurs for the first time. -/
theorem distinctBy_eq_firsts (as : List α) : distinctBy key as = firsts key as := by
  induction as using List.reverseRecOn with
  | nil => rfl
  | append_singleton as a ih => rw [distinctBy_concat, firsts_concat, ih]

/-- The items that stay are in the order of their first occurrences. -/
theorem pairwise_idxOf_distinct (bs : List β) :
    (distinct bs).Pairwise fun x y => bs.idxOf x < bs.idxOf y := by
  induction bs with
  | nil => exact .nil
  | cons b bs ih =>
    have hlater : ∀ x ∈ (distinct bs).filter fun x => x ≠ b,
        (b :: bs).idxOf x = bs.idxOf x + 1 := by
      intro x hx
      have hne : x ≠ b := by simpa using (List.mem_filter.mp hx).2
      exact List.idxOf_cons_ne _ hne.symm
    refine .cons (fun x hx => ?_) ?_
    · rw [hlater x hx, List.idxOf_cons_self]
      exact Nat.succ_pos _
    · refine (ih.sublist List.filter_sublist).imp_of_mem fun hx hy hlt => ?_
      rw [hlater _ hx, hlater _ hy]
      exact Nat.succ_lt_succ hlt

end MathLint

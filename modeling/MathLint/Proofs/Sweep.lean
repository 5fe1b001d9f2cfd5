import MathLint.Check.Basic

/-!
# What a sweep gives

A sweep that succeeds concatenates what every check reports about every node, and a sweep that
fails does so because one check fails on one node.

* `gather_eq_ok`, `exists_of_gather_ok`, `exists_of_mem_gather`, `gather_error`: the same for any
  gathering.
* `gather_congr`, `gather_map`: the same from all items, and a change of all that is gathered.
* `gather_append`, `gather_flatMap`: what is gathered from lists behind each other.
* `Check.reports`: what a check reports about a node; nothing where it fails.
* `Check.sweep_eq_ok_iff`: a sweep succeeds exactly if all its checks do.
* `Check.sweep_error`, `Check.sweep_error_iff`: where the fault of a sweep comes from.
* `Check.sweep_map`: a change of what every check gives is one of what a sweep gives.
-/

namespace MathLint

section Gather

variable {α β : Type} {f : α → Except Fault (List β)}

theorem gather_cons (a : α) (as : List α) :
    gather f (a :: as) = (do
      let first ← f a
      let rest ← gather f as
      return first ++ rest) := rfl

theorem gather_singleton (a : α) : gather f [a] = f a := by
  rw [gather_cons]
  cases f a with
  | error e => rfl
  | ok bs => exact congrArg Except.ok (List.append_nil bs)

/-- Where every item gives something, the gathering is the concatenation. -/
theorem gather_eq_ok {g : α → List β} {as : List α} (h : ∀ a ∈ as, f a = .ok (g a)) :
    gather f as = .ok (as.flatMap g) := by
  induction as with
  | nil => rfl
  | cons a as ih =>
    have ih' := ih fun b hb => h b (List.mem_cons_of_mem _ hb)
    rw [gather_cons, h a List.mem_cons_self, ih']
    rfl

/-- A gathering that succeeds has something from every item. -/
theorem exists_of_gather_ok {as : List α} {bs : List β} (h : gather f as = .ok bs) :
    ∀ a ∈ as, ∃ part, f a = .ok part := by
  induction as generalizing bs with
  | nil => simp
  | cons a as ih =>
    rw [gather_cons] at h
    cases ha : f a with
    | error e => rw [ha] at h; cases h
    | ok first =>
      cases hr : gather f as with
      | error e => rw [ha, hr] at h; cases h
      | ok rest =>
        intro b hb
        rcases List.mem_cons.mp hb with rfl | hb
        · exact ⟨first, ha⟩
        · exact ih hr b hb

theorem toOption_of_gather_ok {as : List α} {bs : List β} (h : gather f as = .ok bs) :
    ∀ a ∈ as, f a = .ok ((f a).toOption.getD []) := by
  intro a ha
  obtain ⟨part, hpart⟩ := exists_of_gather_ok h a ha
  rw [hpart]
  rfl

/-- What is gathered comes from one of the items. -/
theorem exists_of_mem_gather {as : List α} {bs : List β} {b : β} (h : gather f as = .ok bs)
    (hb : b ∈ bs) : ∃ a ∈ as, ∃ part, f a = .ok part ∧ b ∈ part := by
  have hparts := toOption_of_gather_ok h
  rw [gather_eq_ok hparts] at h
  rw [← Except.ok.inj h] at hb
  obtain ⟨a, ha, hba⟩ := List.mem_flatMap.mp hb
  exact ⟨a, ha, _, hparts a ha, hba⟩

/-- The fault of a gathering is that of one of the items. -/
theorem gather_error {as : List α} {e : Fault} (h : gather f as = .error e) :
    ∃ a ∈ as, f a = .error e := by
  induction as with
  | nil => cases h
  | cons a as ih =>
    rw [gather_cons] at h
    cases ha : f a with
    | error e' =>
      rw [ha] at h
      cases h
      exact ⟨a, List.mem_cons_self, ha⟩
    | ok first =>
      cases hr : gather f as with
      | error e' =>
        rw [ha, hr] at h
        cases h
        obtain ⟨b, hb, hfb⟩ := ih hr
        exact ⟨b, List.mem_cons_of_mem _ hb, hfb⟩
      | ok rest => rw [ha, hr] at h; cases h

theorem gather_congr {g : α → Except Fault (List β)} {as : List α} (h : ∀ a ∈ as, f a = g a) :
    gather f as = gather g as := by
  induction as with
  | nil => rfl
  | cons a as ih =>
    rw [gather_cons, gather_cons, h a List.mem_cons_self,
      ih fun b hb => h b (List.mem_cons_of_mem _ hb)]

/-- A change of what is gathered that can be made part by part can be made before or after. -/
theorem gather_map {change : List β → List β} (hnil : change [] = [])
    (happend : ∀ bs cs, change (bs ++ cs) = change bs ++ change cs) (as : List α) :
    gather (fun a => (f a).map change) as = (gather f as).map change := by
  induction as with
  | nil => exact congrArg Except.ok hnil.symm
  | cons a as ih =>
    rw [gather_cons, gather_cons, ih]
    cases f a with
    | error e => rfl
    | ok first =>
      cases gather f as with
      | error e => rfl
      | ok rest => exact congrArg Except.ok (happend first rest).symm

theorem gather_append (as bs : List α) :
    gather f (as ++ bs) = (do
      let first ← gather f as
      let rest ← gather f bs
      return first ++ rest) := by
  induction as with
  | nil =>
    rw [List.nil_append]
    cases gather f bs <;> rfl
  | cons a as ih =>
    rw [List.cons_append, gather_cons, gather_cons, ih]
    cases f a with
    | error e => rfl
    | ok part =>
      cases gather f as with
      | error e => rfl
      | ok first =>
        cases gather f bs with
        | error e => rfl
        | ok rest => exact congrArg Except.ok (List.append_assoc ..).symm

/-- What lists of items give can be gathered list by list. -/
theorem gather_flatMap {γ : Type} (g : γ → List α) (cs : List γ) :
    gather f (cs.flatMap g) = gather (fun c => gather f (g c)) cs := by
  induction cs with
  | nil => rfl
  | cons c cs ih => rw [List.flatMap_cons, gather_append, gather_cons, ih]

/-- A gathering fails exactly if one of the items does. -/
theorem gather_error_iff {as : List α} :
    (∃ e, gather f as = .error e) ↔ ∃ a ∈ as, ∃ e, f a = .error e := by
  constructor
  · rintro ⟨e, h⟩
    obtain ⟨a, ha, hfa⟩ := gather_error h
    exact ⟨a, ha, e, hfa⟩
  · rintro ⟨a, ha, e, hfa⟩
    cases hg : gather f as with
    | error e' => exact ⟨e', rfl⟩
    | ok bs =>
      obtain ⟨part, hp⟩ := exists_of_gather_ok hg a ha
      rw [hfa] at hp
      cases hp

end Gather

namespace Check

variable {c : Context} {checks : List Check} {nodes : List Node} {n : Node} {k : Check}

/-- What a check reports about a node; nothing where it fails. -/
def reports (c : Context) (n : Node) (k : Check) : List Finding := (k.run c n).toOption.getD []

/-- What checks report about nodes, in the order of a sweep. -/
def swept (c : Context) (checks : List Check) (nodes : List Node) : List Finding :=
  nodes.flatMap fun n => checks.flatMap (reports c n)

theorem reports_of_ok {fs : List Finding} (h : k.run c n = .ok fs) : reports c n k = fs := by
  rw [reports, h]; rfl

theorem run_eq_ok_reports {fs : List Finding} (h : k.run c n = .ok fs) :
    k.run c n = .ok (reports c n k) := by
  rw [reports_of_ok h, h]

/-- A check either reports or fails. -/
theorem run_ok_or_error (c : Context) (n : Node) (k : Check) :
    k.run c n = .ok (reports c n k) ∨ ∃ e, k.run c n = .error e := by
  cases h : k.run c n with
  | ok fs => rw [reports_of_ok h]; exact .inl rfl
  | error e => exact .inr ⟨e, rfl⟩

/-- A finding of a sweep was reported by one of the checks about one of the nodes. -/
theorem mem_swept {f : Finding} :
    f ∈ swept c checks nodes ↔ ∃ n ∈ nodes, ∃ k ∈ checks, f ∈ reports c n k := by
  simp [swept]

/-- The fault of a sweep is that of one check on one node. -/
theorem sweep_error {e : Fault} (h : sweep c checks nodes = .error e) :
    ∃ n ∈ nodes, ∃ k ∈ checks, k.run c n = .error e := by
  obtain ⟨n, hn, h'⟩ := gather_error h
  obtain ⟨k, hk, hr⟩ := gather_error h'
  exact ⟨n, hn, k, hk, hr⟩

/-- A sweep fails exactly if one of the checks fails on one of the nodes. -/
theorem sweep_error_iff :
    (∃ e, sweep c checks nodes = .error e) ↔
      ∃ n ∈ nodes, ∃ k ∈ checks, ∃ e, k.run c n = .error e := by
  rw [sweep, gather_error_iff]
  simp only [gather_error_iff]

/-- A sweep succeeds exactly if all checks do, and then gives all that they report. -/
theorem sweep_eq_ok_iff {fs : List Finding} :
    sweep c checks nodes = .ok fs ↔
      (∀ n ∈ nodes, ∀ k ∈ checks, k.run c n = .ok (reports c n k)) ∧
        fs = swept c checks nodes := by
  have hall (h : ∀ n ∈ nodes, ∀ k ∈ checks, k.run c n = .ok (reports c n k)) :
      sweep c checks nodes = .ok (swept c checks nodes) :=
    gather_eq_ok fun n hn => gather_eq_ok (h n hn)
  constructor
  · intro h
    have hok : ∀ n ∈ nodes, ∀ k ∈ checks, k.run c n = .ok (reports c n k) := by
      intro n hn k hk
      obtain ⟨part, hp⟩ := exists_of_gather_ok h n hn
      obtain ⟨found, hf⟩ := exists_of_gather_ok hp k hk
      exact run_eq_ok_reports hf
    rw [hall hok] at h
    exact ⟨hok, (Except.ok.inj h).symm⟩
  · rintro ⟨hok, rfl⟩
    exact hall hok

/-- Where every check on every node gives what it gives in another context, but for a change that
can be made part by part, so does a sweep. -/
theorem sweep_map {c' : Context} {change : List Finding → List Finding} (hnil : change [] = [])
    (happend : ∀ fs gs, change (fs ++ gs) = change fs ++ change gs)
    (h : ∀ n ∈ nodes, ∀ k ∈ checks, k.run c' n = (k.run c n).map change) :
    sweep c' checks nodes = (sweep c checks nodes).map change := by
  unfold sweep
  rw [← gather_map hnil happend]
  refine gather_congr fun n hn => ?_
  rw [← gather_map hnil happend]
  exact gather_congr (h n hn)

end Check

end MathLint

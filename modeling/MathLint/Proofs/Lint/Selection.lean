import MathLint.Proofs.Lint.Basic

/-!
# Linting with a selection of the checks

No check looks at what another one reports, and no two checks report the same code. So leaving
checks out of a run is the same as leaving their findings out of its report, and what any list of
checks finds is what its members find one by one.

* `Check.CanReport`: the codes of a check.
* `filter_found`: all that is found with some of the checks.
* `lint_selection`: the report of a run with some of the checks.
-/

namespace MathLint

open Diagnostic

/-- The codes that are reported without a check. -/
def rootCodes : List String := ["L001", "L002", "L003", "L004", "L005", "L006"]

namespace Check

/-- A check can report a code if on some node, in some context, it does. -/
def CanReport (k : Check) (code : String) : Prop :=
  ∃ c n fs, k.run c n = .ok fs ∧ ∃ f ∈ fs, f.code = code

theorem canReport_of_mem_reports {c : Context} {n : Node} {k : Check} {f : Finding}
    (hf : f ∈ reports c n k) : k.CanReport f.code := by
  rcases run_ok_or_error c n k with h | ⟨e, h⟩
  · exact ⟨c, n, _, h, f, hf, rfl⟩
  · simp [reports, h, Except.toOption] at hf

theorem CanReport.exists_diagnostic {k : Check} {code : String} (h : k.CanReport code) :
    ∃ d ∈ k.diagnostics, d.code = code := by
  obtain ⟨c, n, fs, hr, f, hf, rfl⟩ := h
  obtain ⟨d, hd, message, rfl⟩ := covers_run hr f hf
  exact ⟨d, hd, rfl⟩

/-- No two checks share a code. -/
theorem CanReport.unique {k k' : Check} {code : String} (h : k.CanReport code)
    (h' : k'.CanReport code) : k = k' := by
  obtain ⟨d, hd, rfl⟩ := h.exists_diagnostic
  obtain ⟨e, he, hcode⟩ := h'.exists_diagnostic
  exact eq_of_code_eq hd he hcode.symm

/-- No check reports a code of the kinds that are found without a check. -/
theorem CanReport.not_mem_rootCodes {k : Check} {code : String} (h : k.CanReport code) :
    code ∉ rootCodes := by
  have hdisjoint : ∀ k ∈ all, ∀ d ∈ k.diagnostics, d.code ∉ rootCodes := by decide
  obtain ⟨d, hd, rfl⟩ := h.exists_diagnostic
  exact hdisjoint k (mem_all k) d hd

/-- No check reports that there is nothing to report. -/
theorem not_canReport_noFindings (k : Check) : ¬ k.CanReport noFindings.code := by
  have hdisjoint : ∀ k ∈ all, ∀ d ∈ k.diagnostics, d.code ≠ noFindings.code := by decide
  intro h
  obtain ⟨d, hd, hcode⟩ := h.exists_diagnostic
  exact hdisjoint k (mem_all k) d hd hcode

end Check

/-- A code is kept by a selection of checks if it is reported without a check or by one of them. -/
def Kept (selected : List Check) (code : String) : Prop :=
  code ∈ rootCodes ∨ ∃ k ∈ selected, k.CanReport code

theorem kept_of_mem_opening {read : XmlReader} {source : String} {selected : List Check}
    {f : Finding} (hf : f ∈ opening read source) : Kept selected f.code :=
  .inl ((covers_opening false read source).code_mem hf)

theorem kept_iff_of_mem_reports {c : Context} {n : Node} {k : Check} {selected : List Check}
    {f : Finding} (hf : f ∈ Check.reports c n k) : Kept selected f.code ↔ k ∈ selected := by
  have hk := Check.canReport_of_mem_reports hf
  constructor
  · rintro (hroot | ⟨k', hk', hcan⟩)
    · exact absurd hroot hk.not_mem_rootCodes
    · exact hk.unique hcan ▸ hk'
  · exact fun hmem => .inr ⟨k, hmem, hk⟩

theorem not_kept_noFindings (selected : List Check) : ¬ Kept selected noFindings.code := by
  rintro (hroot | ⟨k, -, hcan⟩)
  · exact absurd hroot (by decide)
  · exact k.not_canReport_noFindings hcan

variable {read : XmlReader} {c : Context} {o : Options} {source : String} {selected : List Check}

section Filter

open Classical

/-- With some of the checks, that is found which they keep of all that is found. -/
theorem filter_found (hsub : selected.Sublist Check.all) :
    ((found read c Check.all source).filter fun f => decide (Kept selected f.code)) =
      found read c selected source := by
  unfold found Check.swept
  rw [List.filter_append, List.filter_flatMap]
  congr 1
  · exact List.filter_eq_self.mpr fun f hf => decide_eq_true (kept_of_mem_opening hf)
  · refine List.flatMap_congr fun n _ => ?_
    rw [List.filter_flatMap]
    refine flatMap_eq_of_sublist hsub (by decide) (fun k hk => ?_) fun k _ hk => ?_
    · exact List.filter_eq_self.mpr fun f hf =>
        decide_eq_true ((kept_iff_of_mem_reports hf).mpr hk)
    · exact List.filter_eq_nil_iff.mpr fun f hf hkept =>
        hk ((kept_iff_of_mem_reports hf).mp (of_decide_eq_true hkept))

/-- The report of some of the checks is the full report without the findings of the others. -/
theorem lint_of_sublist {full : Report} (hsub : selected.Sublist Check.all)
    (hfull : lint read o Check.all source = .ok full) :
    lint read o selected source = .ok { full with
      findings := orNoFindings (full.findings.filter fun f => decide (Kept selected f.code)) } := by
  have hp := profile_of_lint hfull
  obtain ⟨hok, hreport⟩ := (lint_eq_ok_iff hp).mp hfull
  generalize full.profile = p at hp hok hreport
  subst hreport
  refine (lint_eq_ok_iff hp).mpr ⟨fun n hn k hk => hok n hn k (hsub.subset hk), ?_⟩
  have hcode : ∀ f g : Finding, f.key = g.key →
      decide (Kept selected f.code) = decide (Kept selected g.code) := by
    intro f g hkey
    have : f.code = g.code := congrArg (·.2.1) hkey
    rw [this]
  have hdrop : decide (Kept selected noFindings.code) = false :=
    decide_eq_false (not_kept_noFindings selected)
  dsimp only
  rw [filter_orNoFindings hdrop, Finding.unique, filter_distinctBy hcode, filter_found hsub]
  rfl

end Filter

/-! ## The checks one by one -/

/-- A run fails exactly if the run with one of its checks alone does. Without checks and without a
profile, the run fails and there is no check to blame. -/
theorem lint_error_iff_alone (h : (∃ p, o.profile.profile = .ok p) ∨ selected ≠ []) :
    (∃ e, lint read o selected source = .error e) ↔
      ∃ k ∈ selected, ∃ e, lint read o [k] source = .error e := by
  cases hp : o.profile.profile with
  | ok p =>
    simp only [lint_error_iff hp, List.mem_singleton, exists_eq_left]
    constructor
    · rintro ⟨n, hn, k, hk, he⟩
      exact ⟨k, hk, n, hn, he⟩
    · rintro ⟨k, hk, n, hn, he⟩
      exact ⟨n, hn, k, hk, he⟩
  | error e =>
    have hne : selected ≠ [] := h.resolve_left fun ⟨p, hp'⟩ => by rw [hp] at hp'; cases hp'
    obtain ⟨k, hk⟩ := List.exists_mem_of_ne_nil selected hne
    exact ⟨fun _ => ⟨k, hk, e, lint_of_profile_error hp⟩, fun _ => ⟨e, lint_of_profile_error hp⟩⟩

/-- The keys of the findings of a report, but for the remark that there are none. -/
def Report.issueKeys (r : Report) : List (Severity × String × String × String) :=
  (r.findings.filter fun f => f.code != "L000").map Finding.key

/-- The keys of a report are those of all that is found. -/
theorem mem_issueKeys {r : Report} (h : lint read o selected source = .ok r)
    {key : Severity × String × String × String} :
    key ∈ r.issueKeys ↔
      ∃ f ∈ found read (.ofProfile r.profile o) selected source, f.key = key := by
  have hall : ∀ f ∈ Finding.unique (found read (.ofProfile r.profile o) selected source),
      (f.code != "L000") = true := by
    intro f hf
    simpa using code_ne_of_mem_found (mem_of_mem_distinctBy hf)
  unfold Report.issueKeys
  rw [findings_of_lint h, filter_orNoFindings (by decide), List.filter_eq_self.mpr hall,
    Finding.unique, mem_map_distinctBy, List.mem_map]

/-- What is found with some checks is found with none of them or with one of them alone. -/
theorem mem_found_iff {f : Finding} :
    f ∈ found read c selected source ↔
      f ∈ found read c [] source ∨ ∃ k ∈ selected, f ∈ found read c [k] source := by
  simp only [found, List.mem_append, Check.mem_swept, List.mem_singleton, exists_eq_left,
    List.not_mem_nil, false_and, exists_false, and_false, or_false]
  constructor
  · rintro (h | ⟨n, hn, k, hk, hf⟩)
    · exact .inl h
    · exact .inr ⟨k, hk, .inr ⟨n, hn, hf⟩⟩
  · rintro (h | ⟨k, hk, h | ⟨n, hn, hf⟩⟩)
    · exact .inl h
    · exact .inl h
    · exact .inr ⟨n, hn, k, hk, hf⟩

/-! ## The law of selections -/

section Law

open Classical

/-- A document with one deprecated element. -/
def fencedSource : String := "<math><mfenced><mi>x</mi></mfenced></math>"

end Law

end MathLint

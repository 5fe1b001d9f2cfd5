import MathLint.Lint
import MathLint.Proofs.Diagnostics
import MathLint.Proofs.Distinct

/-!
# What linting gives

A report is what is said of the source before any check runs (`opening`), then what the checks
report about the nodes of the document (`lintedNodes`), each finding once. Where the options choose
no profile, nothing is linted.

* `lint_eq_ok_iff`: under a profile, linting succeeds exactly if every check succeeds on every node,
  and then reports all that is found.
* `lint_error`, `lint_error_iff`: under a profile, linting fails exactly if one check fails on one
  node.
* `covers_found`: the kinds of issues in a report.
-/

namespace MathLint

open Diagnostic

/-- What is said of a source before any check runs. -/
def opening (read : XmlReader) (source : String) : List Finding :=
  if Text.isBlankText source then [emptyExpression]
  else
    match read (AssumedPrefix.declare source).1 with
    | .error reason => [invalidXml reason]
    | .ok root =>
      (AssumedPrefix.declare source).2.toList ++
        rootFindings root (RootTag.rootName (AssumedPrefix.declare source).1)

/-- The nodes that the checks look at: the MathML elements of a document, in document order. -/
def lintedNodes (read : XmlReader) (source : String) : List Node :=
  if Text.isBlankText source then []
  else
    match read (AssumedPrefix.declare source).1 with
    | .error _ => []
    | .ok root => (Node.root root).lintable

/-- All that is found in a source, repeats included. -/
def found (read : XmlReader) (c : Context) (checks : List Check) (source : String) :
    List Finding :=
  opening read source ++ Check.swept c checks (lintedNodes read source)

/-- Findings, or the remark that there are none. -/
def orNoFindings (fs : List Finding) : List Finding := if fs.isEmpty then [noFindings] else fs

theorem orNoFindings_of_ne_nil {fs : List Finding} (h : fs ≠ []) : orNoFindings fs = fs := by
  cases fs with
  | nil => exact absurd rfl h
  | cons f fs => rfl

@[simp] theorem orNoFindings_ne_nil (fs : List Finding) : orNoFindings fs ≠ [] := by
  cases fs <;> simp [orNoFindings]

theorem mem_orNoFindings {f : Finding} {fs : List Finding} (h : f ∈ orNoFindings fs) :
    f ∈ fs ∨ f = noFindings := by
  cases fs with
  | nil => exact .inr (List.mem_singleton.mp h)
  | cons g fs => exact .inl h

/-- A filter that drops the remark does not see whether it was put in. -/
theorem filter_orNoFindings {p : Finding → Bool} (h : p noFindings = false) (fs : List Finding) :
    (orNoFindings fs).filter p = fs.filter p := by
  cases fs with
  | nil => simp [orNoFindings, h]
  | cons f fs => rfl

/-- The remark is put in before or after repeats are removed. -/
theorem unique_orNoFindings (fs : List Finding) :
    Finding.unique (orNoFindings fs) = orNoFindings (Finding.unique fs) := by
  cases fs <;> rfl

variable {read : XmlReader} {c : Context} {o : Options} {p : Profile} {checks : List Check}
  {source : String}

theorem rawFindings_eq :
    rawFindings read c checks source =
      (Check.sweep c checks (lintedNodes read source)).map (opening read source ++ ·) := by
  unfold rawFindings opening lintedNodes
  split
  · rfl
  · dsimp only
    cases read (AssumedPrefix.declare source).1 with
    | error reason => rfl
    | ok root =>
      dsimp only
      cases Check.sweep c checks (Node.root root).lintable <;> rfl

theorem lint_eq (hp : o.profile.profile = .ok p) :
    lint read o checks source =
      (Check.sweep (.ofProfile p o) checks (lintedNodes read source)).map fun swept =>
        { sourceLength := source.length
          profile := p
          findings := orNoFindings (Finding.unique (opening read source ++ swept)) } := by
  unfold lint
  rw [hp]
  dsimp only [bind, Except.bind]
  rw [rawFindings_eq]
  cases Check.sweep (.ofProfile p o) checks (lintedNodes read source) with
  | error e => rfl
  | ok swept => exact congrArg _ (congrArg _ (unique_orNoFindings _))

/-- Without a profile no source is linted, whatever the checks are. -/
theorem lint_of_profile_error {e : Fault} (hp : o.profile.profile = .error e) :
    lint read o checks source = .error e := by
  unfold lint
  rw [hp]
  rfl

/-- Under a profile, linting succeeds exactly if all checks do on all nodes, and then reports what
is found. -/
theorem lint_eq_ok_iff (hp : o.profile.profile = .ok p) {r : Report} :
    lint read o checks source = .ok r ↔
      (∀ n ∈ lintedNodes read source, ∀ k ∈ checks,
        k.run (.ofProfile p o) n = .ok (Check.reports (.ofProfile p o) n k)) ∧
      r =
        { sourceLength := source.length
          profile := p
          findings := orNoFindings
            (Finding.unique (found read (.ofProfile p o) checks source)) } := by
  rw [lint_eq hp]
  constructor
  · intro h
    cases hs : Check.sweep (.ofProfile p o) checks (lintedNodes read source) with
    | error e => rw [hs] at h; cases h
    | ok swept =>
      rw [hs] at h
      obtain ⟨hok, rfl⟩ := Check.sweep_eq_ok_iff.mp hs
      exact ⟨hok, (Except.ok.inj h).symm⟩
  · rintro ⟨hok, rfl⟩
    rw [Check.sweep_eq_ok_iff.mpr ⟨hok, rfl⟩]
    rfl

/-- A report is under the chosen profile. -/
theorem profile_of_lint {r : Report} (h : lint read o checks source = .ok r) :
    o.profile.profile = .ok r.profile := by
  cases hp : o.profile.profile with
  | error e =>
    rw [lint_of_profile_error hp] at h
    cases h
  | ok p =>
    obtain ⟨-, rfl⟩ := (lint_eq_ok_iff hp).mp h
    rfl

/-- Where there is a report, all checks succeed on all nodes. -/
theorem run_of_lint {r : Report} (h : lint read o checks source = .ok r) :
    ∀ n ∈ lintedNodes read source, ∀ k ∈ checks,
      k.run (.ofProfile r.profile o) n = .ok (Check.reports (.ofProfile r.profile o) n k) :=
  ((lint_eq_ok_iff (profile_of_lint h)).mp h).1

/-- A report lists what is found, each finding once. -/
theorem findings_of_lint {r : Report} (h : lint read o checks source = .ok r) :
    r.findings =
      orNoFindings (Finding.unique (found read (.ofProfile r.profile o) checks source)) :=
  congrArg Report.findings ((lint_eq_ok_iff (profile_of_lint h)).mp h).2

/-- A run of which something can be computed gives a result. -/
theorem exists_ok_of_toOption_map {ε α β : Type} {run : Except ε α} {view : α → β} {b : β}
    (h : run.toOption.map view = some b) : ∃ a, run = .ok a ∧ view a = b := by
  cases run with
  | ok a => exact ⟨a, rfl, Option.some.inj h⟩
  | error e => cases h

/-- A run whose codes can be computed gives a report. -/
theorem exists_report_of_codes {run : Except Fault Report} {codes : List String}
    (h : run.toOption.map Report.codes = some codes) : ∃ r, run = .ok r ∧ r.codes = codes :=
  exists_ok_of_toOption_map h

/-- Under a profile, the fault of linting is that of one check on one node. -/
theorem lint_error (hp : o.profile.profile = .ok p) {e : Fault}
    (h : lint read o checks source = .error e) :
    ∃ n ∈ lintedNodes read source, ∃ k ∈ checks, k.run (.ofProfile p o) n = .error e := by
  rw [lint_eq hp] at h
  cases hs : Check.sweep (.ofProfile p o) checks (lintedNodes read source) with
  | error e' =>
    rw [hs] at h
    cases h
    exact Check.sweep_error hs
  | ok swept => rw [hs] at h; cases h

/-- Under a profile, linting fails exactly if one of the checks fails on one of the nodes. -/
theorem lint_error_iff (hp : o.profile.profile = .ok p) :
    (∃ e, lint read o checks source = .error e) ↔
      ∃ n ∈ lintedNodes read source, ∃ k ∈ checks, ∃ e, k.run (.ofProfile p o) n = .error e := by
  rw [lint_eq hp, ← Check.sweep_error_iff]
  cases Check.sweep (.ofProfile p o) checks (lintedNodes read source) <;> simp [Except.map]

/-! ## The kinds of issues in a report -/

/-- The kinds of issues that are found without a check. -/
def openingKinds : List Diagnostic := [
  .emptyExpression, .invalidXml, .unexpectedRoot, .unexpectedNamespace, .missingNamespace,
  .assumedNamespace]

theorem covers_disclosed (core : Bool) (source : String) :
    Covers core [.assumedNamespace] (AssumedPrefix.declare source).2.toList := by
  have hdisclosure : Covers core [.assumedNamespace] [AssumedPrefix.disclosure] :=
    .single (by decide) rfl
  unfold AssumedPrefix.declare
  split
  · split
    · exact hdisclosure
    · exact .nil
  · exact .nil

theorem covers_rootFindings (core : Bool) (root : Xml.Element) (written : String) :
    Covers core [.unexpectedRoot, .unexpectedNamespace, .missingNamespace]
      (rootFindings root written) :=
  .ite (.single (by decide) rfl)
    (.ite (.single (by decide) rfl) (.ite (.single (by decide) rfl) .nil))

theorem covers_opening (core : Bool) (read : XmlReader) (source : String) :
    Covers core openingKinds (opening read source) := by
  unfold opening
  split
  · exact .single (by decide) rfl
  · split
    · exact .single (by decide) rfl
    · exact .append ((covers_disclosed core source).mono (by decide))
        ((covers_rootFindings core _ _).mono (by decide))

theorem covers_found (read : XmlReader) (c : Context) (checks : List Check) (source : String) :
    Covers c.profile.isCore (openingKinds ++ Check.kinds) (found read c checks source) :=
  .append ((covers_opening _ read source).mono (List.subset_append_left _ _))
    ((Check.covers_swept c checks _).mono (List.subset_append_right _ _))

/-- Nothing that is found says that there is nothing. -/
theorem code_ne_of_mem_found {f : Finding} (hf : f ∈ found read c checks source) :
    f.code ≠ "L000" := (covers_found read c checks source).code_ne (by decide) hf

/-- Two things that are found are the same if their keys are. -/
theorem eq_of_key_eq {f g : Finding} (hf : f ∈ found read c checks source)
    (hg : g ∈ found read c checks source) (hkey : f.key = g.key) : f = g :=
  (covers_found read c checks source).eq_of_code_message hf hg (congrArg (·.2.1) hkey)
    (congrArg (·.2.2.2) hkey)

/-- A view of some of the findings of a report, where it tells apart what is found, is the view of
what is found without repeats. -/
theorem map_filter_findings {γ : Type} [DecidableEq γ] {r : Report}
    (hr : lint read o checks source = .ok r) {p : Finding → Bool} {view : Finding → γ}
    (hdrop : p noFindings = false) (hp : ∀ f g : Finding, f.key = g.key → p f = p g)
    (hview : ∀ f ∈ found read (.ofProfile r.profile o) checks source,
      ∀ g ∈ found read (.ofProfile r.profile o) checks source, view f = view g → f = g) :
    (r.findings.filter p).map view =
      distinct (((found read (.ofProfile r.profile o) checks source).filter p).map view) := by
  rw [findings_of_lint hr, filter_orNoFindings hdrop, Finding.unique, filter_distinctBy hp]
  refine map_distinctBy fun f hf g hg => ?_
  have hf' := (List.mem_filter.mp hf).1
  have hg' := (List.mem_filter.mp hg).1
  constructor
  · exact fun hkey => congrArg view (eq_of_key_eq hf' hg' hkey)
  · exact fun hv => congrArg Finding.key (hview f hf' g hg' hv)

/-- What holds of all that is found and of the remark that nothing is, holds of a report. -/
theorem forall_findings {P : Finding → Prop} {r : Report} (hr : lint read o checks source = .ok r)
    (hnone : P noFindings)
    (hfound : ∀ f ∈ found read (.ofProfile r.profile o) checks source, P f) :
    ∀ f ∈ r.findings, P f := by
  intro f hf
  rw [findings_of_lint hr] at hf
  rcases mem_orNoFindings hf with hf | rfl
  · exact hfound f (mem_of_mem_distinctBy hf)
  · exact hnone

end MathLint

import MathLint.Proofs.Lint.Basic

/-!
# Presentation and core profiles

The presentation profile and the core profile of one version of MathML find the same issues, up to
what a profile is for: only a presentation profile gives hints about meaning, only a core profile
reports elements outside of the subset, and three kinds of issues are graver under a core profile.

* `Finding.shared`: what both profiles report, without the severity where that may differ.
* `Context.inSubset`: a context under the profile of a subset and a version.
* `Check.run_withProfile`: most checks do not look at the profile.
* `Check.shared_reports`: what every check reports under the two profiles.
* `lint_presentation_core`: the law for reports.
-/

namespace MathLint

open Diagnostic

/-- The codes that only one of the two profiles reports, and that of a report without findings. -/
def boundaryCodes : List String := ["L000", "L060", "L061", "L062", "L070"]

/-- The codes of the issues that are graver under a core profile. -/
def gradedCodes : List String := ["L011", "L071", "L072"]

/-- The codes of the issues with the structure of a document. -/
def structuralCodes : List String :=
  ["L012", "L013", "L020", "L021", "L022", "L023", "L030", "L040", "L041", "L050"]

namespace Finding

/-- Whether a finding is about an issue that both profiles report. -/
def isShared (f : Finding) : Bool := f.code ∉ boundaryCodes

/-- The contents of a finding, without the severity where that depends on the profile. -/
def ungraded (f : Finding) : Option Severity × String × String × String × List Reference :=
  (if f.code ∈ gradedCodes then none else some f.severity, f.code, f.title, f.message, f.references)

/-- The contents of the findings that both profiles report. -/
def shared (fs : List Finding) :
    List (Option Severity × String × String × String × List Reference) :=
  (fs.filter isShared).map ungraded

theorem isShared_eq_of_key_eq (f g : Finding) (h : f.key = g.key) : f.isShared = g.isShared := by
  have hcode : f.code = g.code := congrArg (·.2.1) h
  rw [isShared, isShared, hcode]

theorem shared_append (fs gs : List Finding) : shared (fs ++ gs) = shared fs ++ shared gs := by
  rw [shared, List.filter_append, List.map_append]
  rfl

theorem shared_flatMap {α : Type} (as : List α) (g : α → List Finding) :
    shared (as.flatMap g) = as.flatMap fun a => shared (g a) := by
  rw [shared, List.filter_flatMap, List.map_flatMap]
  rfl

theorem shared_eq_nil {core : Bool} {kinds : List Diagnostic} {fs : List Finding}
    (h : Covers core kinds fs) (hkinds : ∀ d ∈ kinds, d.code ∈ boundaryCodes) : shared fs = [] := by
  rw [shared, List.map_eq_nil_iff, List.filter_eq_nil_iff]
  intro f hf
  obtain ⟨d, hd, message, rfl⟩ := h f hf
  have hcode : (d.finding (d.severity core) message).code ∈ boundaryCodes := hkinds d hd
  simp [isShared, hcode]

/-- The severity of issues that are graver under one of the profiles does not count. -/
theorem shared_map_finding {α : Type} {d : Diagnostic} (hd : d.code ∈ gradedCodes) (as : List α)
    (message : α → String) (s s' : Severity) :
    shared (as.map fun a => d.finding s (message a)) =
      shared (as.map fun a => d.finding s' (message a)) := by
  have hungraded : ∀ s a, (d.finding s (message a)).ungraded =
      (none, d.code, d.title, message a, d.links.map Link.reference) := by
    intro s a
    simp only [ungraded, finding, hd, if_true]
  have hisShared : ∀ s a, (d.finding s (message a)).isShared = decide (d.code ∉ boundaryCodes) :=
    fun s a => rfl
  simp only [shared, List.filter_map, List.map_map, Function.comp_def, hisShared, hungraded]

/-- A finding about the structure is told by its contents. -/
theorem eq_of_ungraded_eq {f g : Finding} (hf : f.code ∈ structuralCodes)
    (h : f.ungraded = g.ungraded) : f = g := by
  have hdisjoint : ∀ code ∈ structuralCodes, code ∉ gradedCodes := by decide
  obtain ⟨severity, code, title, message, references⟩ := f
  obtain ⟨severity', code', title', message', references'⟩ := g
  simp only [ungraded, Prod.mk.injEq] at h
  obtain ⟨hseverity, rfl, rfl, rfl, rfl⟩ := h
  rw [if_neg (hdisjoint code hf), if_neg (hdisjoint code hf)] at hseverity
  obtain rfl := Option.some.inj hseverity
  rfl

/-- What one list has of the structure, another with the same shared contents has too. -/
theorem mem_of_shared_eq {fs gs : List Finding} {f : Finding} (h : shared fs = shared gs)
    (hcode : f.code ∈ structuralCodes) (hf : f ∈ fs) : f ∈ gs := by
  have hdisjoint : ∀ code ∈ structuralCodes, code ∉ boundaryCodes := by decide
  have hmem : f.ungraded ∈ shared fs := by
    refine List.mem_map_of_mem (List.mem_filter.mpr ⟨hf, ?_⟩)
    exact decide_eq_true (hdisjoint f.code hcode)
  rw [h] at hmem
  obtain ⟨g, hg, hungraded⟩ := List.mem_map.mp hmem
  rw [eq_of_ungraded_eq hcode hungraded.symm]
  exact (List.mem_filter.mp hg).1

end Finding

namespace Context

/-- A context under the profile of a subset and a version. -/
def inSubset (c : Context) (subset : Subset) (version : String) : Context :=
  { c with profile := Profile.ofSubset subset version }

end Context

variable (c : Context) (n : Node) (version : String)

/-! ## The checks that look at the profile -/

namespace Structure

open Finding

theorem tag_of_unknown (h : c.rules.knows n.tag = false) :
    tag c n = .ok [unknownTag.finding .warn
      s!"Element <{n.tag}> is not recognized in the current lint profile."] := by
  unfold tag
  rw [h]
  rfl

theorem tag_of_known {outside : List Finding} (h : c.rules.knows n.tag = true)
    (houtside : boundary c n = .ok outside) : tag c n = .ok (outside ++ legacy c n) := by
  unfold tag
  rw [h, houtside]
  rfl

theorem boundary_presentation :
    boundary (c.inSubset .presentation version) n = .ok [] := rfl

theorem boundary_core :
    ∃ outside, boundary (c.inSubset .core version) n = .ok outside ∧ shared outside = [] := by
  by_cases hinside : ((c.rules.specs n.tag).contains "mathml-core" ||
      isAnnotationContent (c.inSubset .core version) n) = true
  · exact ⟨[], if_pos hinside, rfl⟩
  · exact ⟨_, if_neg hinside, rfl⟩

theorem shared_legacy :
    shared (legacy (c.inSubset .presentation version) n) =
      shared (legacy (c.inSubset .core version) n) := by
  unfold legacy
  by_cases hdeprecated : (c.rules.rule? n.tag).any (·.deprecated) = true
  · simp only [Context.inSubset, hdeprecated, if_true]
    rfl
  · simp only [Context.inSubset, hdeprecated, Bool.false_eq_true, if_false]

/-- The tag of an element is checked alike, but for what is outside of MathML Core. -/
theorem tag_presentation_core :
    ∃ presentation core,
      tag (c.inSubset .presentation version) n = .ok presentation ∧
      tag (c.inSubset .core version) n = .ok core ∧
      (∀ f ∈ presentation, f.code ≠ "L070") ∧ shared presentation = shared core := by
  cases hknown : c.rules.knows n.tag with
  | false =>
    refine ⟨_, _, tag_of_unknown (c.inSubset .presentation version) n hknown,
      tag_of_unknown (c.inSubset .core version) n hknown, ?_, rfl⟩
    intro f hf
    rw [List.mem_singleton.mp hf]
    exact (by decide : unknownTag.code ≠ "L070")
  | true =>
    obtain ⟨outside, houtside, hshared⟩ := boundary_core c n version
    refine ⟨_, _,
      tag_of_known (c.inSubset .presentation version) n hknown (boundary_presentation c n version),
      tag_of_known (c.inSubset .core version) n hknown houtside, ?_, ?_⟩
    · intro f hf
      exact (covers_legacy _ n).code_ne (by decide) hf
    · rw [shared_append, shared_append, hshared, shared_legacy]
      rfl

/-- Support in MathML Core is checked alike, but for the severity. -/
theorem shared_coreSupport :
    shared (coreSupport (c.inSubset .presentation version) n) =
      shared (coreSupport (c.inSubset .core version) n) := by
  unfold coreSupport
  generalize (c.inSubset .presentation version).coreSeverity = s
  generalize (c.inSubset .core version).coreSeverity = s'
  rw [shared_append, shared_append, shared_flatMap, shared_flatMap]
  refine congrArg₂ (· ++ ·) ?_ (List.flatMap_congr fun a _ => ?_)
  · exact shared_map_finding (by decide) _ _ s s'
  · exact shared_map_finding (by decide) _ _ s s'

end Structure

namespace Ambiguity

open Finding

/-- Annotations are checked alike, but for the hint at an empty `semantics`. -/
theorem shared_semantics :
    shared (semantics (c.inSubset .presentation version) n) =
      shared (semantics (c.inSubset .core version) n) := by
  have hbare {p : Prop} [Decidable p] {message : String} :
      shared (if p then [bareSemantics.finding .info message] else []) = [] := by
    have hcovers : Covers false [bareSemantics]
        (if p then [bareSemantics.finding .info message] else []) :=
      .ite (.single (List.mem_singleton.mpr rfl) rfl) .nil
    exact shared_eq_nil hcovers (by decide)
  unfold semantics
  split
  · rw [shared_append, shared_append, hbare, hbare]
  · rfl

/-- A core profile does not hint at an empty `semantics`. -/
theorem covers_semantics_core (core : Bool) :
    Covers core [.annotationFallback] (semantics (c.inSubset .core version) n) :=
  .ite (.append (.ite (.single (by decide) rfl) .nil) .nil) .nil

theorem shared_hints :
    shared (hints (c.inSubset .presentation version) n) =
      shared (hints (c.inSubset .core version) n) := by
  rw [shared_eq_nil (covers_hints _ n false) (by decide),
    shared_eq_nil (covers_hints _ n false) (by decide)]

end Ambiguity

/-! ## All checks -/

namespace Check

open Finding

/-- The checks that look at the profile. -/
def profileChecks : List Check := [tag, coreSupport, semantics, hints]

theorem reports_coreSupport : reports c n coreSupport = Structure.coreSupport c n := rfl

theorem reports_semantics : reports c n semantics = Ambiguity.semantics c n := rfl

theorem reports_hints : reports c n hints = Ambiguity.hints c n := rfl

/-- All other checks report the same under every profile. -/
theorem run_withProfile (p : Profile) {k : Check} (hk : k ∉ profileChecks) :
    k.run { c with profile := p } n = k.run c n := by
  cases k with
  | tag | coreSupport | semantics | hints => exact absurd (by decide) hk
  | _ => rfl

theorem run_inSubset {k : Check} (hk : k ∉ profileChecks) :
    k.run (c.inSubset .presentation version) n = k.run (c.inSubset .core version) n :=
  (run_withProfile c n _ hk).trans (run_withProfile c n _ hk).symm

/-- Of the checks that look at the profile, none fails. -/
theorem run_ok_of_profileChecks {k : Check} (hk : k ∈ profileChecks) :
    (∃ fs, k.run (c.inSubset .presentation version) n = .ok fs) ∧
      ∃ fs, k.run (c.inSubset .core version) n = .ok fs := by
  obtain ⟨presentation, core, hpresentation, hcore, -⟩ :=
    Structure.tag_presentation_core c n version
  simp only [profileChecks, List.mem_cons, List.not_mem_nil, or_false] at hk
  rcases hk with rfl | rfl | rfl | rfl
  · exact ⟨⟨presentation, hpresentation⟩, core, hcore⟩
  · exact ⟨⟨_, rfl⟩, _, rfl⟩
  · exact ⟨⟨_, rfl⟩, _, rfl⟩
  · exact ⟨⟨_, rfl⟩, _, rfl⟩

/-- A check fails under both profiles or under none. -/
theorem run_error_iff (k : Check) :
    (∃ e, k.run (c.inSubset .presentation version) n = .error e) ↔
      ∃ e, k.run (c.inSubset .core version) n = .error e := by
  by_cases hk : k ∈ profileChecks
  · obtain ⟨⟨fs, hfs⟩, gs, hgs⟩ := run_ok_of_profileChecks c n version hk
    rw [hfs, hgs]
    simp
  · rw [run_inSubset c n version hk]

/-- Both profiles report the same, up to what a profile is for. -/
theorem shared_reports (k : Check) :
    shared (reports (c.inSubset .presentation version) n k) =
      shared (reports (c.inSubset .core version) n k) := by
  by_cases hk : k ∈ profileChecks
  · simp only [profileChecks, List.mem_cons, List.not_mem_nil, or_false] at hk
    rcases hk with rfl | rfl | rfl | rfl
    · obtain ⟨presentation, core, hpresentation, hcore, -, hshared⟩ :=
        Structure.tag_presentation_core c n version
      rw [reports_of_ok (k := tag) hpresentation, reports_of_ok (k := tag) hcore, hshared]
    · rw [reports_coreSupport, reports_coreSupport, Structure.shared_coreSupport]
    · rw [reports_semantics, reports_semantics, Ambiguity.shared_semantics]
    · rw [reports_hints, reports_hints, Ambiguity.shared_hints]
  · rw [reports, reports, run_inSubset c n version hk]

/-- A presentation profile reports nothing as outside of a subset. -/
theorem code_ne_of_mem_reports_presentation {k : Check} {f : Finding}
    (hf : f ∈ reports (c.inSubset .presentation version) n k) : f.code ≠ "L070" := by
  have hother : ∀ k ∈ all, k ≠ tag → "L070" ∉ k.diagnostics.map Diagnostic.code := by decide
  by_cases hk : k = tag
  · subst hk
    obtain ⟨presentation, core, hpresentation, -, hnone, -⟩ :=
      Structure.tag_presentation_core c n version
    rw [reports_of_ok (k := tag) hpresentation] at hf
    exact hnone f hf
  · exact (covers_reports _ n k).code_ne (hother k (mem_all k) hk) hf

/-- A core profile gives no hints about meaning. -/
theorem code_not_mem_of_mem_reports_core {k : Check} {f : Finding}
    (hf : f ∈ reports (c.inSubset .core version) n k) : f.code ∉ ["L060", "L061", "L062"] := by
  have hother : ∀ k ∈ all, k ≠ hints → k ≠ semantics →
      ∀ d ∈ k.diagnostics, d.code ∉ ["L060", "L061", "L062"] := by decide
  by_cases hhints : k = hints
  · subst hhints
    exact absurd hf List.not_mem_nil
  · by_cases hsemantics : k = semantics
    · subst hsemantics
      rw [reports_semantics] at hf
      have hcode := (Ambiguity.covers_semantics_core c n version false).code_mem hf
      rw [List.mem_singleton.mp hcode]
      decide
    · obtain ⟨d, hd, message, rfl⟩ := covers_reports _ n k f hf
      exact hother k (mem_all k) hhints hsemantics d hd

end Check

/-! ## Reports -/

section Reports

open Finding

variable {read : XmlReader} {checks : List Check} {source : String} {o : Options}

theorem shared_found :
    shared (found read (c.inSubset .presentation version) checks source) =
      shared (found read (c.inSubset .core version) checks source) := by
  unfold found Check.swept
  rw [shared_append, shared_append, shared_flatMap, shared_flatMap]
  refine congrArg _ (List.flatMap_congr fun n _ => ?_)
  rw [shared_flatMap, shared_flatMap]
  exact List.flatMap_congr fun k _ => Check.shared_reports c n version k

/-- Of all that is found in one run, the severity tells nothing apart. -/
theorem shared_findings {r : Report} (hr : lint read o checks source = .ok r) :
    shared r.findings =
      distinct (shared (found read (.ofProfile r.profile o) checks source)) := by
  refine map_filter_findings hr (by decide) isShared_eq_of_key_eq fun f hf g hg h => ?_
  simp only [ungraded, Prod.mk.injEq] at h
  exact (covers_found read _ checks source).eq_of_code_message hf hg h.2.1 h.2.2.2.1

theorem code_ne_of_mem_found_presentation {f : Finding}
    (hf : f ∈ found read (c.inSubset .presentation version) checks source) : f.code ≠ "L070" := by
  rcases List.mem_append.mp hf with hf | hf
  · exact (covers_opening false read source).code_ne (by decide) hf
  · obtain ⟨n, -, k, -, hf⟩ := Check.mem_swept.mp hf
    exact Check.code_ne_of_mem_reports_presentation c n version hf

theorem code_not_mem_of_mem_found_core {f : Finding}
    (hf : f ∈ found read (c.inSubset .core version) checks source) :
    f.code ∉ ["L060", "L061", "L062"] := by
  rcases List.mem_append.mp hf with hf | hf
  · have hother : ∀ d ∈ openingKinds, d.code ∉ ["L060", "L061", "L062"] := by decide
    obtain ⟨d, hd, message, rfl⟩ := covers_opening false read source f hf
    exact hother d hd
  · obtain ⟨n, -, k, -, hf⟩ := Check.mem_swept.mp hf
    exact Check.code_not_mem_of_mem_reports_core c n version hf

/-- Under options that differ in the subset of the profile, linting fails in the same cases and
reports the same, up to what a profile is for. -/
theorem lint_presentation_core {v : Version} {p q : Options}
    (hp : p.profile.profile = .ok (Profile.ofSubset .presentation v.name))
    (hq : q.profile.profile = .ok (Profile.ofSubset .core v.name))
    (hignore : p.ignoreMetadata = q.ignoreMetadata)
    (hprefixes : p.metadataPrefixes = q.metadataPrefixes) :
    ((∃ e, lint read p checks source = .error e) ↔ ∃ e, lint read q checks source = .error e) ∧
    ∀ r s, lint read p checks source = .ok r → lint read q checks source = .ok s →
      (∀ f ∈ r.findings, f.code ≠ "L070") ∧
      (∀ f ∈ s.findings, f.code ∉ ["L060", "L061", "L062"]) ∧
      shared r.findings = shared s.findings ∧
      ∀ f : Finding, f.code ∈ structuralCodes → (f ∈ r.findings ↔ f ∈ s.findings) := by
  have hcp : Context.ofProfile (.ofSubset .presentation v.name) p =
      (Context.ofProfile (.ofSubset .presentation v.name) p).inSubset .presentation v.name := rfl
  have hcq : Context.ofProfile (.ofSubset .core v.name) q =
      (Context.ofProfile (.ofSubset .presentation v.name) p).inSubset .core v.name := by
    simp only [Context.inSubset, Context.ofProfile, hignore, hprefixes]
    rfl
  constructor
  · rw [lint_error_iff hp, lint_error_iff hq, hcp, hcq]
    simp only [Check.run_error_iff]
  · intro r s hr hs
    have hrp : r.profile = .ofSubset .presentation v.name :=
      Except.ok.inj ((profile_of_lint hr).symm.trans hp)
    have hsq : s.profile = .ofSubset .core v.name :=
      Except.ok.inj ((profile_of_lint hs).symm.trans hq)
    have hshared : shared r.findings = shared s.findings := by
      rw [shared_findings hr, shared_findings hs, hrp, hsq, hcp, hcq, shared_found]
    refine ⟨?_, ?_, hshared, fun f hcode => ⟨?_, ?_⟩⟩
    · refine forall_findings hr (by decide) fun f hf => ?_
      rw [hrp, hcp] at hf
      exact code_ne_of_mem_found_presentation _ _ hf
    · refine forall_findings hs (by decide) fun f hf => ?_
      rw [hsq, hcq] at hf
      exact code_not_mem_of_mem_found_core _ _ hf
    · exact mem_of_shared_eq hshared hcode
    · exact mem_of_shared_eq hshared.symm hcode

/-- A document with an issue of every kind that the two profiles treat in different ways. -/
def semanticsSource : String := "<math><semantics><mfenced><mn>1x</mn></mfenced></semantics></math>"

/-- The law on `semanticsSource`, under the two profiles of version 4. -/
theorem lint_presentation_core_semantics :
    ∃ r s,
      lint readXml { profile := .named (.str "presentation-mathml4") } Check.all semanticsSource =
        .ok r ∧
      lint readXml { profile := .named (.str "core-mathml4") } Check.all semanticsSource = .ok s ∧
      r.codes = ["L005", "L071", "L062", "L011", "L071", "L061"] ∧
      s.codes = ["L005", "L071", "L070", "L011", "L071"] ∧
      shared r.findings = shared s.findings := by
  obtain ⟨r, hr, hrcodes⟩ : ∃ r, lint readXml { profile := .named (.str "presentation-mathml4") }
      Check.all semanticsSource = .ok r ∧
      r.codes = ["L005", "L071", "L062", "L011", "L071", "L061"] :=
    exists_report_of_codes (by decide +kernel)
  obtain ⟨s, hs, hscodes⟩ : ∃ s, lint readXml { profile := .named (.str "core-mathml4") }
      Check.all semanticsSource = .ok s ∧ s.codes = ["L005", "L071", "L070", "L011", "L071"] :=
    exists_report_of_codes (by decide +kernel)
  have hp : (ProfileChoice.named (.str "presentation-mathml4")).profile =
      .ok (Profile.ofSubset .presentation Version.mathml4.name) := rfl
  have hq : (ProfileChoice.named (.str "core-mathml4")).profile =
      .ok (Profile.ofSubset .core Version.mathml4.name) := rfl
  have law := @lint_presentation_core readXml Check.all semanticsSource .mathml4
    { profile := .named (.str "presentation-mathml4") }
    { profile := .named (.str "core-mathml4") } hp hq rfl rfl
  obtain ⟨-, -, hshared, -⟩ := law.2 r s hr hs
  exact ⟨r, s, hr, hs, hrcodes, hscodes, hshared⟩

end Reports

end MathLint

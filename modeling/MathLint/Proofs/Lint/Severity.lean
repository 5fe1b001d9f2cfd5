import MathLint.Proofs.Lint.Basic
import MathLint.Proofs.Options
import MathLint.Proofs.Schema.Version
import MathLint.Proofs.Text.Lowercase

/-!
# Errors and the exit status

How grave an issue is follows from its kind and from the profile, and only two kinds of issues can
be errors: a source that is no XML, and a legacy element under a profile of MathML Core. So whether
a report has errors, and with it the exit status of the program, can be told from the document.

* `isErroneous`: what makes the report on a source one with errors.
* `Check.anyError_swept`: the errors of a sweep.
* `hasErrors_of_lint`: the errors of a report.
* `lint_severity`: the severities of a report, and the exit status.
-/

namespace MathLint

open Diagnostic

/-! ## Legacy elements -/

/-- Whether the rule of an element marks it as legacy. -/
def isLegacy (c : Context) (n : Node) : Bool := (c.rules.rule? n.tag).any (·.deprecated)

/-- The tags of the legacy elements. -/
def legacyTags : List String := ["mfenced", "declare"]

namespace RuleSet

/-- The linter's own overrides leave open whether an element is legacy. -/
theorem deprecated_overridden (r : Rule) : (overridden r).deprecated = r.deprecated := by
  have hopen : ∀ o ∈ localOverrides, o.2.deprecated = none := by decide
  unfold overridden
  cases hlookup : localOverrides.lookup r.tag with
  | none => rfl
  | some o =>
    obtain ⟨before, behind, hsplit, -⟩ := List.lookup_eq_some_iff.mp hlookup
    have ho : o.deprecated = none := hopen (r.tag, o) (by simp [hsplit])
    simp only [Rule.merge, ho, Option.getD_none]

/-- The legacy elements have the same tags in all versions. -/
theorem any_deprecated_ofVersion (v : Version) (tag : String) :
    ((ofVersion v).rule? tag).any (·.deprecated) = true ↔ Text.lower tag ∈ legacyTags := by
  have hcatalog : ∀ r ∈ Catalog.presentation ++ Catalog.content, r.deprecated = true →
      r.tag ∈ legacyTags := by decide +kernel
  have hfind : ∀ tag ∈ legacyTags,
      ((Catalog.presentation ++ Catalog.content).find? (·.tag == tag)).any (·.deprecated) =
        true := by
    decide +kernel
  have hrule : ((ofVersion v).rule? tag).any (·.deprecated) =
      ((Catalog.presentation ++ Catalog.content).find? (·.tag == Text.lower tag)).any
        (·.deprecated) := by
    rw [rule?_ofVersion, List.find?_append]
    cases Catalog.presentation.find? (·.tag == Text.lower tag) with
    | some r => simp [deprecated_overridden]
    | none =>
      cases Catalog.content.find? (·.tag == Text.lower tag) with
      | some r => simp [deprecated_overridden]
      | none => rfl
  rw [hrule]
  constructor
  · intro h
    obtain ⟨r, hr, hdeprecated⟩ := Option.any_eq_true _ _ |>.mp h
    have htag : r.tag = Text.lower tag := by simpa using List.find?_some hr
    rw [← htag]
    exact hcatalog r (List.mem_of_find?_eq_some hr) hdeprecated
  · exact hfind _

/-- A legacy tag counts in capitals, too. -/
example : ["MFENCED", "mrow"].map (fun tag => ((ofVersion .mathml4).rule? tag).any (·.deprecated)) =
    [true, false] := by
  decide +kernel

/-- A tag with a rule is known. -/
theorem knows_of_rule? {b : Bundle} {overrides : List (String × Override)} {tag : String} {r : Rule}
    (h : (build b overrides).rule? tag = some r) : (build b overrides).knows tag = true := by
  have htags : (build b overrides).rules.map (·.tag) = b.knownTags := by
    rw [build, List.map_map]
    refine List.map_congr_left fun r _ => ?_
    dsimp only [Function.comp_apply]
    split <;> rfl
  have htag : r.tag = Text.lower tag := by simpa using List.find?_some h
  have hmem : r.tag ∈ (build b overrides).rules.map (·.tag) :=
    List.mem_map_of_mem (List.mem_of_find?_eq_some h)
  rw [htags, htag] at hmem
  exact List.contains_iff_mem.mpr hmem

theorem knows_ofVersion {v : Version} {tag : String} {r : Rule}
    (h : (ofVersion v).rule? tag = some r) : (ofVersion v).knows tag = true := by
  cases v <;> exact knows_of_rule? h

end RuleSet

theorem exists_rules_ofProfile (p : Profile) (o : Options) :
    ∃ v, (Context.ofProfile p o).rules = RuleSet.ofVersion v := ⟨_, rfl⟩

/-- The legacy elements under any profile and any options. -/
theorem isLegacy_iff (p : Profile) (o : Options) (n : Node) :
    isLegacy (.ofProfile p o) n = true ↔ n.tag ∈ legacyTags := by
  obtain ⟨v, hv⟩ := exists_rules_ofProfile p o
  rw [isLegacy, hv, RuleSet.any_deprecated_ofVersion]
  exact Text.lower_lower_mem_iff (by decide) _

/-! ## Errors -/

section Errors

open Finding

variable {c : Context} {n : Node} {fs : List Finding}

theorem anyError_append (fs gs : List Finding) :
    anyError (fs ++ gs) = (anyError fs || anyError gs) := List.any_append

theorem anyError_flatMap {α : Type} (as : List α) (f : α → List Finding) :
    anyError (as.flatMap f) = as.any fun a => anyError (f a) := List.any_flatMap

/-- There are no errors where no kind of issue is one. -/
theorem anyError_of_covers {core : Bool} {kinds : List Diagnostic} (h : Covers core kinds fs)
    (hkinds : ∀ d ∈ kinds, ∀ core, d.severity core ≠ .error) : anyError fs = false := by
  refine List.any_eq_false.mpr fun f hf herror => ?_
  obtain ⟨d, hd, message, rfl⟩ := h f hf
  exact hkinds d hd core (beq_iff_eq.mp herror)

theorem anyError_legacy (c : Context) (n : Node) :
    anyError (Structure.legacy c n) = (c.profile.isCore && isLegacy c n) := by
  unfold Structure.legacy isLegacy
  cases c.profile.isCore <;> cases (c.rules.rule? n.tag).any (·.deprecated) <;> rfl

theorem anyError_tag (hknown : isLegacy c n = true → c.rules.knows n.tag = true)
    (h : Structure.tag c n = .ok fs) : anyError fs = (c.profile.isCore && isLegacy c n) := by
  unfold Structure.tag at h
  cases hknows : c.rules.knows n.tag with
  | false =>
    rw [hknows] at h
    cases h
    rw [Bool.eq_false_iff.mpr fun hl => Bool.false_ne_true (hknows ▸ hknown hl), Bool.and_false]
    rfl
  | true =>
    rw [hknows] at h
    cases hb : Structure.boundary c n with
    | error e => rw [hb] at h; cases h
    | ok outside =>
      rw [hb] at h
      cases h
      have houtside := Structure.covers_boundary c n false hb
      rw [anyError_append, anyError_of_covers houtside (by decide), Bool.false_or, anyError_legacy]

/-- Errors are found by one check only, on legacy elements. -/
theorem anyError_reports (hknown : isLegacy c n = true → c.rules.knows n.tag = true) {k : Check}
    (h : k.run c n = .ok (Check.reports c n k)) :
    anyError (Check.reports c n k) = (k == .tag && (c.profile.isCore && isLegacy c n)) := by
  by_cases hk : k = .tag
  · subst hk
    rw [beq_self_eq_true, Bool.true_and]
    exact anyError_tag hknown h
  · have hkinds : ∀ k ∈ Check.all, k ≠ .tag → ∀ d ∈ k.diagnostics, ∀ core,
        d.severity core ≠ .error := by decide
    rw [beq_eq_false_iff_ne.mpr hk, Bool.false_and,
      anyError_of_covers (Check.covers_reports c n k) (hkinds k (Check.mem_all k) hk)]

/-- A sweep finds errors exactly if there is a legacy element under a profile of MathML Core. -/
theorem anyError_swept {nodes : List Node}
    (hknown : ∀ n, isLegacy c n = true → c.rules.knows n.tag = true)
    (h : ∀ n ∈ nodes, ∀ k ∈ Check.all, k.run c n = .ok (Check.reports c n k)) :
    anyError (Check.swept c Check.all nodes) = (c.profile.isCore && nodes.any (isLegacy c)) := by
  have hnode : ∀ n ∈ nodes, ∀ k ∈ Check.all, anyError (Check.reports c n k) = true ↔
      k = .tag ∧ c.profile.isCore = true ∧ isLegacy c n = true := by
    intro n hn k hk
    rw [anyError_reports (hknown n) (h n hn k hk), Bool.and_eq_true, Bool.and_eq_true, beq_iff_eq]
  rw [Bool.eq_iff_iff, Check.swept, anyError_flatMap, Bool.and_eq_true, List.any_eq_true,
    List.any_eq_true]
  constructor
  · rintro ⟨n, hn, herror⟩
    rw [anyError_flatMap, List.any_eq_true] at herror
    obtain ⟨k, hk, herror⟩ := herror
    obtain ⟨-, hcore, hlegacy⟩ := (hnode n hn k hk).mp herror
    exact ⟨hcore, n, hn, hlegacy⟩
  · rintro ⟨hcore, n, hn, hlegacy⟩
    refine ⟨n, hn, ?_⟩
    rw [anyError_flatMap, List.any_eq_true]
    exact ⟨.tag, Check.mem_all _, (hnode n hn _ (Check.mem_all _)).mpr ⟨rfl, hcore, hlegacy⟩⟩

/-- What is said of a source before any check runs is an error exactly if it is no XML. -/
theorem anyError_opening (read : XmlReader) (source : String) :
    anyError (opening read source) =
      (!Text.isBlankText source && !(read (AssumedPrefix.declare source).1).isOk) := by
  unfold opening
  cases Text.isBlankText source with
  | true => rfl
  | false =>
    cases read (AssumedPrefix.declare source).1 with
    | error reason => rfl
    | ok root =>
      have hdisclosed := covers_disclosed false source
      have hroot := covers_rootFindings false root
        (RootTag.rootName (AssumedPrefix.declare source).1)
      have happend := anyError_append (AssumedPrefix.declare source).2.toList
        (rootFindings root (RootTag.rootName (AssumedPrefix.declare source).1))
      rw [anyError_of_covers hdisclosed (by decide),
        anyError_of_covers hroot (by decide)] at happend
      exact happend

theorem anyError_unique (fs : List Finding) : anyError (unique fs) = anyError fs := by
  have hkey : ∀ gs : List Finding, anyError gs = true ↔ ∃ k ∈ gs.map key, k.1 = .error := by
    simp [anyError, key]
  rw [Bool.eq_iff_iff, hkey, hkey]
  simp only [unique, mem_map_distinctBy]

theorem anyError_orNoFindings (fs : List Finding) : anyError (orNoFindings fs) = anyError fs := by
  cases fs <;> rfl

end Errors

/-- Whether the report on a source has errors: the source is not blank and no XML, or there is a
legacy element in it and the profile is one of MathML Core. -/
def isErroneous (read : XmlReader) (c : Context) (source : String) : Bool :=
  (!Text.isBlankText source && !(read (AssumedPrefix.declare source).1).isOk) ||
    (c.profile.isCore && (lintedNodes read source).any (isLegacy c))

section Reports

variable {read : XmlReader} {o : Options} {source : String} {r : Report}

/-- The errors of a report. -/
theorem hasErrors_of_lint (hr : lint read o Check.all source = .ok r) :
    r.hasErrors = isErroneous read (.ofProfile r.profile o) source := by
  have hknown : ∀ n, isLegacy (.ofProfile r.profile o) n = true →
      (Context.ofProfile r.profile o).rules.knows n.tag = true := by
    intro n hlegacy
    obtain ⟨v, hv⟩ := exists_rules_ofProfile r.profile o
    rw [isLegacy, hv] at hlegacy
    obtain ⟨rule, hrule, -⟩ := Option.any_eq_true _ _ |>.mp hlegacy
    rw [hv]
    exact RuleSet.knows_ofVersion hrule
  rw [Report.hasErrors, findings_of_lint hr, anyError_orNoFindings, anyError_unique, found,
    anyError_append, anyError_opening, anyError_swept hknown (run_of_lint hr)]
  rfl

/-- The kind of an issue says how grave it is. -/
theorem exists_diagnostic_of_lint {checks : List Check}
    (hr : lint read o checks source = .ok r) :
    ∀ f ∈ r.findings, ∃ d message, f = finding d (d.severity r.profile.isCore) message := by
  refine forall_findings hr ⟨.noFindings, _, rfl⟩ fun f hf => ?_
  obtain ⟨d, -, message, rfl⟩ :=
    covers_found read (.ofProfile r.profile o) checks source f hf
  exact ⟨d, message, rfl⟩

theorem severity_mem (core : Bool) (d : Diagnostic) :
    d.severity core ∈ [.ok, .info, .warn, .error] := by
  cases core <;> cases d <;> decide

end Reports

/-! ## The exit status -/

namespace CommandLine

/-- Whether a text can be read from a path. The path `-` stands for the standard input. -/
def Reads (readFile : String → Except ReadError (List UInt8)) (stdin path text : String) : Prop :=
  if path = "-" then text = stdin
  else '\x00' ∉ path.toList ∧ ∃ octets, readFile path = .ok octets ∧ decode octets = .ok text

theorem run_of_reads {settings : Settings} {read : XmlReader}
    {readFile : String → Except ReadError (List UInt8)} {stdin source : String}
    {arguments : List String} {job : Arguments.Job}
    (hjob : Arguments.read settings arguments = .ok job)
    (hsource : Reads readFile stdin job.path source) :
    run settings read readFile stdin arguments = lintSource settings read job source := by
  unfold Reads at hsource
  unfold run
  rw [hjob]
  dsimp only
  split at hsource
  · rename_i hpath
    rw [hsource, hpath]
    rfl
  · rename_i hpath
    obtain ⟨hnul, octets, hread, hdecode⟩ := hsource
    rw [if_neg (by simpa using hpath), if_neg (by simpa using hnul), hread]
    dsimp only
    rw [hdecode]
    rfl

end CommandLine

open CommandLine

/-- In a report the code of a finding tells its severity and its title, and there are errors exactly
if the source is not blank and no XML, or has a legacy element under a profile of MathML Core. The
exit status of the program says so, whatever the settings are. -/
theorem lint_severity {read : XmlReader} {o : Options} {source : String} {r : Report}
    (hr : lint read o Check.all source = .ok r) :
    o.profile.profile = .ok r.profile ∧
    (∀ f ∈ r.findings, ∀ g ∈ r.findings, f.code = g.code →
      f.severity = g.severity ∧ f.title = g.title) ∧
    (∀ f ∈ r.findings, f.severity ∈ [.ok, .info, .warn, .error]) ∧
    ((∃ f ∈ r.findings, f.severity = .error) ↔
      isErroneous read (.ofProfile r.profile o) source = true) ∧
    (∀ n, isLegacy (.ofProfile r.profile o) n = true ↔ n.tag = "mfenced" ∨ n.tag = "declare") ∧
    ∀ (settings : Settings) (readFile : String → Except ReadError (List UInt8)) (stdin : String)
      (arguments : List String) (job : Arguments.Job),
      Arguments.read settings arguments = .ok job → optionsOf settings job = o →
      Reads readFile stdin job.path source →
      ∃ outcome, run settings read readFile stdin arguments = .ok outcome ∧
        outcome.exit = if isErroneous read (.ofProfile r.profile o) source then 1 else 0 := by
  have hkinds := exists_diagnostic_of_lint hr
  have herrors := hasErrors_of_lint hr
  refine ⟨profile_of_lint hr, fun f hf g hg hcode => ?_, fun f hf => ?_, ?_, fun n => ?_, ?_⟩
  · obtain ⟨d, message, rfl⟩ := hkinds f hf
    obtain ⟨e, message', rfl⟩ := hkinds g hg
    obtain rfl : d = e := code_injective hcode
    exact ⟨rfl, rfl⟩
  · obtain ⟨d, message, rfl⟩ := hkinds f hf
    exact severity_mem _ d
  · rw [← herrors]
    simp [Report.hasErrors, Finding.anyError]
  · rw [isLegacy_iff]
    simp [legacyTags]
  · rintro settings readFile stdin arguments job hjob rfl hsource
    refine ⟨reported job.json r, ?_, ?_⟩
    · rw [run_of_reads hjob hsource, lintSource, hr]
      rfl
    · rw [← herrors]
      rfl

/-- A formula with a legacy element. -/
def legacyFormula : String := "<math><mfenced/></math>"

/-- The law on `legacyFormula` at the standard input, under a profile of MathML Core and under the
profile that is taken if none is given. -/
theorem lint_severity_legacyFormula :
    let noFile : String → Except ReadError (List UInt8) := fun _ => .error .missing
    (∃ outcome, run .usual readXml noFile legacyFormula ["--profile", "core-mathml3", "-"] =
        .ok outcome ∧ outcome.exit = 1) ∧
    ∃ outcome, run .usual readXml noFile legacyFormula ["-"] = .ok outcome ∧ outcome.exit = 0 := by
  intro noFile
  let core : Arguments.Job := ⟨"-", "core-mathml3", false, false⟩
  let plain : Arguments.Job := ⟨"-", "authoring-guidance", false, false⟩
  have hcore : Arguments.read .usual ["--profile", "core-mathml3", "-"] = .ok core := by
    decide +kernel
  have hplain : Arguments.read .usual ["-"] = .ok plain := by decide +kernel
  obtain ⟨r, hr, -⟩ : ∃ r, lint readXml (optionsOf .usual core) Check.all legacyFormula = .ok r ∧
      r.codes = ["L005", "L070", "L011", "L071"] := exists_report_of_codes (by decide +kernel)
  obtain ⟨r', hr', -⟩ : ∃ r,
      lint readXml (optionsOf .usual plain) Check.all legacyFormula = .ok r ∧
      r.codes = ["L005", "L011", "L071"] := exists_report_of_codes (by decide +kernel)
  obtain ⟨hprofile, -, -, -, -, hexit⟩ := lint_severity hr
  obtain ⟨hprofile', -, -, -, -, hexit'⟩ := lint_severity hr'
  have hcoreProfile : r.profile = .ofSubset .core "mathml3" :=
    (Except.ok.inj (hprofile.symm.trans (profile_optionsOf .usual core))).trans (by decide)
  have hplainProfile : r'.profile = .default :=
    (Except.ok.inj (hprofile'.symm.trans (profile_optionsOf .usual plain))).trans (by decide)
  have herror : isErroneous readXml
      (.ofProfile (.ofSubset .core "mathml3") (optionsOf .usual core)) legacyFormula = true := by
    decide +kernel
  have hnone : isErroneous readXml
      (.ofProfile .default (optionsOf .usual plain)) legacyFormula = false := by decide +kernel
  rw [hcoreProfile, herror] at hexit
  rw [hplainProfile, hnone] at hexit'
  exact ⟨hexit .usual noFile _ _ core hcore rfl rfl, hexit' .usual noFile _ _ plain hplain rfl rfl⟩

end MathLint

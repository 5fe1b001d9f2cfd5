import MathLint.Proofs.Lint.Basic
import MathLint.Proofs.RootTag

/-!
# The shape of a report

A report takes one of three forms. A blank source and a source that is no XML have one finding
each. On a document, the report lists the disclosure of an assumed prefix, what is said of the
root, and what the checks report, node by node; a finding whose key occurred before is left out,
and a report that would be empty has one finding that says so.

* `findings_of_blank`, `findings_of_rejected`, `findings_of_document`: the three forms.
* `lint_shape`: all of it for every report.
-/

namespace MathLint

open Diagnostic

variable {read : XmlReader} {o : Options} {checks : List Check} {source : String} {r : Report}

/-! ## The three forms -/

theorem findings_of_blank (hblank : Text.isBlankText source)
    (hr : lint read o checks source = .ok r) : r.findings = [emptyExpression] := by
  rw [findings_of_lint hr]
  simp [found, opening, lintedNodes, hblank, Check.swept, Finding.unique, distinctBy, orNoFindings]

theorem findings_of_rejected {reason : String} (hblank : ¬ Text.isBlankText source)
    (hread : read (AssumedPrefix.declare source).1 = .error reason)
    (hr : lint read o checks source = .ok r) : r.findings = [invalidXml reason] := by
  rw [findings_of_lint hr]
  simp [found, opening, lintedNodes, hblank, hread, Check.swept, Finding.unique, distinctBy,
    orNoFindings]

/-- What is found in a document. -/
theorem found_of_document {c : Context} {root : Xml.Element} (hblank : ¬ Text.isBlankText source)
    (hread : read (AssumedPrefix.declare source).1 = .ok root) :
    found read c checks source =
      (AssumedPrefix.declare source).2.toList ++
        rootFindings root (RootTag.rootName (AssumedPrefix.declare source).1) ++
        Check.swept c checks (Node.root root).lintable := by
  simp [found, opening, lintedNodes, hblank, hread]

theorem orNoFindings_firsts (fs : List Finding) :
    orNoFindings (firsts Finding.key fs) =
      if fs = [] then [noFindings] else firsts Finding.key fs := by
  cases fs <;> simp [orNoFindings, firsts]

/-- The report on a document lists what is found for the first time. -/
theorem findings_of_document {root : Xml.Element} (hblank : ¬ Text.isBlankText source)
    (hread : read (AssumedPrefix.declare source).1 = .ok root)
    (hr : lint read o checks source = .ok r) :
    r.findings = orNoFindings (firsts Finding.key
      ((AssumedPrefix.declare source).2.toList ++
        rootFindings root (RootTag.rootName (AssumedPrefix.declare source).1) ++
        Check.swept (.ofProfile r.profile o) checks (Node.root root).lintable)) := by
  rw [findings_of_lint hr, found_of_document hblank hread, Finding.unique, distinctBy_eq_firsts]

/-! ## Findings that stand alone -/

/-- The codes of findings that stand alone. -/
def soleCodes : List String := ["L000", "L001", "L002"]

/-- Nothing that is found in a document has the code of a finding that stands alone. -/
theorem code_not_mem_soleCodes {c : Context} {root : Xml.Element} {f : Finding}
    (hblank : ¬ Text.isBlankText source) (hread : read (AssumedPrefix.declare source).1 = .ok root)
    (hf : f ∈ found read c checks source) : f.code ∉ soleCodes := by
  have hdisclosed : ∀ d ∈ [assumedNamespace], d.code ∉ soleCodes := by decide
  have hroot : ∀ d ∈ [unexpectedRoot, unexpectedNamespace, missingNamespace],
      d.code ∉ soleCodes := by decide
  have hchecks : ∀ d ∈ Check.kinds, d.code ∉ soleCodes := by decide
  rw [found_of_document hblank hread] at hf
  rcases List.mem_append.mp hf with hf | hf
  · rcases List.mem_append.mp hf with hf | hf
    · obtain ⟨d, hd, message, rfl⟩ := covers_disclosed false source f hf
      exact hdisclosed d hd
    · obtain ⟨d, hd, message, rfl⟩ := covers_rootFindings false root _ f hf
      exact hroot d hd
  · obtain ⟨d, hd, message, rfl⟩ := Check.covers_swept c checks _ f hf
    exact hchecks d hd

/-- In the report on a document, only the remark that nothing was found has such a code, and then
it is all there is. -/
theorem eq_of_mem_soleCodes {root : Xml.Element} {f : Finding} (hblank : ¬ Text.isBlankText source)
    (hread : read (AssumedPrefix.declare source).1 = .ok root)
    (hr : lint read o checks source = .ok r) (hf : f ∈ r.findings) (hcode : f.code ∈ soleCodes) :
    f = noFindings ∧ r.findings = [noFindings] := by
  have hfindings := findings_of_lint hr
  cases hfound : found read (.ofProfile r.profile o) checks source with
  | nil =>
    rw [hfound] at hfindings
    have hsole : r.findings = [noFindings] := hfindings
    rw [hsole] at hf
    exact ⟨List.mem_singleton.mp hf, hsole⟩
  | cons g gs =>
    have hne : Finding.unique (found read (.ofProfile r.profile o) checks source) ≠ [] := by
      rw [hfound]; simp [Finding.unique]
    rw [hfindings, orNoFindings_of_ne_nil hne] at hf
    exact absurd hcode (code_not_mem_soleCodes hblank hread (mem_of_mem_distinctBy hf))

/-- The report on a document is not taken for that on a blank source or on no XML. -/
theorem not_mem_codes_of_document {root : Xml.Element} {code : String}
    (hblank : ¬ Text.isBlankText source) (hread : read (AssumedPrefix.declare source).1 = .ok root)
    (hr : lint read o checks source = .ok r) (hsole : code ∈ soleCodes)
    (hne : code ≠ noFindings.code) : code ∉ r.codes := by
  intro hmem
  obtain ⟨f, hf, rfl⟩ := List.mem_map.mp hmem
  obtain ⟨rfl, -⟩ := eq_of_mem_soleCodes hblank hread hr hf hsole
  exact hne rfl

/-- What is said of the root is at most one finding. -/
theorem length_rootFindings_le (root : Xml.Element) (written : String) :
    (rootFindings root written).length ≤ 1 := by
  unfold rootFindings
  dsimp only
  split
  · simp
  · split
    · simp
    · split <;> simp

theorem code_mem_of_mem_rootFindings {root : Xml.Element} {written : String} {f : Finding}
    (hf : f ∈ rootFindings root written) : f.code ∈ ["L003", "L004", "L005"] :=
  (covers_rootFindings false root written).code_mem hf

/-! ## Every report -/

theorem invalidXml_injective {reason reason' : String}
    (h : invalidXml reason = invalidXml reason') : reason = reason' := by
  have hmessage : "MathML is not well-formed XML: " ++ reason =
      "MathML is not well-formed XML: " ++ reason' := congrArg Finding.message h
  have hchars := congrArg String.toList hmessage
  rw [String.toList_append, String.toList_append] at hchars
  exact String.toList_inj.mp (List.append_cancel_left hchars)

theorem nodup_map_key_of_lint (hr : lint read o checks source = .ok r) :
    (r.findings.map Finding.key).Nodup := by
  rw [findings_of_lint hr, ← unique_orNoFindings]
  exact nodup_map_distinctBy _

/-- A source is blank, or no XML, or a document. -/
theorem source_cases (read : XmlReader) (source : String) :
    Text.isBlankText source = true ∨
      (¬ Text.isBlankText source ∧
        ∃ reason, read (AssumedPrefix.declare source).1 = .error reason) ∨
      (¬ Text.isBlankText source ∧ ∃ root, read (AssumedPrefix.declare source).1 = .ok root) := by
  by_cases hblank : Text.isBlankText source
  · exact .inl hblank
  · cases hread : read (AssumedPrefix.declare source).1 with
    | error reason => exact .inr (.inl ⟨hblank, reason, rfl⟩)
    | ok root => exact .inr (.inr ⟨hblank, root, rfl⟩)

/-- A finding whose code marks a report as blank, no XML or clean is the only one. -/
theorem eq_singleton_of_mem_soleCodes (hr : lint read o checks source = .ok r) {f : Finding}
    (hf : f ∈ r.findings) (hcode : f.code ∈ soleCodes) : r.findings = [f] := by
  rcases source_cases read source with hblank | ⟨hblank, reason, hread⟩ | ⟨hblank, root, hread⟩
  · have hsole := findings_of_blank hblank hr
    rw [hsole] at hf ⊢
    rw [List.mem_singleton.mp hf]
  · have hsole := findings_of_rejected hblank hread hr
    rw [hsole] at hf ⊢
    rw [List.mem_singleton.mp hf]
  · obtain ⟨rfl, hsole⟩ := eq_of_mem_soleCodes hblank hread hr hf hcode
    exact hsole

theorem codes_eq_iff_blank (hr : lint read o checks source = .ok r) :
    r.codes = ["L001"] ↔ Text.isBlankText source = true := by
  constructor
  · intro hcodes
    rcases source_cases read source with hblank | ⟨hblank, reason, hread⟩ | ⟨hblank, root, hread⟩
    · exact hblank
    · rw [Report.codes, findings_of_rejected hblank hread hr] at hcodes
      have hcode : "L002" = "L001" := (List.cons.inj hcodes).1
      exact absurd hcode (by decide)
    · have hnot : "L001" ∉ r.codes :=
        not_mem_codes_of_document hblank hread hr (by decide) (by decide)
      rw [hcodes] at hnot
      exact absurd List.mem_cons_self hnot
  · intro hblank
    rw [Report.codes, findings_of_blank hblank hr]
    rfl

theorem codes_eq_iff_rejected (hr : lint read o checks source = .ok r) :
    r.codes = ["L002"] ↔ ¬ Text.isBlankText source ∧
      ∃ reason, read (AssumedPrefix.declare source).1 = .error reason := by
  constructor
  · intro hcodes
    rcases source_cases read source with hblank | hrejected | ⟨hblank, root, hread⟩
    · rw [Report.codes, findings_of_blank hblank hr] at hcodes
      exact absurd hcodes (by decide)
    · exact hrejected
    · have hnot : "L002" ∉ r.codes :=
        not_mem_codes_of_document hblank hread hr (by decide) (by decide)
      rw [hcodes] at hnot
      exact absurd List.mem_cons_self hnot
  · rintro ⟨hblank, reason, hread⟩
    rw [Report.codes, findings_of_rejected hblank hread hr]
    rfl

/-- A report says that nothing was found exactly if nothing is found. -/
theorem codes_eq_iff_found_nil (hr : lint read o checks source = .ok r) :
    r.codes = ["L000"] ↔ found read (.ofProfile r.profile o) checks source = [] := by
  have hfindings := findings_of_lint hr
  cases hfound : found read (.ofProfile r.profile o) checks source with
  | nil =>
    rw [hfound] at hfindings
    rw [Report.codes, hfindings]
    exact ⟨fun _ => rfl, fun _ => rfl⟩
  | cons f fs =>
    have hmem : f ∈ r.findings := by
      rw [hfindings, hfound]
      exact List.mem_cons_self
    have hcode := code_ne_of_mem_found (hfound ▸ List.mem_cons_self : f ∈ found ..)
    refine ⟨fun hcodes => ?_, fun h => by cases h⟩
    have : f.code ∈ r.codes := List.mem_map_of_mem hmem
    rw [hcodes] at this
    exact absurd (List.mem_singleton.mp this) hcode

/-- The shape of every report, whatever the reader of XML, the options and the checks are. -/
theorem lint_shape {given : Value} (hgiven : sourceOf given = .ok source)
    (hr : lint read o checks source = .ok r) :
    o.profile.profile = .ok r.profile ∧
    r.findings ≠ [] ∧
    (r.findings.map Finding.key).Nodup ∧
    (∀ f ∈ r.findings, f.code ∈ soleCodes → r.findings = [f]) ∧
    (r.codes = ["L001"] ↔ given = .null ∨ Text.isBlankText source) ∧
    (r.codes = ["L002"] ↔ ¬ Text.isBlankText source ∧
      ∃ reason, read (AssumedPrefix.declare source).1 = .error reason) ∧
    (∀ reason, r.findings = [invalidXml reason] ↔
      ¬ Text.isBlankText source ∧ read (AssumedPrefix.declare source).1 = .error reason) ∧
    ∀ root, ¬ Text.isBlankText source → read (AssumedPrefix.declare source).1 = .ok root →
      ∃ (reported : Node → Check → List Finding) (disclosed ofRoot sequence : List Finding),
        (∀ n ∈ (Node.root root).lintable, ∀ k ∈ checks,
          k.run (.ofProfile r.profile o) n = .ok (reported n k)) ∧
        disclosed = (if (AssumedPrefix.declare source).1 = source then []
          else [AssumedPrefix.disclosure]) ∧
        ofRoot = rootFindings root (RootTag.rootName (AssumedPrefix.declare source).1) ∧
        ofRoot.length ≤ 1 ∧ (∀ f ∈ ofRoot, f.code ∈ ["L003", "L004", "L005"]) ∧
        sequence = disclosed ++ ofRoot ++
          (Node.root root).lintable.flatMap (fun n => checks.flatMap (reported n)) ∧
        r.findings = (if sequence = [] then [noFindings] else firsts Finding.key sequence) ∧
        (r.codes = ["L000"] ↔ sequence = []) := by
  have hnull : given = .null → Text.isBlankText source := by
    rintro rfl
    cases hgiven
    rfl
  refine ⟨profile_of_lint hr, ?_, nodup_map_key_of_lint hr,
    fun f => eq_singleton_of_mem_soleCodes hr, ?_, codes_eq_iff_rejected hr,
    fun reason => ⟨fun hsole => ?_, ?_⟩, fun root hblank hread => ?_⟩
  · rw [findings_of_lint hr]
    exact orNoFindings_ne_nil _
  · rw [codes_eq_iff_blank hr]
    exact ⟨.inr, fun h => h.elim hnull id⟩
  · have hcodes : r.codes = ["L002"] := by rw [Report.codes, hsole]; rfl
    obtain ⟨hblank, reason', hread⟩ := (codes_eq_iff_rejected hr).mp hcodes
    rw [findings_of_rejected hblank hread hr] at hsole
    exact ⟨hblank, invalidXml_injective (List.cons.inj hsole).1 ▸ hread⟩
  · rintro ⟨hblank, hread⟩
    exact findings_of_rejected hblank hread hr
  · have hdisclosed : (AssumedPrefix.declare source).2.toList =
        if (AssumedPrefix.declare source).1 = source then [] else [AssumedPrefix.disclosure] := by
      rw [AssumedPrefix.declare_snd]
      split <;> rfl
    have hnodes : lintedNodes read source = (Node.root root).lintable := by
      simp [lintedNodes, hblank, hread]
    have hclean := codes_eq_iff_found_nil hr
    rw [found_of_document hblank hread] at hclean
    exact ⟨Check.reports (.ofProfile r.profile o), _, _, _, hnodes ▸ run_of_lint hr, hdisclosed,
      rfl, length_rootFindings_le _ _, fun f => code_mem_of_mem_rootFindings, rfl,
      (findings_of_document hblank hread hr).trans (orNoFindings_firsts _), hclean⟩

/-- A formula whose root has an undeclared prefix, with an unknown element in it twice. -/
def prefixedFormula : String := "<m:math><m:foo/><m:foo/></m:math>"

/-- The shape of the report on `prefixedFormula`: the disclosure, and then what is found in the
document, each finding once. -/
theorem lint_shape_assumedPrefix :
    ∃ r root, sourceOf (.str prefixedFormula) = .ok prefixedFormula ∧
      lint readXml {} Check.all prefixedFormula = .ok r ∧
      readXml (AssumedPrefix.declare prefixedFormula).1 = .ok root ∧
      r.codes = ["L006", "L030", "L010"] ∧ r.findings ≠ [] ∧
      (r.findings.map Finding.key).Nodup ∧
      ∃ (reported : Node → Check → List Finding) (sequence : List Finding),
        (∀ n ∈ (Node.root root).lintable, ∀ k ∈ Check.all,
          k.run (.ofProfile r.profile {}) n = .ok (reported n k)) ∧
        sequence = [AssumedPrefix.disclosure] ++ rootFindings root "m:math" ++
          (Node.root root).lintable.flatMap (fun n => Check.all.flatMap (reported n)) ∧
        r.findings = firsts Finding.key sequence := by
  obtain ⟨r, hr, hcodes⟩ : ∃ r, lint readXml {} Check.all prefixedFormula = .ok r ∧
      r.codes = ["L006", "L030", "L010"] := exists_report_of_codes (by decide +kernel)
  have hroot : (readXml (AssumedPrefix.declare prefixedFormula).1).toOption.map (·.name.base) =
      some "math" := by decide +kernel
  obtain ⟨root, hread, -⟩ := exists_ok_of_toOption_map hroot
  have hsource : sourceOf (.str prefixedFormula) = .ok prefixedFormula := rfl
  have hname : RootTag.rootName (AssumedPrefix.declare prefixedFormula).1 = "m:math" := by
    decide +kernel
  obtain ⟨-, hne, hnodup, -, -, -, -, hdocument⟩ := lint_shape hsource hr
  obtain ⟨reported, disclosed, ofRoot, sequence, hreported, hdisclosed, hofRoot, -, -, hsequence,
    hfindings, -⟩ := hdocument root (by decide) hread
  rw [if_neg (by decide +kernel)] at hdisclosed
  rw [hdisclosed, hofRoot, hname] at hsequence
  rw [if_neg (by simp [hsequence])] at hfindings
  exact ⟨r, root, hsource, hr, hread, hcodes, hne, hnodup, reported, sequence, hreported,
    hsequence, hfindings⟩

end MathLint

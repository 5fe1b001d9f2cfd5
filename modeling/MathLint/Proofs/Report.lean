import Mathlib.Data.List.Basic
import MathLint.Proofs.Lint.Severity
import MathLint.Report.Text

/-!
# Reports as text

A report is written in sections, one for each severity that occurs. It loses no finding and repeats
none: read in order, the sections hold the findings sorted by severity, and findings of the same
severity stay in the order in which they were reported.

* `mergeSort_eq_flatMap_filter`: to sort by a few keys is to take the items of each key in turn.
* `Report.Section`, `Report.Section.lines`: a section of the text.
* `reference_ne_empty_of_lint`: every finding of a report has a reference.
* `lint_lines`: the lines of a report.
-/

namespace MathLint

/-! ## Sorting by a few keys -/

section Sorting

variable {α κ : Type} {key : α → κ} {rank : κ → Nat} {keys : List κ} {k : κ}
  {as : List α}

/-- Whether the key of an item does not rank behind that of another one. -/
def ranksUpTo (key : α → κ) (rank : κ → Nat) (a b : α) : Bool := rank (key a) ≤ rank (key b)

theorem ranksUpTo_trans (a b c : α) (hab : ranksUpTo key rank a b = true)
    (hbc : ranksUpTo key rank b c = true) : ranksUpTo key rank a c = true := by
  simp only [ranksUpTo, decide_eq_true_eq] at hab hbc ⊢
  omega

theorem ranksUpTo_total (a b : α) : (ranksUpTo key rank a b || ranksUpTo key rank b a) = true := by
  simp only [ranksUpTo, Bool.or_eq_true, decide_eq_true_eq]
  omega

variable [DecidableEq κ]

/-- Sorting keeps the items of one key in their order. -/
theorem filter_mergeSort (k : κ) (as : List α) :
    (as.mergeSort (ranksUpTo key rank)).filter (key · == k) = as.filter (key · == k) := by
  have hperm := (List.mergeSort_perm as (ranksUpTo key rank)).filter (key · == k)
  have hsorted : (as.filter (key · == k)).Pairwise fun a b => ranksUpTo key rank a b = true := by
    refine List.pairwise_of_forall_mem_list fun a ha b hb => ?_
    have ha : key a = k := beq_iff_eq.mp (List.mem_filter.mp ha).2
    have hb : key b = k := beq_iff_eq.mp (List.mem_filter.mp hb).2
    simp [ranksUpTo, ha, hb]
  have hsublist : (as.filter (key · == k)).Sublist (as.mergeSort (ranksUpTo key rank)) :=
    List.sublist_mergeSort ranksUpTo_trans ranksUpTo_total hsorted List.filter_sublist
  have hkept := hsublist.filter (key · == k)
  rw [List.filter_filter] at hkept
  simp only [Bool.and_self] at hkept
  exact (hkept.eq_of_length hperm.length_eq.symm).symm

/-- In a sorted list, the items of the first key stand at the front. -/
theorem filter_append_of_sorted (hsorted : as.Pairwise fun a b => ranksUpTo key rank a b = true)
    (hfirst : ∀ a ∈ as, key a = k ∨ rank k < rank (key a)) :
    as.filter (key · == k) ++ as.filter (key · != k) = as := by
  induction as with
  | nil => rfl
  | cons a as ih =>
    obtain ⟨ha, hsorted⟩ := List.pairwise_cons.mp hsorted
    obtain ⟨hkey | hlt, hfirst⟩ := List.forall_mem_cons.mp hfirst
    · rw [List.filter_cons_of_pos (by simp [hkey]), List.filter_cons_of_neg (by simp [hkey]),
        List.cons_append, ih hsorted hfirst]
    · -- the first key does not stand behind another one
      have hne : ∀ b ∈ a :: as, key b ≠ k := by
        refine List.forall_mem_cons.mpr ⟨fun h => ?_, fun b hb h => ?_⟩
        · rw [h] at hlt
          exact Nat.lt_irrefl _ hlt
        · have hle : rank (key a) ≤ rank (key b) := of_decide_eq_true (ha b hb)
          rw [h] at hle
          exact Nat.not_le_of_lt hlt hle
      rw [List.filter_eq_nil_iff.mpr fun b hb => by simpa using hne b hb, List.nil_append,
        List.filter_eq_self]
      exact fun b hb => by simpa using hne b hb

/-- A sorted list has the items of each key in turn. -/
theorem eq_flatMap_filter_of_sorted (hkeys : keys.Pairwise (rank · < rank ·))
    (hsorted : as.Pairwise fun a b => ranksUpTo key rank a b = true)
    (hmem : ∀ a ∈ as, key a ∈ keys) :
    as = keys.flatMap fun k => as.filter (key · == k) := by
  induction keys generalizing as with
  | nil => exact List.eq_nil_iff_forall_not_mem.mpr fun a ha => List.not_mem_nil (hmem a ha)
  | cons k keys ih =>
    obtain ⟨hk, hkeys⟩ := List.pairwise_cons.mp hkeys
    have hfirst : ∀ a ∈ as, key a = k ∨ rank k < rank (key a) := fun a ha =>
      (List.mem_cons.mp (hmem a ha)).imp id (hk _)
    have hrest : as.filter (key · != k) = keys.flatMap fun l => as.filter (key · == l) := by
      rw [ih hkeys (hsorted.filter _) fun a ha => ?_]
      · refine List.flatMap_congr fun l hl => ?_
        rw [List.filter_filter]
        refine List.filter_congr fun a _ => ?_
        have hne : l ≠ k := by
          rintro rfl
          exact Nat.lt_irrefl _ (hk l hl)
        by_cases hal : key a = l
        · simp [hal, hne]
        · simp [hal]
      · obtain ⟨ha, hak⟩ := List.mem_filter.mp ha
        exact (List.mem_cons.mp (hmem a ha)).resolve_left (bne_iff_ne.mp hak)
    rw [List.flatMap_cons, ← hrest, filter_append_of_sorted hsorted hfirst]

/-- To sort by a few keys is to take the items of each key in turn. -/
theorem mergeSort_eq_flatMap_filter (hkeys : keys.Pairwise (rank · < rank ·))
    (hmem : ∀ a ∈ as, key a ∈ keys) :
    as.mergeSort (ranksUpTo key rank) = keys.flatMap fun k => as.filter (key · == k) := by
  have hsorted := List.pairwise_mergeSort (@ranksUpTo_trans _ _ key rank) ranksUpTo_total as
  rw [eq_flatMap_filter_of_sorted hkeys hsorted fun a ha => hmem a (List.mem_mergeSort.mp ha)]
  simp only [filter_mergeSort]

end Sorting

/-! ## Sections -/

/-- The place of a severity in a report, the gravest first. -/
def Severity.rank : Severity → Nat
  | error => 0
  | warn => 1
  | info => 2
  | ok => 3
  | other _ => 4

namespace Report

/-- A section of a report: a severity with its heading, how many findings there are, and the
findings. -/
structure Section where
  severity : Severity
  heading : String
  count : Nat
  findings : List Finding

/-- The lines of a section: its heading with the number of findings, then each finding with its
reference. -/
def Section.lines (s : Section) : List String :=
  ["", s!"{s.heading} ({s.count}):", rule '-'] ++
    s.findings.flatMap fun f =>
      [s!"  [{f.code}] {f.title}: {f.message}", s!"         {f.reference}"]

variable (r : Report)

/-- The section of a report about a severity. -/
def sectionOf (s : Severity × String) : Section :=
  ⟨s.1, s.2, (r.group s.1).length, r.group s.1⟩

/-- The severities that occur in a report, with their headings. -/
def occurring : List (Severity × String) :=
  sections.filter fun s => r.findings.any (·.severity == s.1)

variable {r}

theorem group_eq_nil_iff {s : Severity} :
    r.group s = [] ↔ r.findings.any (·.severity == s) = false := by
  rw [group, List.filter_eq_nil_iff, List.any_eq_false]

theorem lines_sectionOf (h : ∀ f ∈ r.findings, f.reference ≠ "") (s : Severity × String) :
    (r.sectionOf s).lines = sectionLines s.2 (r.group s.1) := by
  unfold Section.lines sectionLines sectionOf
  dsimp only
  congr 1
  refine List.flatMap_congr fun f hf => ?_
  have hf := h f (List.mem_filter.mp hf).1
  rw [findingLines, if_neg (by simpa using hf)]

/-- The lines of a report in which every finding has a reference. -/
theorem lines_eq (h : ∀ f ∈ r.findings, f.reference ≠ "") :
    r.lines = r.headerLines ++ (r.occurring.map r.sectionOf).flatMap Section.lines := by
  have hnone : ∀ s ∈ sections, r.findings.any (·.severity == s.1) = false →
      (if (r.group s.1).isEmpty then [] else sectionLines s.2 (r.group s.1)) = [] := by
    intro s _ hs
    rw [group_eq_nil_iff.mpr hs]
    rfl
  rw [lines, ← flatMap_filter hnone, List.flatMap_map]
  congr 1
  refine List.flatMap_congr fun s hs => ?_
  have hsome : r.group s.1 ≠ [] := fun hempty => by
    have hoccurs := (List.mem_filter.mp hs).2
    rw [group_eq_nil_iff.mp hempty] at hoccurs
    cases hoccurs
  rw [if_neg (by simpa using hsome), lines_sectionOf h]

/-- The findings of the sections are those of the report, sorted by severity. -/
theorem findings_sections (h : ∀ f ∈ r.findings, f.severity ∈ sections.map (·.1)) :
    (r.occurring.map r.sectionOf).flatMap (·.findings) =
      r.findings.mergeSort (ranksUpTo Finding.severity Severity.rank) := by
  rw [mergeSort_eq_flatMap_filter (by decide) h, List.flatMap_map, List.flatMap_map, occurring]
  exact flatMap_filter fun s _ hs => group_eq_nil_iff.mpr hs

end Report

/-! ## Reports of linting -/

variable {read : XmlReader} {o : Options} {checks : List Check} {source : String} {r : Report}

/-- Every finding of a report has a reference. -/
theorem reference_ne_empty_of_lint (hr : lint read o checks source = .ok r) :
    ∀ f ∈ r.findings, f.reference ≠ "" := by
  intro f hf
  obtain ⟨d, message, rfl⟩ := exists_diagnostic_of_lint hr f hf
  have hreference : ∀ d ∈ Diagnostic.all, (d.finding .ok "").reference ≠ "" := by decide
  exact hreference d (Diagnostic.mem_all d)

/-- The text of a report has three lines of header, and then a section for every severity that
occurs, the gravest first. The heading of a section counts the findings of its severity. The
findings of all sections, in order, are those of the report in a stable sort by severity, and each
of them has one line, with a line for its reference behind it. -/
theorem lint_lines (hr : lint read o checks source = .ok r) :
    ∃ sections : List Report.Section,
      r.lines = [
        Report.rule '=',
        s!"MATHML LINT REPORT  (profile: {r.profile.id}, {r.sourceLength} characters)",
        Report.rule '='] ++ sections.flatMap Report.Section.lines ∧
      sections.map (fun s => (s.severity, s.heading)) =
        [(.error, "ERRORS"), (.warn, "WARNINGS"), (.info, "INFO"), (.ok, "OK")].filter
          (fun s => r.findings.any (·.severity == s.1)) ∧
      (∀ s ∈ sections, s.count = r.findings.countP (·.severity == s.severity) ∧
        ∀ f ∈ s.findings, f.severity = s.severity ∧ f.reference ≠ "") ∧
      sections.flatMap (·.findings) =
        r.findings.mergeSort fun f g => f.severity.rank ≤ g.severity.rank := by
  have hreference := reference_ne_empty_of_lint hr
  have hseverity : ∀ f ∈ r.findings, f.severity ∈ Report.sections.map (·.1) := by
    intro f hf
    obtain ⟨d, message, rfl⟩ := exists_diagnostic_of_lint hr f hf
    have hsections : ∀ s ∈ [.ok, .info, .warn, .error], s ∈ Report.sections.map (·.1) := by decide
    exact hsections _ (severity_mem _ d)
  refine ⟨r.occurring.map r.sectionOf, Report.lines_eq hreference, ?_, fun s hs => ?_,
    Report.findings_sections hseverity⟩
  · rw [List.map_map]
    exact List.map_id _
  · obtain ⟨s, -, rfl⟩ := List.mem_map.mp hs
    refine ⟨List.countP_eq_length_filter.symm, fun f hf => ?_⟩
    obtain ⟨hf, hs⟩ := List.mem_filter.mp hf
    exact ⟨beq_iff_eq.mp hs, hreference f hf⟩

/-- The sections for `legacyFormula` under a profile of MathML Core: the one error, which is
reported third, comes first. -/
theorem lint_lines_legacyFormula :
    let o : Options := { profile := .named (.str "core-mathml3") }
    ∃ r, lint readXml o Check.all legacyFormula = .ok r ∧
      r.findings.map (·.severity) = [.warn, .warn, .error, .warn] ∧
      ∃ sections : List Report.Section,
        r.lines = [
          Report.rule '=',
          s!"MATHML LINT REPORT  (profile: {r.profile.id}, {r.sourceLength} characters)",
          Report.rule '='] ++ sections.flatMap Report.Section.lines ∧
        sections.map (fun s => (s.heading, s.count)) = [("ERRORS", 1), ("WARNINGS", 3)] := by
  intro o
  obtain ⟨r, hr, hseverities⟩ : ∃ r, lint readXml o Check.all legacyFormula = .ok r ∧
      r.findings.map (·.severity) = [.warn, .warn, .error, .warn] :=
    @exists_ok_of_toOption_map _ _ _ _ (fun r : Report => r.findings.map (·.severity)) _
      (by decide +kernel)
  obtain ⟨sections, hlines, hheadings, hcounts, -⟩ := lint_lines hr
  refine ⟨r, hr, hseverities, sections, hlines, ?_⟩
  have hany (s : Severity) : r.findings.any (·.severity == s) =
      [.warn, .warn, .error, .warn].any (· == s) := by
    rw [← hseverities, List.any_map]
    rfl
  have hcount (s : Severity) : r.findings.countP (·.severity == s) =
      [.warn, .warn, .error, .warn].countP (· == s) := by
    rw [← hseverities, List.countP_map]
    rfl
  have hmap : sections.map (fun s => (s.heading, s.count)) =
      (sections.map fun s => (s.severity, s.heading)).map fun s =>
        (s.2, r.findings.countP (·.severity == s.1)) := by
    rw [List.map_map]
    exact List.map_congr_left fun s hs => congrArg (s.heading, ·) (hcounts s hs).1
  rw [hmap, hheadings]
  simp only [hany, hcount]
  decide


end MathLint

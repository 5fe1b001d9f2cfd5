import MathLint.Report.Basic

/-!
# Reports as text

`Report.lines` writes a report for people to read: a header, and then a section for every severity
that occurs, the gravest first.
-/

namespace MathLint.Report

/-- A line of a character, repeated. -/
def rule (c : Char) : String := String.ofList (List.replicate 80 c)

/-- The severities that have a section, with its heading. -/
def sections : List (Severity × String) :=
  [(.error, "ERRORS"), (.warn, "WARNINGS"), (.info, "INFO"), (.ok, "OK")]

/-- The lines about a finding. -/
def findingLines (f : Finding) : List String :=
  s!"  [{f.code}] {f.title}: {f.message}" ::
    if f.reference.isEmpty then [] else [s!"         {f.reference}"]

/-- The lines of a section about some findings. -/
def sectionLines (heading : String) (group : List Finding) : List String :=
  ["", s!"{heading} ({group.length}):", rule '-'] ++ group.flatMap findingLines

/-- The header of a report. -/
def headerLines (r : Report) : List String := [
  rule '=',
  s!"MATHML LINT REPORT  (profile: {r.profile.id}, {r.sourceLength} characters)",
  rule '=']

/-- The findings of one severity. -/
def group (r : Report) (severity : Severity) : List Finding :=
  r.findings.filter (·.severity == severity)

/-- The lines of a report. -/
def lines (r : Report) : List String :=
  r.headerLines ++ sections.flatMap fun (severity, heading) =>
    if (r.group severity).isEmpty then [] else sectionLines heading (r.group severity)

/-- A report as text. -/
def text (r : Report) : String := "\n".intercalate r.lines

end MathLint.Report

import MathLint.Distinct
import MathLint.Fault
import MathLint.Finding.Link

/-!
# Findings

A `Finding` is one reported issue. Two findings count as the same when their keys agree: severity,
code, title and message.

* `Finding.make`: a finding from its parts, with the names of its links.
* `Finding.unique`: findings without those reported before.
* `Finding.anyError`: whether one of the findings is an error.
-/

namespace MathLint

/-- How grave a finding is. The linter gives the first four; others come from outside. -/
inductive Severity where
  | ok
  | info
  | warn
  | error
  | other (name : String)
  deriving DecidableEq, Repr

namespace Severity

/-- The name of a severity. -/
def name : Severity → String
  | ok => "ok"
  | info => "info"
  | warn => "warn"
  | error => "error"
  | other name => name

/-- The severity of a name. -/
def ofName (name : String) : Severity :=
  if name == "ok" then ok
  else if name == "info" then info
  else if name == "warn" then warn
  else if name == "error" then error
  else other name

end Severity

/-- One reported issue. -/
structure Finding where
  severity : Severity
  code : String
  title : String
  message : String
  references : List Reference
  deriving DecidableEq, Repr

namespace Finding

/-- What tells findings apart. -/
def key (f : Finding) : Severity × String × String × String :=
  (f.severity, f.code, f.title, f.message)

/-- The address of the first reference, or nothing. -/
def reference (f : Finding) : String :=
  match f.references with
  | r :: _ => r.url
  | [] => ""

/-- A finding as a loosely typed value. -/
def toValue (f : Finding) : Value :=
  .object [
    ("severity", .str f.severity.name),
    ("code", .str f.code),
    ("title", .str f.title),
    ("message", .str f.message),
    ("reference", .str f.reference),
    ("references", .list (f.references.map Reference.toValue))]

/-- A finding with the links of the given names, or with the link to the fundamentals if none is
named. -/
def make (severity : Severity) (code title message : String) (links : List Value) :
    Except Fault Finding := do
  let named ← links.mapM fun v => do
    match ← v.key with
    | .text name =>
      match Link.ofName? name with
      | some l => .ok l
      | none => .error (Fault.unknownName v)
    | _ => .error (Fault.unknownName v)
  let links := if named.isEmpty then [Link.fundamentals] else named
  return ⟨severity, code, title, message, links.map Link.reference⟩

/-- The findings without those whose key occurred before. -/
def unique (fs : List Finding) : List Finding := distinctBy key fs

/-- Whether one of the findings is an error. -/
def anyError (fs : List Finding) : Bool := fs.any fun f => f.severity == .error

end Finding

end MathLint

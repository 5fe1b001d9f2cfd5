import MathLint.AssumedPrefix
import MathLint.Check.Basic
import MathLint.Report.Basic
import MathLint.Xml.Document

/-!
# Linting

`lint` reads a source as XML and runs checks on every MathML element of it. It gives a `Report` with
at least one finding and none twice: a blank source, a source that is no XML, and a document without
issues each have a finding of their own. The reader of XML is a parameter.

* `lint`: the report on a source.
* `sourceOf`: a source that is given as a loosely typed value.
-/

namespace MathLint

open Xml

/-- A reader of XML: gives the root of a document, or says what is wrong with it. -/
abbrev XmlReader := String → Except String Element

/-- The reader of XML in this library. -/
def readXml : XmlReader := fun source =>
  match Document.parse source with
  | .ok root => .ok root
  | .error e => .error (e.message source)

/-- What is reported where nothing else is. -/
def noFindings : Finding :=
  Diagnostic.noFindings.finding .ok "No structural or authoring issues were detected."

/-- What is reported for a blank source. -/
def emptyExpression : Finding := Diagnostic.emptyExpression.finding .info "Enter MathML to lint."

/-- What is reported for a source that is no XML. -/
def invalidXml (reason : String) : Finding :=
  Diagnostic.invalidXml.finding .error s!"MathML is not well-formed XML: {reason}"

/-- Checks the name and the namespace of the root. -/
def rootFindings (root : Element) (written : String) : List Finding :=
  let name := root.name
  if name.base != "math" then
    let shown := if written.isEmpty then name.base else written
    [Diagnostic.unexpectedRoot.finding .warn s!"Root element is <{shown}>, expected <math>."]
  else if name.space.isEmpty then
    [Diagnostic.missingNamespace.finding .warn
      (s!"<math> has no namespace declaration. Add xmlns=\"{mathNamespace}\" " ++
        "so XML consumers recognize it as MathML.")]
  else if name.space != mathNamespace then
    [Diagnostic.unexpectedNamespace.finding .warn
      s!"<math> is in namespace \"{name.space}\", expected \"{mathNamespace}\"."]
  else []

/-- What is found in a source, repeats included: for a source with content, the disclosure of an
assumed prefix, then what is said of the root, then what the checks report. -/
def rawFindings (read : XmlReader) (c : Context) (checks : List Check) (source : String) :
    Except Fault (List Finding) :=
  if Text.isBlankText source then .ok [emptyExpression]
  else
    let (fixed, assumption) := AssumedPrefix.declare source
    match read fixed with
    | .error reason => .ok [invalidXml reason]
    | .ok root => do
      let swept ← Check.sweep c checks (Node.root root).lintable
      return assumption.toList ++ rootFindings root (RootTag.rootName fixed) ++ swept

/-- The report on a source under options, by the given checks. There is none, whatever the source
is, if the options choose no profile. -/
def lint (read : XmlReader) (options : Options) (checks : List Check) (source : String) :
    Except Fault Report := do
  let profile ← options.profile.profile
  let found ← rawFindings read (.ofProfile profile options) checks source
  return {
    sourceLength := source.length
    profile
    findings := Finding.unique (if found.isEmpty then [noFindings] else found) }

/-- A loosely typed value as a source; null is the empty source. -/
def sourceOf : Value → Except Fault String
  | .null => .ok ""
  | .str s => .ok s
  | v => .error (.sourceKind v.kind)

end MathLint

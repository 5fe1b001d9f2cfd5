import MathLint.Lint

/-!
# Linting LaTeX

A LaTeX expression is linted through a converter to MathML, which is a parameter. `Latex.strip`
takes the delimiters off an expression, `Latex.convert` calls the converter, and `Latex.lint` lints
what it gives.
-/

namespace MathLint.Latex

/-- How an expression is displayed. -/
inductive Display where
  | block
  | inline
  deriving DecidableEq, Repr

namespace Display

/-- The name of a display mode. -/
def name : Display → String
  | block => "block"
  | inline => "inline"

/-- The display mode that a loosely typed value names. -/
def ofLoose : Value → Except Fault Display
  | .str "block" => .ok block
  | .str "inline" => .ok inline
  | v => do .error (.unknownDisplay (← v.shown))

end Display

/-- What a converter is called with. -/
structure Call where
  latex : String
  namespaceUri : String
  display : Display
  deriving DecidableEq, Repr

/-- A converter from LaTeX to MathML: gives what it takes for MathML, or refuses in words. -/
abbrev Converter := Call → Except String Value

/-- The delimiters of expressions, the first of which that fits is taken off. -/
def delimiters : List (String × String) :=
  [("$$", "$$"), ("$", "$"), ("\\(", "\\)"), ("\\[", "\\]")]

/-- What stands between two delimiters. -/
def between? (left right : String) (text : List Char) : Option (List Char) :=
  if left.length + right.length ≤ text.length && left.toList.isPrefixOf text &&
      right.toList.isSuffixOf text then
    some ((text.drop left.length).take (text.length - left.length - right.length))
  else none

/-- An expression without white space around it and without delimiters. -/
def strip (latex : String) : String :=
  let text := Text.trim latex
  match delimiters.findSome? fun d => between? d.1 d.2 text.toList with
  | some inner => Text.trim (String.ofList inner)
  | none => text

/-- The calls of a converter, and what became of them. -/
structure Traced (α : Type) where
  calls : List Call
  result : Except Fault α

/-- What a converter is called with for an expression. -/
def callFor (display : Display) (latex : String) : Except Fault Call :=
  let text := strip latex
  if text.isEmpty then .error .blankLatex else .ok ⟨Text.collapse text, mathNamespace, display⟩

/-- What a converter gives for an expression. -/
def convert (converter : Converter) (display : Display) (latex : String) : Traced Value :=
  match callFor display latex with
  | .error f => ⟨[], .error f⟩
  | .ok call =>
    ⟨[call], match converter call with
      | .ok mathml => .ok mathml
      | .error reason => .error (.conversion reason)⟩

/-- The report on an expression: as given, converted, and linted. -/
structure LatexReport where
  latex : String
  mathml : Value
  lint : Report

/-- A report as a loosely typed value. -/
def LatexReport.toValue (r : LatexReport) : Value :=
  .object [("latex", .str r.latex), ("mathml", r.mathml), ("lint", r.lint.toValue)]

/-- The report on an expression, with what `options` gives once the expression is converted. -/
def lintWith (read : XmlReader) (converter : Converter) (latex : String)
    (options : Except Fault Options) (display : Display) : Traced LatexReport :=
  let converted := convert converter display latex
  ⟨converted.calls, do
    let mathml ← converted.result
    let source ← sourceOf mathml
    let report ← MathLint.lint read (← options) Check.all source
    return ⟨latex, mathml, report⟩⟩

/-- The report on an expression. -/
def lint (read : XmlReader) (converter : Converter) (latex : String) (options : Options)
    (display : Display) : Traced LatexReport :=
  lintWith read converter latex (.ok options) display

/-- The report on an expression that is given, like its display mode, as a loosely typed value. -/
def lintLoose (read : XmlReader) (converter : Converter) (latex : Value)
    (options : Except Fault Options) (display : Value) : Traced LatexReport :=
  match Display.ofLoose display, latex.asText with
  | .error f, _ => ⟨[], .error f⟩
  | .ok _, .error f => ⟨[], .error f⟩
  | .ok display, .ok latex => lintWith read converter latex options display

end MathLint.Latex

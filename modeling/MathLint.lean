import MathLint.Address
import MathLint.AssumedPrefix
import MathLint.Check.Ambiguity
import MathLint.Check.Basic
import MathLint.Check.Context
import MathLint.Check.FunctionName
import MathLint.Check.Shape
import MathLint.Check.Structure
import MathLint.CommandLine.Arguments
import MathLint.CommandLine.Basic
import MathLint.CommandLine.Directory
import MathLint.Comparison
import MathLint.Distinct
import MathLint.Fault
import MathLint.Finding.Basic
import MathLint.Finding.Diagnostic
import MathLint.Finding.Link
import MathLint.Gather
import MathLint.Intent
import MathLint.Latex
import MathLint.Lint
import MathLint.Main
import MathLint.Node
import MathLint.Options
import MathLint.Path
import MathLint.Profile
import MathLint.Proofs.AssumedPrefix
import MathLint.Proofs.Check.Alike
import MathLint.Proofs.Check.Attributes
import MathLint.Proofs.Check.Deprecation
import MathLint.Proofs.Check.Foreign
import MathLint.Proofs.Check.FunctionName
import MathLint.Proofs.Check.InvisibleOperator
import MathLint.Proofs.Check.LengthValue
import MathLint.Proofs.Check.LetterRuns
import MathLint.Proofs.Check.Numeral
import MathLint.Proofs.Check.Override
import MathLint.Proofs.Check.Placement
import MathLint.Proofs.Check.Rules
import MathLint.Proofs.Comparison
import MathLint.Proofs.Diagnostics
import MathLint.Proofs.Distinct
import MathLint.Proofs.Intent
import MathLint.Proofs.Latex
import MathLint.Proofs.Lint.AssumedPrefix
import MathLint.Proofs.Lint.Basic
import MathLint.Proofs.Lint.Embedded
import MathLint.Proofs.Lint.Fault
import MathLint.Proofs.Lint.Formatting
import MathLint.Proofs.Lint.Metadata
import MathLint.Proofs.Lint.Readable
import MathLint.Proofs.Lint.Selection
import MathLint.Proofs.Lint.Severity
import MathLint.Proofs.Lint.Shape
import MathLint.Proofs.Lint.Subset
import MathLint.Proofs.Lint.Version
import MathLint.Proofs.Neighbours
import MathLint.Proofs.Node
import MathLint.Proofs.Node.Alike
import MathLint.Proofs.Node.Content
import MathLint.Proofs.Node.DocumentOrder
import MathLint.Proofs.Node.Foreign
import MathLint.Proofs.Options
import MathLint.Proofs.Report
import MathLint.Proofs.RootTag
import MathLint.Proofs.RootTag.Insertion
import MathLint.Proofs.RootTag.Plain
import MathLint.Proofs.RootTag.Prolog
import MathLint.Proofs.Runs
import MathLint.Proofs.Runs.Maximal
import MathLint.Proofs.Schema.Length
import MathLint.Proofs.Schema.Override
import MathLint.Proofs.Schema.Version
import MathLint.Proofs.Sweep
import MathLint.Proofs.Text.Blank
import MathLint.Proofs.Text.Integer
import MathLint.Proofs.Text.Lowercase
import MathLint.Proofs.Text.Pattern
import MathLint.Proofs.Text.Words
import MathLint.Proofs.Value
import MathLint.Report.Basic
import MathLint.Report.Text
import MathLint.RootTag
import MathLint.Runs
import MathLint.Schema.Bundle
import MathLint.Schema.Catalog
import MathLint.Schema.Grammar
import MathLint.Schema.Loose
import MathLint.Schema.Rule
import MathLint.Schema.ValueRule
import MathLint.Service
import MathLint.Settings
import MathLint.Text.Blank
import MathLint.Text.Digit
import MathLint.Text.Integer
import MathLint.Text.Letter
import MathLint.Text.Line
import MathLint.Text.Lowercase
import MathLint.Text.Pattern
import MathLint.Text.Quoted
import MathLint.Text.Ranges
import MathLint.Text.Start
import MathLint.Text.Utf8
import MathLint.Value
import MathLint.Xml.Characters
import MathLint.Xml.Content
import MathLint.Xml.Declaration
import MathLint.Xml.Doctype.Basic
import MathLint.Xml.Doctype.Prolog
import MathLint.Xml.Doctype.Token
import MathLint.Xml.Document
import MathLint.Xml.Error
import MathLint.Xml.Markup
import MathLint.Xml.NameChar
import MathLint.Xml.Scan
import MathLint.Xml.Scope

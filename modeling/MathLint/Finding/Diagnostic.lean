import MathLint.Finding.Basic

/-!
# Diagnostics

A `Diagnostic` is a kind of issue that the linter knows: it fixes the code, the title and the links
of the findings about it. `Diagnostic.finding` gives such a finding.
-/

namespace MathLint

/-- The kinds of issues. -/
inductive Diagnostic where
  | noFindings
  | emptyExpression
  | invalidXml
  | unexpectedRoot
  | unexpectedNamespace
  | missingNamespace
  | assumedNamespace
  | unknownTag
  | deprecatedElement
  | missingAttribute
  | misplacedElement
  | unknownAttribute
  | ignoredAttribute
  | invalidValue
  | deprecatedAttribute
  | splitNumber
  | scriptBase
  | mathvariantUsage
  | ambiguousOperand
  | splitCommandName
  | splitOperatorName
  | invalidChild
  | missingApplication
  | plainLanguage
  | uncommonMathvariant
  | negativeSpace
  | overstrike
  | annotationFallback
  | missingTimes
  | missingSeparator
  | missingPlus
  | childCount
  | tooFewChildren
  | tokenStructure
  | largeGroup
  | longToken
  | bareSemantics
  | outsideSubset
  | coreElement
  | coreAttribute
  deriving DecidableEq, Repr

namespace Diagnostic

/-- The code of a kind of issue. -/
def code : Diagnostic → String
  | noFindings => "L000"
  | emptyExpression => "L001"
  | invalidXml => "L002"
  | unexpectedRoot => "L003"
  | unexpectedNamespace => "L004"
  | missingNamespace => "L005"
  | assumedNamespace => "L006"
  | unknownTag => "L010"
  | deprecatedElement => "L011"
  | missingAttribute => "L012"
  | misplacedElement => "L013"
  | unknownAttribute => "L020"
  | ignoredAttribute => "L021"
  | invalidValue => "L022"
  | deprecatedAttribute => "L023"
  | splitNumber => "L024"
  | scriptBase => "L025"
  | mathvariantUsage => "L026"
  | ambiguousOperand => "L027"
  | splitCommandName => "L028"
  | splitOperatorName => "L029"
  | invalidChild => "L030"
  | missingApplication => "L031"
  | plainLanguage => "L032"
  | uncommonMathvariant => "L033"
  | negativeSpace => "L034"
  | overstrike => "L035"
  | annotationFallback => "L036"
  | missingTimes => "L037"
  | missingSeparator => "L038"
  | missingPlus => "L039"
  | childCount => "L040"
  | tooFewChildren => "L041"
  | tokenStructure => "L050"
  | largeGroup => "L060"
  | longToken => "L061"
  | bareSemantics => "L062"
  | outsideSubset => "L070"
  | coreElement => "L071"
  | coreAttribute => "L072"

/-- The title of a kind of issue. -/
def title : Diagnostic → String
  | noFindings => "No findings"
  | emptyExpression => "Empty expression"
  | invalidXml => "Invalid XML"
  | unexpectedRoot => "Unexpected root"
  | unexpectedNamespace => "Unexpected namespace"
  | missingNamespace => "Missing namespace"
  | assumedNamespace => "Namespace prefix assumed"
  | unknownTag => "Unknown tag"
  | deprecatedElement => "Deprecated pattern"
  | missingAttribute => "Missing required attribute"
  | misplacedElement => "Misplaced element"
  | unknownAttribute => "Unknown attribute"
  | ignoredAttribute | deprecatedAttribute => "Deprecated attribute"
  | invalidValue => "Invalid attribute value"
  | splitNumber => "Split number literal"
  | scriptBase => "Suspicious script base"
  | mathvariantUsage => "mathvariant usage"
  | ambiguousOperand => "Ambiguous operand"
  | splitCommandName | splitOperatorName => "Split function name"
  | invalidChild => "Invalid child"
  | missingApplication => "Missing function application"
  | plainLanguage => "Plain language in mi"
  | uncommonMathvariant => "Uncommon mathvariant"
  | negativeSpace => "Negative space"
  | overstrike => "Potential overstrike construct"
  | annotationFallback => "Annotation fallback"
  | missingTimes => "Possible missing invisible times"
  | missingSeparator => "Missing invisible separator"
  | missingPlus => "Missing invisible plus"
  | childCount => "Unexpected child count"
  | tooFewChildren => "Too few children"
  | tokenStructure => "Token structure"
  | largeGroup | longToken | bareSemantics => "Semantics hint"
  | outsideSubset => "Outside profile subset"
  | coreElement | coreAttribute => "Core compatibility"

/-- The links of a kind of issue, in the order in which they are shown. -/
def links : Diagnostic → List Link
  | noFindings | unknownTag | missingAttribute | invalidChild | childCount | tooFewChildren
  | outsideSubset | coreElement | coreAttribute => [.core]
  | emptyExpression | invalidXml | unexpectedRoot => [.fundamentals]
  | unexpectedNamespace | missingNamespace | assumedNamespace => [.namespaces]
  | deprecatedElement | misplacedElement | unknownAttribute | bareSemantics => [.presentation]
  | ignoredAttribute | deprecatedAttribute => [.deprecated]
  | invalidValue => [.attributes]
  | splitNumber | plainLanguage | tokenStructure => [.tokens]
  | scriptBase | ambiguousOperand => [.scripts]
  | mathvariantUsage | uncommonMathvariant => [.mathvariant]
  | splitCommandName | splitOperatorName => [.tokens, .invisible]
  | missingApplication | missingTimes | missingSeparator | missingPlus => [.invisible]
  | negativeSpace | overstrike => [.spacing]
  | annotationFallback => [.semantics]
  | largeGroup | longToken => [.intent]

/-- The finding that an issue of this kind was met. -/
def finding (d : Diagnostic) (severity : Severity) (message : String) : Finding :=
  ⟨severity, d.code, d.title, message, d.links.map Link.reference⟩

end Diagnostic

end MathLint

import MathLint.Check.Ambiguity
import MathLint.Check.Structure

/-!
# Checks

A `Check` looks at one node and reports findings. `Check.run` runs a check, and `Check.sweep` runs
checks on the nodes of a document, node by node.
-/

namespace MathLint

/-- The checks of the linter, in the order in which they run. -/
inductive Check where
  | tag
  | parent
  | attributes
  | deprecatedAttributes
  | requiredAttributes
  | attributeValues
  | mathvariant
  | children
  | arity
  | tokens
  | coreSupport
  | splitNumber
  | scriptBase
  | functionNames
  | functionApplication
  | operand
  | semantics
  | negativeSpace
  | times
  | separator
  | plus
  | hints
  deriving DecidableEq, Repr

namespace Check

/-- The checks against the schema. -/
def structural : List Check := [
  tag, parent, attributes, deprecatedAttributes, requiredAttributes, attributeValues, mathvariant,
  children, arity, tokens, coreSupport]

/-- The checks for ambiguous notation. -/
def ambiguity : List Check := [
  splitNumber, scriptBase, functionNames, functionApplication, operand, semantics, negativeSpace,
  times, separator, plus, hints]

/-- All checks. -/
def all : List Check := structural ++ ambiguity

/-- The kinds of issues that a check reports. -/
def diagnostics : Check → List Diagnostic
  | tag => [.unknownTag, .outsideSubset, .deprecatedElement]
  | parent => [.misplacedElement]
  | attributes => [.ignoredAttribute, .unknownAttribute]
  | deprecatedAttributes => [.deprecatedAttribute]
  | requiredAttributes => [.missingAttribute]
  | attributeValues => [.invalidValue]
  | mathvariant => [.mathvariantUsage, .uncommonMathvariant]
  | children => [.invalidChild]
  | arity => [.childCount, .tooFewChildren]
  | tokens => [.tokenStructure]
  | coreSupport => [.coreElement, .coreAttribute]
  | splitNumber => [.splitNumber]
  | scriptBase => [.scriptBase]
  | functionNames => [.splitCommandName, .splitOperatorName, .plainLanguage]
  | functionApplication => [.missingApplication]
  | operand => [.ambiguousOperand]
  | semantics => [.annotationFallback, .bareSemantics]
  | negativeSpace => [.negativeSpace, .overstrike]
  | times => [.missingTimes]
  | separator => [.missingSeparator]
  | plus => [.missingPlus]
  | hints => [.largeGroup, .longToken]

/-- What a check reports about a node. -/
def run (c : Context) (n : Node) : Check → Except Fault (List Finding)
  | tag => Structure.tag c n
  | parent => .ok (Structure.parent c n)
  | attributes => .ok (Structure.attributes c n)
  | deprecatedAttributes => .ok (Structure.deprecatedAttributes c n)
  | requiredAttributes => .ok (Structure.requiredAttributes c n)
  | attributeValues => Structure.attributeValues c n
  | mathvariant => .ok (Structure.mathvariant c n)
  | children => .ok (Structure.children c n)
  | arity => .ok (Structure.arity c n)
  | tokens => .ok (Structure.tokens n)
  | coreSupport => .ok (Structure.coreSupport c n)
  | splitNumber => .ok (Ambiguity.splitNumber n)
  | scriptBase => .ok (Ambiguity.scriptBase n)
  | functionNames => .ok (Ambiguity.functionNames n)
  | functionApplication => .ok (Ambiguity.functionApplication n)
  | operand => .ok (Ambiguity.operand n)
  | semantics => .ok (Ambiguity.semantics c n)
  | negativeSpace => .ok (Ambiguity.negativeSpace n)
  | times => .ok (Ambiguity.times n)
  | separator => .ok (Ambiguity.separator n)
  | plus => .ok (Ambiguity.plus n)
  | hints => .ok (Ambiguity.hints c n)

/-- What checks report about nodes: node by node, and check by check on each. The first fault ends
the sweep. -/
def sweep (c : Context) (checks : List Check) (nodes : List Node) : Except Fault (List Finding) :=
  gather (fun n => gather (run c n) checks) nodes

end Check

end MathLint

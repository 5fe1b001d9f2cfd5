import MathLint.Finding.Diagnostic
import MathLint.Node
import MathLint.RootTag

/-!
# The assumed namespace prefix

Many sources use the prefix `m` without declaring it. `AssumedPrefix.declare` adds the declaration
to the start tag of the root, and discloses that in a finding.
-/

namespace MathLint.AssumedPrefix

/-- The prefix that is assumed to stand for MathML. -/
def assumed : String := "m"

/-- The declaration that is added. -/
def declaration : String := s!" xmlns:{assumed}=\"{mathNamespace}\""

/-- The disclosure of the assumption. -/
def disclosure : Finding :=
  Diagnostic.assumedNamespace.finding .info
    (s!"Root element uses the \"{assumed}:\" prefix without declaring it; " ++
      s!"assuming xmlns:{assumed}=\"{mathNamespace}\".")

/-- Whether a tag uses the assumed prefix and does not declare it. -/
def isMissing (t : RootTag) : Bool :=
  (assumed.toList ++ [':']).isPrefixOf t.name && !declaresPrefix t.attributes assumed.toList

/-- The source with the prefix declared, if the root uses it undeclared, and the disclosure. -/
def declare (source : String) : String × Option Finding :=
  match RootTag.find? source with
  | some t =>
    if isMissing t then
      (String.ofList (t.lead ++ t.name ++ declaration.toList ++ t.attributes ++ '>' :: t.rest),
        some disclosure)
    else (source, none)
  | none => (source, none)

end MathLint.AssumedPrefix

import MathLint.Value

/-!
# References to the specifications

A finding refers to the part of a specification that it rests on. `Link` names those parts.
-/

namespace MathLint

/-- A place to read more: its label, its address, and whether it is a specification or a guide. -/
structure Reference where
  label : String
  url : String
  kind : String
  deriving DecidableEq, Repr

/-- A reference as a loosely typed value. -/
def Reference.toValue (r : Reference) : Value :=
  .object [("label", .str r.label), ("url", .str r.url), ("type", .str r.kind)]

/-- The parts of the specifications that findings refer to. -/
inductive Link where
  | core
  | intent
  | presentation
  | fundamentals
  | namespaces
  | tokens
  | attributes
  | mathvariant
  | invisible
  | scripts
  | semantics
  | spacing
  | deprecated
  | authoring
  deriving DecidableEq, Repr

namespace Link

/-- Every link. -/
def all : List Link :=
  [core, intent, presentation, fundamentals, namespaces, tokens, attributes, mathvariant, invisible,
    scripts, semantics, spacing, deprecated, authoring]

/-- The name by which a link is asked for. -/
def name : Link → String
  | core => "core"
  | intent => "intent"
  | presentation => "presentation"
  | fundamentals => "syntax"
  | namespaces => "namespace"
  | tokens => "tokens"
  | attributes => "attributes"
  | mathvariant => "mathvariant"
  | invisible => "invisible"
  | scripts => "scripts"
  | semantics => "semantics"
  | spacing => "spacing"
  | deprecated => "deprecated"
  | authoring => "authoring"

/-- The label of a link. -/
def label : Link → String
  | core => "MathML Core"
  | intent => "MathML 4: intent expressions"
  | presentation => "MathML 4: presentation markup"
  | fundamentals => "MathML 4: fundamentals"
  | namespaces => "MathML 4: namespace"
  | tokens => "MathML 4: token elements"
  | attributes => "MathML 4: attribute values"
  | mathvariant => "MathML Core: mathvariant"
  | invisible => "MathML 4: invisible operators"
  | scripts => "MathML 4: script and limit schemata"
  | semantics => "MathML 4: semantic annotations"
  | spacing => "MathML 4: mspace"
  | deprecated => "MathML 4: deprecated attributes"
  | authoring => "WAI tutorials"

/-- The address of a link. -/
def url : Link → String
  | core => "https://w3c.github.io/mathml-core/"
  | intent => "https://w3c.github.io/mathml/#intent-expressions"
  | presentation => "https://w3c.github.io/mathml/#presentation-markup"
  | fundamentals => "https://w3c.github.io/mathml/#fundamentals"
  | namespaces => "https://w3c.github.io/mathml/#interf_namespace"
  | tokens => "https://w3c.github.io/mathml/#presm_tokel"
  | attributes => "https://w3c.github.io/mathml/#fund_attval"
  | mathvariant => "https://w3c.github.io/mathml-core/#the-mathvariant-attribute"
  | invisible => "https://w3c.github.io/mathml/#presm_invisibleops"
  | scripts => "https://w3c.github.io/mathml/#presm_scrlim"
  | semantics => "https://w3c.github.io/mathml/#mixing_semantic_annotations"
  | spacing => "https://w3c.github.io/mathml/#presm_mspace"
  | deprecated => "https://w3c.github.io/mathml/#presm_deprecatt"
  | authoring => "https://www.w3.org/WAI/tutorials/"

/-- The reference that a link stands for. -/
def reference (l : Link) : Reference :=
  ⟨l.label, l.url, match l with | authoring => "guide" | _ => "spec"⟩

/-- The link of a name. -/
def ofName? (name : String) : Option Link := all.find? (·.name == name)

end Link

end MathLint

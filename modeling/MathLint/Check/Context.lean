import MathLint.Finding.Diagnostic
import MathLint.Options
import MathLint.Schema.Bundle
import MathLint.Schema.ValueRule

/-!
# What checks know

A `Context` holds what all checks of one run share: the profile, the rules of its version, and the
options about metadata of renderers.
-/

namespace MathLint

/-- What all checks of one run share. -/
structure Context where
  profile : Profile
  rules : RuleSet
  ignoreMetadata : Bool := true
  metadataPrefixes : List String := ["data-mjx-"]

namespace Context

/-- The context of a profile, under options about metadata. -/
def ofProfile (profile : Profile) (o : Options) : Context where
  profile
  rules := RuleSet.ofName profile.version
  ignoreMetadata := o.ignoreMetadata
  metadataPrefixes := o.metadataPrefixes

variable (c : Context)

/-- The names of the attributes that the version deprecates. -/
def deprecatedAttributes : List String := c.rules.bundle.deprecatedAttributes

/-- The rules for attribute values of version 3. -/
def valueRules3 : List ValueRule :=
  ValueRule.ofCatalog (AttributeDefinition.sorted Version.mathml3.attributes)

/-- The rules for attribute values of version 4. -/
def valueRules4 : List ValueRule :=
  ValueRule.ofCatalog (AttributeDefinition.sorted Version.mathml4.attributes)

/-- The rules for attribute values of the version. -/
def valueRules : List ValueRule :=
  match c.rules.bundle.version with
  | .mathml3 => valueRules3
  | .mathml4 => valueRules4

/-- The severity of issues that matter most in MathML Core. -/
def coreSeverity : Severity := if c.profile.isCore then .warn else .info

end Context

end MathLint

import MathLint.Distinct
import MathLint.Text.Lowercase
import MathLint.Text.Start

/-!
# Element rules

A `Rule` says what an element may hold and carry. An `Override` extends a rule: `Rule.merge` adds
its children and attributes, and lets its arity and its deprecation flag replace those of the rule.
-/

namespace MathLint

/-- Bounds on the number of element children. -/
structure Arity where
  exact : Option Int
  min : Option Int
  deriving DecidableEq, Repr

/-- The effective rule for the elements of one tag. Lists other than `children`,
`requiredAttributes` and `childRoles` are sets. -/
structure Rule where
  tag : String
  /-- Tags of the element children, in the order in which they are listed. -/
  children : List String := []
  attributes : List String := []
  arity : Option Arity := none
  /-- The tiers of the specification that the element belongs to. -/
  specs : List String := []
  deprecated : Bool := false
  /-- Tags of the only parents that the element may have; any parent if there are none. -/
  onlyValidIn : List String := []
  deprecatedAttributes : List String := []
  /-- Alternative attribute sets, one of which must be there. -/
  requiredAttributes : List (List String) := []
  /-- The names of the children at fixed places. -/
  childRoles : List String := []
  deriving DecidableEq, Repr

/-- The entry of a child list that stands for every tag. -/
def anyChild : String := "any"

/-- Whether a rule allows every child. -/
def Rule.acceptsAnyChild (r : Rule) : Bool := r.children.contains anyChild

/-- An extension of a rule. -/
structure Override where
  children : List String := []
  attributes : List String := []
  arity : Option Arity := none
  deprecated : Option Bool := none
  deriving DecidableEq, Repr

/-- A rule extended by an override, whose names are taken in lower case. -/
def Rule.merge (r : Rule) (o : Override) : Rule :=
  { r with
    children :=
      if o.children.isEmpty then r.children
      else distinct (r.children ++ o.children.map Text.lower)
    attributes := r.attributes ++ o.attributes.map Text.lower
    arity := o.arity.or r.arity
    deprecated := o.deprecated.getD r.deprecated }

/-- Whether a set of attribute names allows an attribute. The names `data-*` and `on*` allow every
name that begins so. -/
def allowsAttribute (allowed : List String) (name : String) : Bool :=
  let name := Text.lower name
  allowed.contains name || (allowed.contains "data-*" && Text.beginsWith "data-" name) ||
    (allowed.contains "on*" && Text.beginsWith "on" name)

end MathLint

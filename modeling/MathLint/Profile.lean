import MathLint.Fault
import MathLint.Schema.Loose

/-!
# Profiles

A `Profile` says under which rules a document is linted: the version of MathML, the subset that
counts as authoritative, and which hints are wanted.

* `Profile.registry`: the profiles that have a name. `Profile.aliases`: further names of them.
* `Profile.resolve`: the profile of a name; an unknown name gives the default profile.
-/

namespace MathLint

/-- A part of MathML. -/
inductive Subset where
  | core
  | presentation
  /-- A part that the linter does not know. -/
  | unlisted (name : String)
  deriving DecidableEq, Repr

namespace Subset

/-- The name of a subset. -/
def name : Subset → String
  | core => "core"
  | presentation => "presentation"
  | unlisted name => name

/-- The subset of a name. -/
def ofName (name : String) : Subset :=
  if name == "core" then core else if name == "presentation" then presentation else unlisted name

/-- The tier of the specification that a subset treats as authoritative. -/
def tier : Subset → Except Fault String
  | core => .ok "mathml-core"
  | presentation => .ok "presentation"
  | unlisted name => .error (.unknownName (.str name))

end Subset

/-- The rules under which a document is linted. -/
structure Profile where
  id : String
  subset : Subset
  version : String
  /-- Whether hints about missing meaning are wanted. -/
  semanticsHints : Bool
  /-- Whether elements outside the subset are reported. -/
  boundaryWarnings : Bool
  /-- Whether content markup may stand in annotations. -/
  contentInAnnotations : Bool := true
  deriving DecidableEq, Repr

namespace Profile

/-- Whether the authoritative subset is MathML Core. -/
def isCore (p : Profile) : Bool := p.subset == .core

/-- The profile of a subset and a version. Core profiles report what is outside the subset and give
no hints. -/
def ofSubset (subset : Subset) (version : String) : Profile :=
  { id := subset.name ++ "-" ++ version
    subset, version
    semanticsHints := subset != .core
    boundaryWarnings := subset == .core }

/-- The profiles that have a name. -/
def registry : List Profile :=
  [ofSubset .presentation "mathml3", ofSubset .core "mathml3", ofSubset .presentation "mathml4",
    ofSubset .core "mathml4"]

/-- Further names of profiles. -/
def aliases : List (String × String) :=
  [("authoring-guidance", "presentation-mathml3"), ("strict-core", "core-mathml3")]

/-- The profile that is taken where none is named. -/
def default : Profile := ofSubset .presentation "mathml3"

/-- The profile of a name, in any case and with white space around it. An unknown name gives the
default profile. -/
def resolve (name : String) : Profile :=
  let key := Text.lower (Text.trim name)
  let id := (aliases.lookup key).getD key
  (registry.find? (·.id == id)).getD default

/-- The profile that a loosely typed value names, if the value has a text. -/
def ofLoose (v : Value) : Except Fault Profile := return resolve (← Loose.label v)

/-- A profile as a loosely typed value. -/
def toValue (p : Profile) : Value :=
  .object [
    ("id", .str p.id),
    ("subset", .str p.subset.name),
    ("version", .str p.version),
    ("show_semantics_hints", .bool p.semanticsHints),
    ("warn_for_profile_boundary", .bool p.boundaryWarnings),
    ("allow_content_in_annotations", .bool p.contentInAnnotations)]

/-- All profiles and their further names as a loosely typed value. -/
def listing : Value :=
  .object [
    ("default", .str default.id),
    ("profiles", .list (registry.map toValue)),
    ("aliases", .object (aliases.map fun a => (a.1, .str a.2)))]

end Profile

end MathLint

import MathLint.Profile
import MathLint.Settings

/-!
# Lint options

`Options` hold what a caller may choose: the profile, and which attributes count as metadata of a
renderer.

* `ProfileChoice.profile`: the chosen profile. A choice whose text cannot be written gives none.
* `Options.ofSettings`: the options of a caller who chooses nothing.
* `Options.ofLoose`: options from a loosely typed value.
-/

namespace MathLint

/-- The choice of a profile: by a loosely typed name, or given as a whole. -/
inductive ProfileChoice where
  | named (v : Value)
  | given (p : Profile)

/-- The chosen profile. -/
def ProfileChoice.profile : ProfileChoice → Except Fault Profile
  | named v => Profile.ofLoose v
  | given p => .ok p

/-- What a caller may choose. -/
structure Options where
  profile : ProfileChoice := .named (.str Settings.usual.defaultProfile)
  /-- Whether attributes that are metadata of a renderer are passed over. -/
  ignoreMetadata : Bool := Settings.usual.ignoreMetadata
  /-- How the names of such attributes begin. -/
  metadataPrefixes : List String := Settings.usual.metadataPrefixes

namespace Options

/-- The options of a caller who chooses nothing. -/
def ofSettings (s : Settings) : Options where
  profile := .named (.str s.defaultProfile)
  ignoreMetadata := s.ignoreMetadata
  metadataPrefixes := s.metadataPrefixes

/-- The value of the last field with one of two names that is not null. -/
def chosen (fields : List (String × Value)) (name spelling : String) : Option Value :=
  ((fields.filter fun f => f.1 == name || f.1 == spelling).filterMap fun f =>
    match f.2 with
    | .null => none
    | v => some v).getLast?

/-- The options that the fields of an object give. Other fields are passed over. -/
def ofFields (settings : Settings) (fields : List (String × Value)) : Except Fault Options := do
  let usual := ofSettings settings
  let given := chosen fields "foreignAttributePrefixes" "foreign_attribute_prefixes"
  let metadataPrefixes ← match given with
    | some v => (← v.items).mapM fun item => return Text.lower (← item.text)
    | none => pure usual.metadataPrefixes
  let profile := match chosen fields "profile" "profile" with
    | some v => .named v
    | none => usual.profile
  let flag := chosen fields "ignoreDataMjxAttributes" "ignore_data_mjx_attributes"
  let ignoreMetadata := (flag.map Value.truthy).getD usual.ignoreMetadata
  return { profile, ignoreMetadata, metadataPrefixes }

/-- The options that a loosely typed value gives; null chooses nothing. -/
def ofLoose (settings : Settings) : Value → Except Fault Options
  | .null => .ok (ofSettings settings)
  | .object fields => ofFields settings fields
  | v => .error (.noFields v.kind)

end Options

end MathLint

import MathLint.Proofs.Lint.Basic
import MathLint.Proofs.Options

/-!
# When linting fails

The value of an attribute that counts something (`countAttributes`) is read as an integer if it
consists of digits. Some digits are no decimal digits, and a number can be too long: under a
profile, linting fails on a document with such a value, and on nothing else. Options that choose
their profile by a value without a text choose none, and then linting fails on every source.

* `UnreadableDigits`: the values that cannot be read.
* `Structure.attributeValues_error_iff`, `Structure.attributeValues_error`: the check that fails on
  them.
* `Check.exists_run_error_iff`: no other check fails under a profile that has a name.
* `lint_fault_iff`: the sources on which linting fails under a profile that has a name.
* `lint_of_not_isWritable`: options under which linting always fails.
-/

namespace MathLint

open Diagnostic

/-- A text of digits of any kind that is no integer: one of them is no decimal digit, or they are
more than 4300. -/
def UnreadableDigits (text : String) : Prop :=
  text ≠ "" ∧ (∀ ch ∈ text.toList, Text.isDigitLike ch = true) ∧
    ((∃ ch ∈ text.toList, Text.isDecimal ch = false) ∨ 4300 < text.length)

instance (text : String) : Decidable (UnreadableDigits text) :=
  decidable_of_iff (text ≠ "" ∧ text.toList.all Text.isDigitLike ∧
    (text.toList.any (!Text.isDecimal ·) ∨ 4300 < text.length)) (by simp [UnreadableDigits])

/-- The attributes whose values are counts. -/
def countAttributes : List String := ["rowspan", "columnspan", "selection"]

/-! ## Values -/

namespace Grammar

theorem isPositiveInteger_error_iff {v : String} :
    (∃ e, isPositiveInteger v = .error e) ↔ UnreadableDigits v := by
  unfold isPositiveInteger UnreadableDigits
  by_cases hdigits : (v.isEmpty || !v.toList.all Text.isDigitLike) = true
  · rw [if_pos hdigits]
    simp only [reduceCtorEq, exists_false, false_iff]
    rintro ⟨hne, hlike, -⟩
    rcases Bool.or_eq_true_iff.mp hdigits with h | h
    · exact hne (String.isEmpty_iff.mp h)
    · rw [List.all_eq_true.mpr hlike] at h
      cases h
  · rw [if_neg hdigits]
    simp only [Bool.or_eq_true, String.isEmpty_iff, Bool.not_eq_true', not_or,
      Bool.not_eq_false, List.all_eq_true] at hdigits
    obtain ⟨hne, hlike⟩ := hdigits
    have hread := Text.Integer.read_error_iff hne hlike
    constructor
    · rintro ⟨e, h⟩
      refine ⟨hne, hlike, hread.mp ?_⟩
      cases hr : Text.Integer.read v with
      | ok value => rw [hr] at h; cases h
      | error fault => exact ⟨fault, rfl⟩
    · rintro ⟨-, -, hunreadable⟩
      obtain ⟨fault, hr⟩ := hread.mpr hunreadable
      exact ⟨.integer fault, by rw [hr]⟩

/-- Of the grammars, only that of counts can fail. -/
theorem accepts_error_iff {g : Grammar} {v : String} :
    (∃ e, g.accepts v = .error e) ↔ g = .positiveInteger ∧ UnreadableDigits v := by
  cases g with
  | positiveInteger => simp [accepts, isPositiveInteger_error_iff]
  | _ => simp [accepts]

/-- The fault is that the digits are no integer. -/
theorem accepts_error {g : Grammar} {v : String} {e : Fault} (h : g.accepts v = .error e) :
    ∃ fault, e = .integer fault := by
  obtain ⟨rfl, -⟩ := accepts_error_iff.mp ⟨e, h⟩
  change isPositiveInteger v = .error e at h
  unfold isPositiveInteger at h
  split at h
  · cases h
  · split at h
    · cases h
    · cases h
      exact ⟨_, rfl⟩

end Grammar

theorem Version.mem_all (v : Version) : v ∈ Version.all := by cases v <;> decide

namespace Context

variable {c : Context}

theorem valueRules_eq : c.valueRules = ValueRule.ofCatalog
    (AttributeDefinition.sorted c.rules.bundle.version.attributes) := by
  unfold valueRules
  split <;> rename_i h <;> rw [h] <;> rfl

/-- The rules for values follow from the definitions of the version, or are those for `mpadded`. -/
theorem mem_valueRules {r : ValueRule} :
    r ∈ c.valueRules ↔
      (∃ d ∈ c.rules.bundle.version.attributes, ValueRule.ofDefinition? d = some r) ∨
        r ∈ ValueRule.padded := by
  rw [valueRules_eq, ValueRule.ofCatalog, List.mem_append, List.mem_filterMap]
  simp only [AttributeDefinition.sorted, List.mem_mergeSort]

/-- A rule for counts is one of `countAttributes`. -/
theorem mem_countAttributes {r : ValueRule} (hr : r ∈ c.valueRules)
    (hcount : r.grammar = .positiveInteger) : r.attributeName ∈ countAttributes := by
  have hcatalog : ∀ v ∈ Version.all, ∀ d ∈ v.attributes, ∀ r ∈ (ValueRule.ofDefinition? d).toList,
      r.grammar = .positiveInteger → r.attributeName ∈ countAttributes := by decide
  have hpadded : ∀ r ∈ ValueRule.padded, r.grammar ≠ .positiveInteger := by decide
  rcases mem_valueRules.mp hr with ⟨d, hd, hr⟩ | hr
  · have hmem : r ∈ (ValueRule.ofDefinition? d).toList := by
      rw [hr]
      exact List.mem_singleton.mpr rfl
    exact hcatalog _ (Version.mem_all _) d hd r hmem hcount
  · exact absurd hcount (hpadded r hr)

/-- Every count has its rule, on elements of every tag. -/
theorem countRule_mem {name : String} (h : name ∈ countAttributes) :
    { attributeName := name, grammar := .positiveInteger } ∈ c.valueRules := by
  have hcatalog : ∀ v ∈ Version.all, ∀ name ∈ countAttributes, ∃ d ∈ v.attributes,
      ValueRule.ofDefinition? d = some { attributeName := name, grammar := .positiveInteger } := by
    decide
  exact mem_valueRules.mpr (.inl (hcatalog _ (Version.mem_all _) name h))

end Context

/-! ## Checks -/

namespace Structure

variable {c : Context} {n : Node}

theorem valueAgainst_error {name value : String} {rule : ValueRule} {e : Fault}
    (h : valueAgainst n name value rule = .error e) : rule.grammar.accepts value = .error e := by
  unfold valueAgainst at h
  split at h
  · cases h
  · cases ha : rule.grammar.accepts value with
    | error e' => rw [ha] at h; exact congrArg _ (Except.error.inj h)
    | ok accepted =>
      rw [ha] at h
      cases accepted <;> cases h

/-- A value fails against a rule exactly if the rule is that of a count and the value cannot be
read. -/
theorem valueAgainst_error_iff {name value : String} {rule : ValueRule} :
    (∃ e, valueAgainst n name value rule = .error e) ↔
      rule.grammar = .positiveInteger ∧ UnreadableDigits value := by
  rw [← Grammar.accepts_error_iff]
  constructor
  · rintro ⟨e, h⟩
    exact ⟨e, valueAgainst_error h⟩
  · rintro ⟨e, h⟩
    have hne := (Grammar.accepts_error_iff.mp ⟨e, h⟩).2.1
    refine ⟨e, ?_⟩
    unfold valueAgainst
    rw [if_neg (fun hempty => hne (String.isEmpty_iff.mp hempty)), h]
    rfl

/-- The check of values fails exactly on a count that cannot be read. -/
theorem attributeValues_error_iff :
    (∃ e, attributeValues c n = .error e) ↔
      ∃ a ∈ n.attributes, a.1 ∈ countAttributes ∧ UnreadableDigits (Text.trim a.2) := by
  unfold attributeValues
  simp only [gather_error_iff, valueAgainst_error_iff, List.mem_filter, Bool.and_eq_true,
    beq_iff_eq]
  constructor
  · rintro ⟨a, ha, rule, ⟨hrule, hname, -⟩, hcount, hvalue⟩
    exact ⟨a, ha, hname ▸ Context.mem_countAttributes hrule hcount, hvalue⟩
  · rintro ⟨a, ha, hname, hvalue⟩
    exact ⟨a, ha, _, ⟨Context.countRule_mem hname, rfl, rfl⟩, rfl, hvalue⟩

/-- The fault is that digits are no integer. -/
theorem attributeValues_error {e : Fault} (h : attributeValues c n = .error e) :
    ∃ fault, e = .integer fault := by
  obtain ⟨a, -, ha⟩ := gather_error h
  obtain ⟨rule, -, hrule⟩ := gather_error ha
  exact Grammar.accepts_error (valueAgainst_error hrule)

/-- The check of tags fails only for a subset without a tier. -/
theorem tag_error {e : Fault} (h : tag c n = .error e) : c.profile.subset.tier = .error e := by
  unfold tag at h
  split at h
  · cases h
  · cases hb : boundary c n with
    | ok outside => rw [hb] at h; cases h
    | error e' =>
      rw [hb] at h
      obtain rfl : e' = e := Except.error.inj h
      unfold boundary at hb
      split at hb
      · cases hb
      · cases ht : c.profile.subset.tier with
        | error e'' => rw [ht] at hb; exact congrArg _ (Except.error.inj hb)
        | ok tier =>
          rw [ht] at hb
          simp only [bind, Except.bind] at hb
          split at hb <;> cases hb

end Structure

/-- The subset of a profile of the registry has a tier. -/
theorem Profile.exists_tier {p : Profile} (hp : p ∈ Profile.registry) :
    ∃ tier, p.subset.tier = .ok tier := by
  have hregistry : ∀ p ∈ Profile.registry, p.subset = .core ∨ p.subset = .presentation := by decide
  rcases hregistry p hp with h | h
  · exact ⟨_, by rw [h]; rfl⟩
  · exact ⟨_, by rw [h]; rfl⟩

namespace Check

variable {c : Context} {n : Node} {k : Check}

/-- Under a profile of the registry, only the check of values fails. -/
theorem eq_attributeValues_of_run_error {e : Fault} (hprofile : c.profile ∈ Profile.registry)
    (h : k.run c n = .error e) : k = attributeValues := by
  cases k with
  | attributeValues => rfl
  | tag =>
    obtain ⟨tier, ht⟩ := Profile.exists_tier hprofile
    rw [Structure.tag_error h] at ht
    cases ht
  | _ => cases h

theorem run_attributeValues : run c n attributeValues = Structure.attributeValues c n := rfl

/-- Under a profile of the registry, the fault of a check is that digits are no integer. -/
theorem run_error {e : Fault} (hprofile : c.profile ∈ Profile.registry)
    (h : k.run c n = .error e) : ∃ fault, e = .integer fault := by
  have hk := eq_attributeValues_of_run_error hprofile h
  rw [hk, run_attributeValues] at h
  exact Structure.attributeValues_error h

/-- Under a profile of the registry, one of the checks fails on a node exactly if the node has a
count that cannot be read. -/
theorem exists_run_error_iff (hprofile : c.profile ∈ Profile.registry) :
    (∃ k ∈ Check.all, ∃ e, k.run c n = .error e) ↔
      ∃ a ∈ n.attributes, a.1 ∈ countAttributes ∧ UnreadableDigits (Text.trim a.2) := by
  rw [← Structure.attributeValues_error_iff (c := c)]
  constructor
  · rintro ⟨k, -, e, h⟩
    have hk := eq_attributeValues_of_run_error hprofile h
    rw [hk, run_attributeValues] at h
    exact ⟨e, h⟩
  · rintro ⟨e, h⟩
    exact ⟨attributeValues, mem_all _, e, by rw [run_attributeValues, h]⟩

end Check

/-! ## Linting -/

/-- A source has a count that cannot be read: it is a document, and the value of an attribute of
`countAttributes` on a MathML element of it, without white space around it, is unreadable. -/
def HasUnreadableCount (read : XmlReader) (source : String) : Prop :=
  ¬ Text.isBlankText source ∧ ∃ root, read (AssumedPrefix.declare source).1 = .ok root ∧
    ∃ n ∈ (Node.root root).lintable, ∃ a ∈ n.attributes,
      a.1 ∈ countAttributes ∧ UnreadableDigits (Text.trim a.2)

variable {read : XmlReader} {o : Options} {source : String}

theorem hasUnreadableCount_iff :
    HasUnreadableCount read source ↔ ∃ n ∈ lintedNodes read source, ∃ a ∈ n.attributes,
      a.1 ∈ countAttributes ∧ UnreadableDigits (Text.trim a.2) := by
  unfold HasUnreadableCount lintedNodes
  by_cases hblank : Text.isBlankText source
  · simp [hblank]
  · cases read (AssumedPrefix.declare source).1 <;> simp [hblank]

instance : Decidable (HasUnreadableCount read source) :=
  decidable_of_iff _ hasUnreadableCount_iff.symm

/-- Under options that choose their profile by a value that has no text, linting fails on every
source, blank ones included, and whatever the checks are. -/
theorem lint_of_not_isWritable {name : Value} (ho : o.profile = .named name)
    (h : ¬ name.IsWritable) (read : XmlReader) (checks : List Check) (source : String) :
    lint read o checks source = .error (.integer .unwritable) :=
  lint_of_profile_error (ho ▸ ProfileChoice.profile_of_not_isWritable h)

/-- Such options are accepted, and the fault shows when a source is linted. -/
example :
    Options.ofLoose .usual (.object [("profile", .int (10 ^ 5000))]) =
        .ok { profile := .named (.int (10 ^ 5000)) } ∧
      lint readXml { profile := .named (.int (10 ^ 5000)) } Check.all "" =
        .error (.integer .unwritable) :=
  ⟨rfl, lint_of_not_isWritable rfl (by decide +kernel) _ _ _⟩

end MathLint

import MathLint.Proofs.Check.Rules
import MathLint.Proofs.Lint.Basic
import MathLint.Proofs.Schema.Version
import MathLint.Proofs.Text.Lowercase

/-!
# Linting under the two versions

Version 4 of MathML allows the attributes of intent annotations on every presentation element. A
report under version 4 is that under version 3 without the complaints about these attributes, and
with the other profile quoted (`Finding.upgraded`).

* `Check.run_inVersion`: the law for one check on one node.
* `lint_version`: the law for reports.
-/

namespace MathLint

open Diagnostic

namespace Finding

/-- Whether a finding says that an attribute of intent annotations is not recognized on a
presentation element. -/
def isIntentComplaint (f : Finding) : Bool :=
  f.code == "L020" && intentAttributes.any fun a => Catalog.presentationTags.any fun t =>
    f.message == s!"Attribute \"{a}\" is not recognized on <{t}>."

/-- The end of a message that quotes a profile. -/
def quotation (p : Profile) : String := s!" (active profile: {p.id})."

/-- A finding about the subset of a profile with another profile quoted. -/
def requote (old new : Profile) (f : Finding) : Finding :=
  if f.code == "L070" ∧ (quotation old).toList.isSuffixOf f.message.toList then
    { f with
      message := String.ofList
        (f.message.toList.take (f.message.length - (quotation old).length) ++
          (quotation new).toList) }
  else f

/-- The findings under version 4 of those under version 3. -/
def upgraded (subset : Subset) (fs : List Finding) : List Finding :=
  (fs.filter fun f => !f.isIntentComplaint).map
    (requote (Profile.ofSubset subset "mathml3") (Profile.ofSubset subset "mathml4"))

variable {subset : Subset} {old new : Profile} {f : Finding} {fs gs : List Finding}

theorem upgraded_append :
    upgraded subset (fs ++ gs) = upgraded subset fs ++ upgraded subset gs := by
  simp [upgraded]

theorem upgraded_flatMap {α : Type} (as : List α) (g : α → List Finding) :
    upgraded subset (as.flatMap g) = as.flatMap fun a => upgraded subset (g a) := by
  simp only [upgraded, List.filter_flatMap, List.map_flatMap]

/-- Findings of other kinds are the same under both versions. -/
theorem upgraded_eq_self (h : ∀ f ∈ fs, f.code ≠ "L020" ∧ f.code ≠ "L070") :
    upgraded subset fs = fs := by
  have hfilter : fs.filter (fun f => !f.isIntentComplaint) = fs :=
    List.filter_eq_self.mpr fun f hf => by simp [isIntentComplaint, (h f hf).1]
  rw [upgraded, hfilter]
  refine (List.map_congr_left fun f hf => ?_).trans (List.map_id fs)
  simp [requote, (h f hf).2]

theorem upgraded_of_covers {core : Bool} {kinds : List Diagnostic} (h : Covers core kinds fs)
    (hkinds : "L020" ∉ kinds.map Diagnostic.code ∧ "L070" ∉ kinds.map Diagnostic.code) :
    upgraded subset fs = fs :=
  upgraded_eq_self fun _ hf => ⟨h.code_ne hkinds.1 hf, h.code_ne hkinds.2 hf⟩

theorem upgraded_unknownAttribute {message : String} :
    upgraded subset [unknownAttribute.finding .warn message] =
      if (unknownAttribute.finding .warn message).isIntentComplaint then []
      else [unknownAttribute.finding .warn message] := by
  unfold upgraded
  cases h : (unknownAttribute.finding .warn message).isIntentComplaint with
  | true => rw [List.filter_cons_of_neg (by simp [h])]; rfl
  | false => rw [List.filter_cons_of_pos (by simp [h])]; rfl

theorem append_quotation (s : String) (p : Profile) :
    s ++ quotation p = s ++ " (active profile: " ++ p.id ++ ")." := by
  have hassoc (t u v : String) : s ++ (t ++ u ++ v) = s ++ t ++ u ++ v := by
    rw [String.append_assoc, String.append_assoc, String.append_assoc]
  exact hassoc _ _ _

theorem requote_of_end {start : String} (hcode : f.code = "L070")
    (hend : f.message = start ++ quotation old) :
    requote old new f = { f with message := start ++ quotation new } := by
  have hsuffix : (quotation old).toList.isSuffixOf f.message.toList = true := by
    rw [hend, String.toList_append, List.isSuffixOf_iff_suffix]
    exact List.suffix_append _ _
  have htake : f.message.toList.take (f.message.length - (quotation old).length) =
      start.toList := by
    rw [hend, String.toList_append, String.length_append, Nat.add_sub_cancel,
      ← String.length_toList]
    exact List.take_left
  rw [requote, if_pos ⟨by simp [hcode], hsuffix⟩, htake, ← String.toList_append,
    String.ofList_toList]

/-! ## Messages -/

/-- A mark that stands once in a text splits it in one way. -/
theorem eq_of_append_cons_eq {α : Type} {m : α} {x u a v : List α} (ha : m ∉ a) (hv : m ∉ v)
    (h : x ++ m :: u = a ++ m :: v) : x = a ∧ u = v := by
  rcases List.append_eq_append_iff.mp h with ⟨d, rfl, hd⟩ | ⟨d, rfl, hd⟩
  · cases d with
    | nil => simpa using hd
    | cons e d =>
      obtain ⟨rfl, -⟩ := List.cons.inj hd
      simp at ha
  · cases d with
    | nil => simpa using hd.symm
    | cons e d =>
      obtain ⟨rfl, rfl⟩ := List.cons.inj hd
      simp at hv

/-- Two messages about unknown attributes are the same only if they name the same attribute and the
same element, if the names in one of them hold no quotation marks. -/
theorem eq_of_unrecognized_eq {name tag a t : String} (ha : '"' ∉ a.toList) (ht : '"' ∉ t.toList)
    (h : s!"Attribute \"{name}\" is not recognized on <{tag}>." =
      s!"Attribute \"{a}\" is not recognized on <{t}>.") : name = a ∧ tag = t := by
  have hlist := congrArg String.toList h
  simp only [toString, String.toList_append, List.append_assoc, List.append_cancel_left_eq] at hlist
  have hmark : "\" is not recognized on <".toList = '"' :: " is not recognized on <".toList := rfl
  rw [hmark, List.cons_append, List.cons_append] at hlist
  have hrest : '"' ∉ " is not recognized on <".toList ++ (t.toList ++ ">.".toList) := by
    simp [ht]
  obtain ⟨hname, htag⟩ := eq_of_append_cons_eq ha hrest hlist
  refine ⟨String.toList_injective hname, String.toList_injective ?_⟩
  simpa using htag

theorem isIntentComplaint_unrecognized (name tag : String) :
    (unknownAttribute.finding .warn
      s!"Attribute \"{name}\" is not recognized on <{tag}>.").isIntentComplaint = true ↔
      name ∈ intentAttributes ∧ tag ∈ Catalog.presentationTags := by
  have hunquoted : (∀ a ∈ intentAttributes, '"' ∉ a.toList) ∧
      ∀ t ∈ Catalog.presentationTags, '"' ∉ t.toList := by decide
  unfold isIntentComplaint
  constructor
  · intro h
    simp only [Bool.and_eq_true, List.any_eq_true, beq_iff_eq] at h
    obtain ⟨-, a, ha, t, ht, hmessage⟩ := h
    obtain ⟨rfl, rfl⟩ := eq_of_unrecognized_eq (hunquoted.1 a ha) (hunquoted.2 t ht) hmessage
    exact ⟨ha, ht⟩
  · rintro ⟨ha, ht⟩
    simp only [Bool.and_eq_true, List.any_eq_true, beq_iff_eq]
    exact ⟨rfl, name, ha, tag, ht, rfl⟩

/-- A remark on metadata of a renderer is no complaint about an attribute. -/
theorem isIntentComplaint_metadata (name tag : String) :
    (unknownAttribute.finding .warn
      s!"Attribute \"{name}\" on <{tag}> is renderer metadata, not MathML.").isIntentComplaint =
      false := by
  refine Bool.eq_false_iff.mpr fun h => ?_
  unfold isIntentComplaint at h
  simp only [Bool.and_eq_true, List.any_eq_true, beq_iff_eq] at h
  obtain ⟨-, a, -, t, -, hmessage⟩ := h
  -- the messages end in different ways
  have hlist := congrArg (fun s => s.toList.reverse) hmessage
  simp [Diagnostic.finding, toString] at hlist

end Finding

namespace Context

/-- A context under the profile of a subset and a version. -/
def inVersion (c : Context) (subset : Subset) (v : Version) : Context :=
  { c with profile := Profile.ofSubset subset v.name, rules := RuleSet.ofVersion v }

end Context

variable (c : Context) (n : Node) (subset : Subset)

/-! ## The structural checks -/

namespace Structure

open Finding

/-- The rules of a node in the two versions. -/
theorem rule?_inVersion (tag : String) :
    (c.inVersion subset .mathml4).rules.rule? tag = (c.inVersion subset .mathml3).rules.rule? tag ∨
    ∃ r given, (c.inVersion subset .mathml3).rules.rule? tag = some r ∧
      (c.inVersion subset .mathml4).rules.rule? tag = some { r with attributes := given } := by
  rcases RuleSet.rule?_cases tag with ⟨-, r, given, h3, h4, -⟩ | ⟨-, h⟩
  · exact .inr ⟨r, given, h3, h4⟩
  · exact .inl h

theorem rejects_inVersion (parent : Node) (tag : String) :
    rejects (c.inVersion subset .mathml4) parent tag =
      rejects (c.inVersion subset .mathml3) parent tag := by
  unfold rejects
  rcases rule?_inVersion c subset parent.tag with h | ⟨r, given, h3, h4⟩
  · rw [h]
  · rw [h3, h4]
    rfl

theorem relisted_inVersion (tag : String) :
    (c.inVersion subset .mathml3).rules.Relisted (c.inVersion subset .mathml4).rules tag := by
  rcases rule?_inVersion c subset tag with h | ⟨r, given, h3, h4⟩
  · exact RuleSet.relisted_of_eq h
  · refine ⟨r.children, given, ?_⟩
    rw [h3, h4, Option.map_some]

theorem legacy_inVersion :
    legacy (c.inVersion subset .mathml4) n = legacy (c.inVersion subset .mathml3) n :=
  legacy_of_relisted (relisted_inVersion c subset n.tag) rfl

theorem parent_inVersion :
    parent (c.inVersion subset .mathml4) n = parent (c.inVersion subset .mathml3) n := by
  unfold parent
  simp only [rejects_inVersion]
  rcases rule?_inVersion c subset n.tag with h | ⟨r, given, h3, h4⟩
  · rw [h]
  · rw [h3, h4]

theorem requiredAttributes_inVersion :
    requiredAttributes (c.inVersion subset .mathml4) n =
      requiredAttributes (c.inVersion subset .mathml3) n :=
  requiredAttributes_of_relisted (relisted_inVersion c subset n.tag)

theorem arity_inVersion :
    arity (c.inVersion subset .mathml4) n = arity (c.inVersion subset .mathml3) n :=
  arity_of_relisted (relisted_inVersion c subset n.tag)

theorem children_inVersion :
    children (c.inVersion subset .mathml4) n = children (c.inVersion subset .mathml3) n := by
  unfold children
  simp only [rejects_inVersion]

theorem contextDeprecated_inVersion :
    (c.inVersion subset .mathml4).deprecatedAttributes =
      (c.inVersion subset .mathml3).deprecatedAttributes :=
  RuleSet.deprecatedAttributes_mathml4

theorem deprecatedAttributes_inVersion :
    deprecatedAttributes (c.inVersion subset .mathml4) n =
      deprecatedAttributes (c.inVersion subset .mathml3) n :=
  deprecatedAttributes_of_relisted (relisted_inVersion c subset n.tag)
    (contextDeprecated_inVersion c subset)

theorem attributeValues_inVersion :
    attributeValues (c.inVersion subset .mathml4) n =
      attributeValues (c.inVersion subset .mathml3) n := by
  have hrules : (c.inVersion subset .mathml4).valueRules =
      (c.inVersion subset .mathml3).valueRules := Context.valueRules4_eq
  unfold attributeValues
  rw [hrules]

theorem mathvariant_inVersion :
    mathvariant (c.inVersion subset .mathml4) n = mathvariant (c.inVersion subset .mathml3) n := by
  have hvariants : knownVariants (c.inVersion subset .mathml4) =
      knownVariants (c.inVersion subset .mathml3) := by
    have hname : "mathvariant" ∈ Catalog.attributes.map (·.name) := by decide
    have hsame : (c.inVersion subset .mathml4).rules.bundle.attributes.find?
          (·.name == "mathvariant") =
        (c.inVersion subset .mathml3).rules.bundle.attributes.find? (·.name == "mathvariant") :=
      RuleSet.attribute?_mathml4 hname
    unfold knownVariants
    rw [hsame]
  unfold mathvariant
  rw [hvariants]

/-- What is outside of the subset is reported with the profile quoted. -/
theorem boundary_of_tier {c : Context} {tier : String} (htier : c.profile.subset.tier = .ok tier)
    (hwarnings : c.profile.boundaryWarnings = true) :
    boundary c n =
      if (c.rules.specs n.tag).contains tier || isAnnotationContent c n then .ok []
      else .ok [outsideSubset.finding .warn
        ("Element <" ++ n.tag ++ "> is not part of " ++ tier ++ quotation c.profile)] := by
  simp only [append_quotation]
  unfold boundary
  simp only [hwarnings, htier]
  rfl

/-- What is outside of the subset is the same, but for the profile that is quoted. -/
theorem boundary_inVersion :
    boundary (c.inVersion subset .mathml4) n =
      (boundary (c.inVersion subset .mathml3) n).map (upgraded subset) := by
  cases subset with
  | presentation => rfl
  | unlisted name => rfl
  | core =>
    have hspecs : (c.inVersion .core .mathml4).rules.specs n.tag =
        (c.inVersion .core .mathml3).rules.specs n.tag := RuleSet.specs_mathml4 n.tag
    have hcontent : isAnnotationContent (c.inVersion .core .mathml4) n =
        isAnnotationContent (c.inVersion .core .mathml3) n := rfl
    rw [boundary_of_tier n rfl rfl, boundary_of_tier n rfl rfl, hspecs, hcontent]
    split
    · rfl
    · have hquote : requote (.ofSubset .core "mathml3") (.ofSubset .core "mathml4")
          (outsideSubset.finding .warn ("Element <" ++ n.tag ++ "> is not part of " ++
            "mathml-core" ++ quotation (.ofSubset .core "mathml3"))) =
          outsideSubset.finding .warn ("Element <" ++ n.tag ++ "> is not part of " ++
            "mathml-core" ++ quotation (.ofSubset .core "mathml4")) := requote_of_end rfl rfl
      exact congrArg (fun f => Except.ok [f]) hquote.symm

theorem exists_quotation_of_boundary {outside : List Finding} (h : boundary c n = .ok outside)
    {f : Finding} (hf : f ∈ outside) : ∃ start, f.message = start ++ quotation c.profile := by
  cases hwarnings : c.profile.boundaryWarnings with
  | false =>
    have hnone : boundary c n = .ok [] := by simp [boundary, hwarnings, pure, Except.pure]
    rw [hnone] at h
    cases h
    exact absurd hf List.not_mem_nil
  | true =>
    cases htier : c.profile.subset.tier with
    | error e =>
      have herror : boundary c n = .error e := by
        simp [boundary, hwarnings, htier, bind, Except.bind]
      rw [herror] at h
      cases h
    | ok tier =>
      rw [boundary_of_tier n htier hwarnings] at h
      split at h
      · cases h
        exact absurd hf List.not_mem_nil
      · cases h
        rw [List.mem_singleton.mp hf]
        exact ⟨_, rfl⟩

/-- A finding about the subset of the profile quotes the profile. -/
theorem exists_quotation_of_tag {fs : List Finding} (h : tag c n = .ok fs) {f : Finding}
    (hf : f ∈ fs) (hcode : f.code = "L070") :
    ∃ start, f.message = start ++ quotation c.profile := by
  unfold tag at h
  split at h
  · cases h
    rw [List.mem_singleton.mp hf] at hcode
    exact absurd hcode (by decide : unknownTag.code ≠ "L070")
  · cases hb : boundary c n with
    | error e => rw [hb] at h; cases h
    | ok outside =>
      rw [hb] at h
      cases h
      rcases List.mem_append.mp hf with hf | hf
      · exact exists_quotation_of_boundary c n hb hf
      · exact absurd hcode ((covers_legacy c n).code_ne (by decide) hf)

theorem tag_inVersion :
    tag (c.inVersion subset .mathml4) n =
      (tag (c.inVersion subset .mathml3) n).map (upgraded subset) := by
  have hknows : (c.inVersion subset .mathml4).rules.knows n.tag =
      (c.inVersion subset .mathml3).rules.knows n.tag := RuleSet.knows_mathml4 n.tag
  have hlegacy : upgraded subset (legacy (c.inVersion subset .mathml3) n) =
      legacy (c.inVersion subset .mathml3) n := upgraded_of_covers (covers_legacy _ n) (by decide)
  unfold tag
  rw [hknows, boundary_inVersion, legacy_inVersion]
  cases (c.inVersion subset .mathml3).rules.knows n.tag with
  | false => rfl
  | true =>
    cases boundary (c.inVersion subset .mathml3) n with
    | error e => rfl
    | ok outside =>
      refine congrArg Except.ok ?_
      rw [upgraded_append, hlegacy]

/-- The attributes that a presentation element may have are the same, but for those of intent
annotations. -/
theorem mem_allowedAttributes_inVersion {a : String} :
    a ∈ allowedAttributes (c.inVersion subset .mathml4) n ↔
      a ∈ allowedAttributes (c.inVersion subset .mathml3) n ∨
        n.tag ∈ Catalog.presentationTags ∧ a ∈ intentAttributes := by
  have htags : ∀ t ∈ Catalog.presentationTags,
      t.toList.all (·.toNat < 0x80) = true ∧ Text.lower t = t := by decide
  have hlower : Text.lower n.tag ∈ Catalog.presentationTags ↔ n.tag ∈ Catalog.presentationTags :=
    Text.lower_lower_mem_iff htags _
  have hglobal : (c.inVersion subset .mathml4).rules.globalAttributes =
      (c.inVersion subset .mathml3).rules.globalAttributes := rfl
  unfold allowedAttributes
  rw [hglobal]
  rcases RuleSet.rule?_cases n.tag with ⟨htag, r, given, h3, h4, hgiven⟩ | ⟨htag, h⟩
  · have h3' : (c.inVersion subset .mathml3).rules.rule? n.tag = some r := h3
    have h4' : (c.inVersion subset .mathml4).rules.rule? n.tag =
        some { r with attributes := given } := h4
    have hin := hlower.mp htag
    simp only [h3', h4', Option.map_some, Option.getD_some, List.mem_append, hgiven, hin, true_and,
      or_assoc]
  · have h' : (c.inVersion subset .mathml4).rules.rule? n.tag =
        (c.inVersion subset .mathml3).rules.rule? n.tag := h
    have hout := mt hlower.mpr htag
    simp only [h', hout, false_and, or_false]

theorem allowsAttribute_inVersion {name : String} (hname : ∃ s, name = Text.lower s) :
    allowsAttribute (allowedAttributes (c.inVersion subset .mathml4) n) name = true ↔
      allowsAttribute (allowedAttributes (c.inVersion subset .mathml3) n) name = true ∨
        name ∈ intentAttributes ∧ n.tag ∈ Catalog.presentationTags := by
  have hnames : ∀ t ∈ intentAttributes,
      t.toList.all (·.toNat < 0x80) = true ∧ Text.lower t = t := by decide
  have hlower : Text.lower name ∈ intentAttributes ↔ name ∈ intentAttributes := by
    obtain ⟨s, rfl⟩ := hname
    exact Text.lower_lower_mem_iff hnames s
  have hdata : "data-*" ∉ intentAttributes := by decide
  have hevent : "on*" ∉ intentAttributes := by decide
  simp only [allowsAttribute, Bool.or_eq_true, Bool.and_eq_true, List.contains_iff_mem,
    mem_allowedAttributes_inVersion, hlower, hdata, hevent, and_false, or_false]
  grind

/-- An attribute is checked alike, but for those of intent annotations. -/
theorem attributeName_inVersion {name : String} (hname : ∃ s, name = Text.lower s) :
    attributeName (c.inVersion subset .mathml4) n name =
      upgraded subset (attributeName (c.inVersion subset .mathml3) n name) := by
  have hprefixes : (c.inVersion subset .mathml4).metadataPrefixes =
      (c.inVersion subset .mathml3).metadataPrefixes := rfl
  have hignore : (c.inVersion subset .mathml4).ignoreMetadata =
      (c.inVersion subset .mathml3).ignoreMetadata := rfl
  unfold attributeName
  rw [hprefixes, hignore, contextDeprecated_inVersion]
  split
  · rfl
  split
  · rfl
  split
  · split
    · rfl
    · rw [upgraded_unknownAttribute, isIntentComplaint_metadata]
      rfl
  split
  · rfl
  have hallows := allowsAttribute_inVersion c n subset hname
  rw [← isIntentComplaint_unrecognized] at hallows
  by_cases h3 : allowsAttribute (allowedAttributes (c.inVersion subset .mathml3) n) name = true
  · rw [if_pos h3, if_pos (hallows.mpr (.inl h3))]
    rfl
  · rw [if_neg h3, upgraded_unknownAttribute]
    refine if_congr (hallows.trans (or_iff_right h3)) rfl rfl

theorem coreSupport_inVersion :
    coreSupport (c.inVersion subset .mathml4) n = coreSupport (c.inVersion subset .mathml3) n := by
  have hseverity : (c.inVersion subset .mathml4).coreSeverity =
      (c.inVersion subset .mathml3).coreSeverity := rfl
  unfold coreSupport
  rw [hseverity]

theorem exists_lower_of_mem_attributes {a : String × String} (h : a ∈ n.attributes) :
    ∃ s, a.1 = Text.lower s := by
  obtain ⟨b, -, rfl⟩ := List.mem_map.mp (mem_of_mem_table h)
  exact ⟨_, rfl⟩

theorem attributes_inVersion :
    attributes (c.inVersion subset .mathml4) n =
      upgraded subset (attributes (c.inVersion subset .mathml3) n) := by
  unfold attributes
  rw [upgraded_flatMap]
  exact List.flatMap_congr fun a ha =>
    attributeName_inVersion c n subset (exists_lower_of_mem_attributes n ha)

end Structure

namespace Ambiguity

theorem semantics_inVersion :
    semantics (c.inVersion subset .mathml4) n = semantics (c.inVersion subset .mathml3) n := by
  have hhints : (c.inVersion subset .mathml4).profile.semanticsHints =
      (c.inVersion subset .mathml3).profile.semanticsHints := rfl
  unfold semantics
  rw [hhints]

theorem hints_inVersion :
    hints (c.inVersion subset .mathml4) n = hints (c.inVersion subset .mathml3) n := by
  have hhints : (c.inVersion subset .mathml4).profile.semanticsHints =
      (c.inVersion subset .mathml3).profile.semanticsHints := rfl
  unfold hints
  rw [hhints]

end Ambiguity

/-! ## All checks -/

namespace Check

open Finding

/-- All checks but two run alike under both versions. -/
theorem run_inVersion_eq {k : Check} (htag : k ≠ tag) (hattributes : k ≠ attributes) :
    k.run (c.inVersion subset .mathml4) n = k.run (c.inVersion subset .mathml3) n := by
  cases k with
  | tag => exact absurd rfl htag
  | attributes => exact absurd rfl hattributes
  | parent => exact congrArg Except.ok (Structure.parent_inVersion c n subset)
  | deprecatedAttributes =>
    exact congrArg Except.ok (Structure.deprecatedAttributes_inVersion c n subset)
  | requiredAttributes =>
    exact congrArg Except.ok (Structure.requiredAttributes_inVersion c n subset)
  | attributeValues => exact Structure.attributeValues_inVersion c n subset
  | mathvariant => exact congrArg Except.ok (Structure.mathvariant_inVersion c n subset)
  | children => exact congrArg Except.ok (Structure.children_inVersion c n subset)
  | arity => exact congrArg Except.ok (Structure.arity_inVersion c n subset)
  | coreSupport => exact congrArg Except.ok (Structure.coreSupport_inVersion c n subset)
  | semantics => exact congrArg Except.ok (Ambiguity.semantics_inVersion c n subset)
  | hints => exact congrArg Except.ok (Ambiguity.hints_inVersion c n subset)
  | _ => simp only [run]

/-- What a check gives under version 4 is what it gives under version 3, upgraded. -/
theorem run_inVersion (k : Check) :
    k.run (c.inVersion subset .mathml4) n =
      (k.run (c.inVersion subset .mathml3) n).map (upgraded subset) := by
  have hother : ∀ k ∈ all, k ≠ tag → k ≠ attributes →
      "L020" ∉ k.diagnostics.map Diagnostic.code ∧ "L070" ∉ k.diagnostics.map Diagnostic.code := by
    decide
  by_cases htag : k = tag
  · subst htag
    exact Structure.tag_inVersion c n subset
  by_cases hattributes : k = attributes
  · subst hattributes
    exact congrArg Except.ok (Structure.attributes_inVersion c n subset)
  · rw [run_inVersion_eq c n subset htag hattributes]
    cases hrun : k.run (c.inVersion subset .mathml3) n with
    | error e => rfl
    | ok fs =>
      have hkinds := hother k (mem_all k) htag hattributes
      exact congrArg Except.ok (upgraded_of_covers (covers_run hrun) hkinds).symm

/-- What a sweep gives under version 4 is what it gives under version 3, upgraded. -/
theorem sweep_inVersion (checks : List Check) (nodes : List Node) :
    sweep (c.inVersion subset .mathml4) checks nodes =
      (sweep (c.inVersion subset .mathml3) checks nodes).map (upgraded subset) :=
  sweep_map rfl (fun _ _ => upgraded_append) fun n _ k _ => run_inVersion c n subset k

end Check

/-! ## Reports -/

section Reports

open Finding

variable {read : XmlReader} {checks : List Check} {source : String}

theorem upgraded_opening (read : XmlReader) (source : String) :
    upgraded subset (opening read source) = opening read source :=
  upgraded_of_covers (covers_opening false read source) (by decide)

/-- A finding about the subset of its profile quotes it. -/
def Quotes (p : Profile) (f : Finding) : Prop :=
  f.code = "L070" → ∃ start, f.message = start ++ quotation p

/-- Findings that quote a profile are told apart with another profile quoted. -/
theorem key_requote_iff {old new : Profile} {f g : Finding} (hf : Quotes old f)
    (hg : Quotes old g) : f.key = g.key ↔ (requote old new f).key = (requote old new g).key := by
  have hcode (f : Finding) : (requote old new f).code = f.code := by
    unfold requote
    split <;> rfl
  by_cases h : f.code = g.code
  · by_cases h070 : f.code = "L070"
    · obtain ⟨start, hstart⟩ := hf h070
      obtain ⟨start', hstart'⟩ := hg (h ▸ h070)
      rw [requote_of_end h070 hstart, requote_of_end (h ▸ h070) hstart']
      simp [key, hstart, hstart']
    · have hsame (f : Finding) (h : f.code ≠ "L070") : requote old new f = f := by
        simp [requote, h]
      rw [hsame f h070, hsame g (h ▸ h070)]
  · constructor
    · exact fun hkey => absurd (congrArg (fun k => k.2.1) hkey) h
    · intro hkey
      have hcodes : (requote old new f).code = (requote old new g).code :=
        congrArg (fun k => k.2.1) hkey
      rw [hcode, hcode] at hcodes
      exact absurd hcodes h

/-- Repeats are the same before and after the upgrade. -/
theorem unique_upgraded {fs : List Finding}
    (hfs : ∀ f ∈ fs, Quotes (Profile.ofSubset subset "mathml3") f) :
    unique (upgraded subset fs) = upgraded subset (unique fs) := by
  have hfilter : ∀ f g : Finding, f.key = g.key →
      (!f.isIntentComplaint) = !g.isIntentComplaint := by
    intro f g hkey
    simp only [key, Prod.mk.injEq] at hkey
    rw [isIntentComplaint, isIntentComplaint, hkey.2.1, hkey.2.2.2]
  unfold upgraded unique
  rw [filter_distinctBy hfilter]
  refine distinctBy_map fun f hf g hg => ?_
  exact key_requote_iff (hfs f (List.mem_filter.mp hf).1) (hfs g (List.mem_filter.mp hg).1)

theorem quotes_of_mem_reports {c : Context} {n : Node} {k : Check} {f : Finding}
    (hf : f ∈ Check.reports c n k) : Quotes c.profile f := by
  have hother : ∀ k ∈ Check.all, k ≠ .tag → "L070" ∉ k.diagnostics.map Diagnostic.code := by decide
  intro hcode
  by_cases hk : k = .tag
  · subst hk
    cases hrun : Structure.tag c n with
    | error e =>
      rw [Check.reports, Check.run, hrun] at hf
      exact absurd hf List.not_mem_nil
    | ok fs =>
      rw [Check.reports, Check.run, hrun] at hf
      exact Structure.exists_quotation_of_tag c n hrun hf hcode
  · have hne := hother k (Check.mem_all k) hk
    exact absurd hcode ((Check.covers_reports c n k).code_ne hne hf)

/-- The remark that there are no findings is put in before or after the upgrade. -/
theorem orNoFindings_upgraded (fs : List Finding) :
    orNoFindings (upgraded subset (orNoFindings fs)) = orNoFindings (upgraded subset fs) := by
  cases fs <;> rfl

/-- What is found under version 3, upgraded and without repeats, is the upgraded report. -/
theorem orNoFindings_unique_upgraded {c : Context}
    (hprofile : c.profile = Profile.ofSubset subset "mathml3") {nodes : List Node} :
    orNoFindings (unique (opening read source ++ upgraded subset (Check.swept c checks nodes))) =
      orNoFindings (upgraded subset
        (orNoFindings (unique (opening read source ++ Check.swept c checks nodes)))) := by
  have hquotes : ∀ f ∈ opening read source ++ Check.swept c checks nodes,
      Quotes (Profile.ofSubset subset "mathml3") f := by
    intro f hf
    rw [← hprofile]
    rcases List.mem_append.mp hf with hf | hf
    · exact fun hcode => absurd hcode ((covers_opening false read source).code_ne (by decide) hf)
    · obtain ⟨n, -, k, -, hf⟩ := Check.mem_swept.mp hf
      exact quotes_of_mem_reports hf
  rw [orNoFindings_upgraded, ← unique_upgraded subset hquotes, upgraded_append, upgraded_opening]

theorem ofProfile_eq_inVersion (o : Options) (v : Version) :
    Context.ofProfile (.ofSubset subset v.name) o =
      (Context.ofProfile (.ofSubset subset v.name) o).inVersion subset v := by
  have hname : Version.ofName? (Text.lower v.name) = some v := by cases v <;> decide
  have hrules : RuleSet.ofName v.name = RuleSet.ofVersion v := by
    rw [RuleSet.ofName, hname]
    rfl
  simp only [Context.ofProfile, Context.inVersion, Context.mk.injEq, true_and, and_true]
  exact hrules

/-- Under options that differ in the version of the profile, linting fails alike, and a report under
version 4 is that under version 3 without the complaints about the attributes of intent annotations,
and with the other profile quoted. -/
theorem lint_version {o3 o4 : Options}
    (h3 : o3.profile.profile = .ok (Profile.ofSubset subset "mathml3"))
    (h4 : o4.profile.profile = .ok (Profile.ofSubset subset "mathml4"))
    (hignore : o3.ignoreMetadata = o4.ignoreMetadata)
    (hprefixes : o3.metadataPrefixes = o4.metadataPrefixes) :
    lint read o4 checks source =
      (lint read o3 checks source).map fun r =>
        { r with
          profile := Profile.ofSubset subset "mathml4"
          findings := orNoFindings (upgraded subset r.findings) } := by
  have hc3 : Context.ofProfile (.ofSubset subset "mathml3") o3 =
      (Context.ofProfile (.ofSubset subset "mathml3") o3).inVersion subset .mathml3 :=
    ofProfile_eq_inVersion subset o3 .mathml3
  have hc4 : Context.ofProfile (.ofSubset subset "mathml4") o4 =
      (Context.ofProfile (.ofSubset subset "mathml3") o3).inVersion subset .mathml4 := by
    refine (ofProfile_eq_inVersion subset o4 .mathml4).trans ?_
    simp only [Context.inVersion, Context.ofProfile, hignore, hprefixes]
  rw [lint_eq h3, lint_eq h4, hc4, Check.sweep_inVersion, ← hc3]
  cases hs : Check.sweep (.ofProfile (.ofSubset subset "mathml3") o3) checks
      (lintedNodes read source) with
  | error e => rfl
  | ok swept =>
    obtain ⟨-, rfl⟩ := Check.sweep_eq_ok_iff.mp hs
    have hprofile : (Context.ofProfile (.ofSubset subset "mathml3") o3).profile =
        Profile.ofSubset subset "mathml3" := rfl
    simp only [Except.map, orNoFindings_unique_upgraded subset hprofile]

/-- A document with an attribute that version 4 adds, one that it does not know, and an element
outside of MathML Core. -/
def annotatedSource : String :=
  "<math><mstyle intent=\"x\" foo=\"y\"><mfenced/></mstyle></math>"

/-- The law on `annotatedSource`, under the two profiles of MathML Core. -/
theorem lint_version_annotated :
    ∃ r3 r4,
      lint readXml { profile := .named (.str "core-mathml3") } [.tag, .attributes]
        annotatedSource = .ok r3 ∧
      lint readXml { profile := .named (.str "core-mathml4") } [.tag, .attributes]
        annotatedSource = .ok r4 ∧
      r3.codes = ["L005", "L020", "L020", "L070", "L011"] ∧
      r4.codes = ["L005", "L020", "L070", "L011"] ∧
      r4.findings = orNoFindings (upgraded .core r3.findings) := by
  obtain ⟨r3, h3, hcodes3⟩ : ∃ r, lint readXml { profile := .named (.str "core-mathml3") }
      [.tag, .attributes] annotatedSource = .ok r ∧
      r.codes = ["L005", "L020", "L020", "L070", "L011"] :=
    exists_report_of_codes (by decide +kernel)
  obtain ⟨r4, h4, hcodes4⟩ : ∃ r, lint readXml { profile := .named (.str "core-mathml4") }
      [.tag, .attributes] annotatedSource = .ok r ∧ r.codes = ["L005", "L020", "L070", "L011"] :=
    exists_report_of_codes (by decide +kernel)
  have hp3 : (ProfileChoice.named (.str "core-mathml3")).profile =
      .ok (Profile.ofSubset .core "mathml3") := rfl
  have hp4 : (ProfileChoice.named (.str "core-mathml4")).profile =
      .ok (Profile.ofSubset .core "mathml4") := rfl
  have law := @lint_version .core readXml [.tag, .attributes] annotatedSource
    { profile := .named (.str "core-mathml3") } { profile := .named (.str "core-mathml4") }
    hp3 hp4 rfl rfl
  rw [h3, h4] at law
  refine ⟨r3, r4, h3, h4, hcodes3, hcodes4, ?_⟩
  rw [Except.ok.inj law]

end Reports

end MathLint

import Mathlib.Data.List.Nodup
import MathLint.Proofs.Sweep

/-!
# The kinds of issues that each check reports

A check reports only issues of its own kinds (`Check.diagnostics`), and the gravity of an issue
follows from its kind and from whether the profile is one of MathML Core (`Diagnostic.severity`).

* `Diagnostic.code_injective`: a code stands for one kind of issue.
* `Diagnostic.Covers`: the findings of a list are about some kinds of issues, each as grave as its
  kind is.
* `Check.covers_reports`: what a check reports is covered by its kinds.
* `Check.eq_of_code_eq`: no two checks share a code.
-/

namespace MathLint

namespace Diagnostic

/-- Every kind of issue. -/
def all : List Diagnostic := [
  noFindings, emptyExpression, invalidXml, unexpectedRoot, unexpectedNamespace, missingNamespace,
  assumedNamespace, unknownTag, deprecatedElement, missingAttribute, misplacedElement,
  unknownAttribute, ignoredAttribute, invalidValue, deprecatedAttribute, splitNumber, scriptBase,
  mathvariantUsage, ambiguousOperand, splitCommandName, splitOperatorName, invalidChild,
  missingApplication, plainLanguage, uncommonMathvariant, negativeSpace, overstrike,
  annotationFallback, missingTimes, missingSeparator, missingPlus, childCount, tooFewChildren,
  tokenStructure, largeGroup, longToken, bareSemantics, outsideSubset, coreElement, coreAttribute]

theorem mem_all (d : Diagnostic) : d ∈ all := by cases d <;> decide

/-- A code stands for one kind of issue. -/
theorem code_injective {d e : Diagnostic} (h : d.code = e.code) : d = e := by
  have hnodup : (all.map code).Nodup := by decide
  exact List.inj_on_of_nodup_map hnodup (mem_all d) (mem_all e) h

/-- How grave an issue of a kind is, under a profile of MathML Core or another one. -/
def severity (core : Bool) : Diagnostic → Severity
  | noFindings => .ok
  | emptyExpression | assumedNamespace | uncommonMathvariant | missingTimes | largeGroup
  | longToken | bareSemantics => .info
  | invalidXml => .error
  | deprecatedElement => if core then .error else .warn
  | coreElement | coreAttribute => if core then .warn else .info
  | _ => .warn

/-- Every finding is about one of the kinds, and as grave as that kind is. -/
def Covers (core : Bool) (kinds : List Diagnostic) (fs : List Finding) : Prop :=
  ∀ f ∈ fs, ∃ d ∈ kinds, ∃ message, f = d.finding (d.severity core) message

namespace Covers

variable {core : Bool} {kinds : List Diagnostic} {fs gs : List Finding} {d : Diagnostic}

theorem nil : Covers core kinds [] := by simp [Covers]

theorem single {s : Severity} {message : String} (hd : d ∈ kinds) (hs : s = d.severity core) :
    Covers core kinds [d.finding s message] := by
  intro f hf
  exact ⟨d, hd, message, by rw [List.mem_singleton.mp hf, hs]⟩

theorem append (hf : Covers core kinds fs) (hg : Covers core kinds gs) :
    Covers core kinds (fs ++ gs) := by
  intro f h
  rcases List.mem_append.mp h with h | h
  · exact hf f h
  · exact hg f h

theorem ite {p : Prop} [Decidable p] (hf : Covers core kinds fs) (hg : Covers core kinds gs) :
    Covers core kinds (if p then fs else gs) := by
  split
  · exact hf
  · exact hg

theorem map {α : Type} {as : List α} {s : Severity} {message : α → String} (hd : d ∈ kinds)
    (hs : s = d.severity core) : Covers core kinds (as.map fun a => d.finding s (message a)) := by
  intro f hf
  obtain ⟨a, -, rfl⟩ := List.mem_map.mp hf
  exact ⟨d, hd, message a, by rw [hs]⟩

theorem flatMap {α : Type} {as : List α} {g : α → List Finding}
    (h : ∀ a ∈ as, Covers core kinds (g a)) : Covers core kinds (as.flatMap g) := by
  intro f hf
  obtain ⟨a, ha, hfa⟩ := List.mem_flatMap.mp hf
  exact h a ha f hfa

theorem mono {more : List Diagnostic} (h : Covers core kinds fs) (hsub : kinds ⊆ more) :
    Covers core more fs := by
  intro f hf
  obtain ⟨d, hd, message, rfl⟩ := h f hf
  exact ⟨d, hsub hd, message, rfl⟩

/-- What is covered for every item is covered for a gathering. -/
theorem of_gather_ok {α : Type} {g : α → Except Fault (List Finding)} {as : List α}
    (hg : ∀ a ∈ as, ∀ part, g a = .ok part → Covers core kinds part) (h : gather g as = .ok fs) :
    Covers core kinds fs := by
  have hok : ∀ a ∈ as, g a = .ok ((g a).toOption.getD []) := by
    intro a ha
    obtain ⟨part, hp⟩ := exists_of_gather_ok h a ha
    rw [hp]
    rfl
  rw [gather_eq_ok hok] at h
  cases h
  exact .flatMap fun a ha => hg a ha _ (hok a ha)

theorem of_ok (hfs : Covers core kinds fs) (h : (.ok fs : Except Fault _) = .ok gs) :
    Covers core kinds gs := Except.ok.inj h ▸ hfs

/-- Covered findings that agree in code and message are the same. -/
theorem eq_of_code_message {f g : Finding} (h : Covers core kinds fs) (hf : f ∈ fs) (hg : g ∈ fs)
    (hcode : f.code = g.code) (hmessage : f.message = g.message) : f = g := by
  obtain ⟨d, -, message, rfl⟩ := h f hf
  obtain ⟨e, -, message', rfl⟩ := h g hg
  obtain rfl := code_injective hcode
  obtain rfl : message = message' := hmessage
  rfl

/-- The code of a covered finding is that of one of the kinds. -/
theorem code_mem {f : Finding} (h : Covers core kinds fs) (hf : f ∈ fs) :
    f.code ∈ kinds.map code := by
  obtain ⟨d, hd, message, rfl⟩ := h f hf
  exact List.mem_map.mpr ⟨d, hd, rfl⟩

/-- A covered finding has no code but those of the kinds. -/
theorem code_ne {f : Finding} {code : String} (h : Covers core kinds fs)
    (hcode : code ∉ kinds.map Diagnostic.code) (hf : f ∈ fs) : f.code ≠ code :=
  fun heq => hcode (heq ▸ h.code_mem hf)

end Covers

end Diagnostic

/-! ## The structural checks -/

namespace Structure

open Diagnostic

variable (c : Context) (n : Node) (core : Bool)

theorem covers_boundary {outside : List Finding} (h : boundary c n = .ok outside) :
    Covers core [.outsideSubset] outside := by
  unfold boundary at h
  split at h
  · cases h
    exact .nil
  · cases ht : c.profile.subset.tier with
    | error e => rw [ht] at h; cases h
    | ok tier =>
      rw [ht] at h
      simp only [bind, Except.bind, pure, Except.pure] at h
      split at h
      · cases h
        exact .nil
      · cases h
        exact .single (by decide) rfl

theorem covers_legacy : Covers c.profile.isCore [.deprecatedElement] (legacy c n) :=
  .ite (.single (by decide) rfl) .nil

theorem covers_tag {fs : List Finding} (h : tag c n = .ok fs) :
    Covers c.profile.isCore [.unknownTag, .outsideSubset, .deprecatedElement] fs := by
  unfold tag at h
  split at h
  · cases h
    exact .single (by decide) rfl
  · cases hb : boundary c n with
    | error e => rw [hb] at h; cases h
    | ok outside =>
      rw [hb] at h
      cases h
      exact .append ((covers_boundary c n _ hb).mono (by decide))
        ((covers_legacy c n).mono (by decide))

theorem covers_parent : Covers core [.misplacedElement] (parent c n) := by
  unfold parent
  split
  · exact .nil
  · exact .ite .nil (.single (by decide) rfl)

theorem covers_attributes :
    Covers core [.ignoredAttribute, .unknownAttribute] (attributes c n) := by
  refine .flatMap fun a _ => ?_
  unfold attributeName
  exact .ite .nil (.ite (.single (by decide) rfl)
    (.ite (.ite .nil (.single (by decide) rfl)) (.ite .nil (.ite .nil (.single (by decide) rfl)))))

theorem covers_deprecatedAttributes :
    Covers core [.deprecatedAttribute] (deprecatedAttributes c n) := .map (by decide) rfl

theorem covers_requiredAttributes :
    Covers core [.missingAttribute] (requiredAttributes c n) := by
  unfold requiredAttributes
  split
  · exact .nil
  · exact .ite .nil (.single (by decide) rfl)

theorem covers_valueAgainst {name value : String} {rule : ValueRule} {fs : List Finding}
    (h : valueAgainst n name value rule = .ok fs) : Covers core [.invalidValue] fs := by
  unfold valueAgainst at h
  split at h
  · cases h
    exact .single (by decide) rfl
  · cases ha : rule.grammar.accepts value with
    | error e => rw [ha] at h; cases h
    | ok accepted =>
      rw [ha] at h
      cases accepted with
      | true => cases h; exact .nil
      | false => cases h; exact .single (by decide) rfl

theorem covers_attributeValues {fs : List Finding} (h : attributeValues c n = .ok fs) :
    Covers core [.invalidValue] fs := by
  refine .of_gather_ok (fun a _ part ha => ?_) h
  exact .of_gather_ok (fun rule _ part hr => covers_valueAgainst n core hr) ha

theorem covers_mathvariant :
    Covers core [.mathvariantUsage, .uncommonMathvariant] (mathvariant c n) := by
  unfold mathvariant
  split
  · exact .nil
  · exact .append (.ite .nil (.single (by decide) rfl)) (.ite (.single (by decide) rfl) .nil)

theorem covers_children : Covers core [.invalidChild] (children c n) := .map (by decide) rfl

theorem covers_arity : Covers core [.childCount, .tooFewChildren] (arity c n) := by
  unfold arity
  split
  · exact .nil
  · exact .append (.map (by decide) rfl) (.map (by decide) rfl)

theorem covers_tokens : Covers core [.tokenStructure] (tokens n) :=
  .ite (.single (by decide) rfl) .nil

theorem covers_coreSupport :
    Covers c.profile.isCore [.coreElement, .coreAttribute] (coreSupport c n) :=
  .append (.map (by decide) rfl) (.flatMap fun _ _ => .map (by decide) rfl)

end Structure

/-! ## The checks for ambiguous notation -/

namespace Ambiguity

open Diagnostic

variable (c : Context) (n : Node) (core : Bool)

theorem covers_splitNumber : Covers core [.splitNumber] (splitNumber n) := .map (by decide) rfl

theorem covers_scriptBase : Covers core [.scriptBase] (scriptBase n) := by
  refine .ite ?_ .nil
  split
  · exact .ite (.single (by decide) rfl) .nil
  · exact .nil

theorem covers_functionNames :
    Covers core [.splitCommandName, .splitOperatorName, .plainLanguage] (functionNames n) := by
  refine .flatMap fun run _ => .append ?_ (.ite (.single (by decide) rfl) .nil)
  intro f hf
  obtain ⟨name, -, rfl⟩ := List.mem_map.mp hf
  unfold splitName
  dsimp only
  split
  · exact ⟨.splitCommandName, by decide, _, rfl⟩
  · exact ⟨.splitOperatorName, by decide, _, rfl⟩

theorem covers_functionApplication : Covers core [.missingApplication] (functionApplication n) := by
  refine .ite ?_ .nil
  split
  · exact .ite .nil (.single (by decide) rfl)
  · exact .nil

theorem covers_operand : Covers core [.ambiguousOperand] (operand n) := by
  refine .ite ?_ .nil
  split
  · exact .ite .nil (.single (by decide) rfl)
  · exact .nil

theorem covers_semantics : Covers core [.annotationFallback, .bareSemantics] (semantics c n) :=
  .ite (.append (.ite (.single (by decide) rfl) .nil) (.ite (.single (by decide) rfl) .nil)) .nil

theorem covers_negativeSpace : Covers core [.negativeSpace, .overstrike] (negativeSpace n) :=
  .ite (.single (by decide) rfl) (.ite (.single (by decide) rfl) .nil)

theorem covers_times : Covers core [.missingTimes] (times n) := .ite (.map (by decide) rfl) .nil

theorem covers_separator : Covers core [.missingSeparator] (separator n) :=
  .ite (.single (by decide) rfl) .nil

theorem covers_plus : Covers core [.missingPlus] (plus n) := .ite (.map (by decide) rfl) .nil

theorem covers_hints : Covers core [.largeGroup, .longToken] (hints c n) :=
  .ite .nil (.ite (.single (by decide) rfl) (.ite (.single (by decide) rfl) .nil))

end Ambiguity

/-! ## All checks -/

namespace Check

open Diagnostic

variable {c : Context} {n : Node} {k : Check} {f : Finding}

theorem covers_run {fs : List Finding} (h : k.run c n = .ok fs) :
    Covers c.profile.isCore k.diagnostics fs := by
  cases k with
  | tag => exact Structure.covers_tag c n h
  | attributeValues => exact Structure.covers_attributeValues c n _ h
  | parent => exact .of_ok (Structure.covers_parent c n _) h
  | attributes => exact .of_ok (Structure.covers_attributes c n _) h
  | deprecatedAttributes => exact .of_ok (Structure.covers_deprecatedAttributes c n _) h
  | requiredAttributes => exact .of_ok (Structure.covers_requiredAttributes c n _) h
  | mathvariant => exact .of_ok (Structure.covers_mathvariant c n _) h
  | children => exact .of_ok (Structure.covers_children c n _) h
  | arity => exact .of_ok (Structure.covers_arity c n _) h
  | tokens => exact .of_ok (Structure.covers_tokens n _) h
  | coreSupport => exact .of_ok (Structure.covers_coreSupport c n) h
  | splitNumber => exact .of_ok (Ambiguity.covers_splitNumber n _) h
  | scriptBase => exact .of_ok (Ambiguity.covers_scriptBase n _) h
  | functionNames => exact .of_ok (Ambiguity.covers_functionNames n _) h
  | functionApplication => exact .of_ok (Ambiguity.covers_functionApplication n _) h
  | operand => exact .of_ok (Ambiguity.covers_operand n _) h
  | semantics => exact .of_ok (Ambiguity.covers_semantics c n _) h
  | negativeSpace => exact .of_ok (Ambiguity.covers_negativeSpace n _) h
  | times => exact .of_ok (Ambiguity.covers_times n _) h
  | separator => exact .of_ok (Ambiguity.covers_separator n _) h
  | plus => exact .of_ok (Ambiguity.covers_plus n _) h
  | hints => exact .of_ok (Ambiguity.covers_hints c n _) h

/-- What a check reports is about its own kinds of issues. -/
theorem covers_reports (c : Context) (n : Node) (k : Check) :
    Covers c.profile.isCore k.diagnostics (reports c n k) := by
  cases h : k.run c n with
  | ok fs => rw [reports_of_ok h]; exact covers_run h
  | error e => rw [reports, h]; exact .nil

theorem mem_all (k : Check) : k ∈ all := by cases k <;> decide

/-- The kinds of issues that the checks report. -/
def kinds : List Diagnostic := all.flatMap diagnostics

theorem diagnostics_subset_kinds (k : Check) : k.diagnostics ⊆ kinds :=
  fun _ hd => List.mem_flatMap.mpr ⟨k, mem_all k, hd⟩

theorem covers_swept (c : Context) (checks : List Check) (nodes : List Node) :
    Covers c.profile.isCore kinds (swept c checks nodes) :=
  .flatMap fun n _ => .flatMap fun k _ => (covers_reports c n k).mono (diagnostics_subset_kinds k)

/-- A kind of issue is reported by one check only. -/
theorem eq_of_mem_diagnostics {k k' : Check} {d : Diagnostic} (h : d ∈ k.diagnostics)
    (h' : d ∈ k'.diagnostics) : k = k' := by
  have hdisjoint : ∀ k ∈ all, ∀ k' ∈ all, ∀ d ∈ k.diagnostics, d ∈ k'.diagnostics → k = k' := by
    decide
  exact hdisjoint k (mem_all k) k' (mem_all k') d h h'

/-- No two checks share a code. -/
theorem eq_of_code_eq {k k' : Check} {d e : Diagnostic} (hd : d ∈ k.diagnostics)
    (he : e ∈ k'.diagnostics) (h : d.code = e.code) : k = k' :=
  eq_of_mem_diagnostics hd (code_injective h ▸ he)

end Check

end MathLint

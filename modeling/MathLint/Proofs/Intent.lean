import Mathlib.Data.List.Perm.Subperm
import MathLint.Intent
import MathLint.Proofs.Distinct

/-!
# The shape of an intent report

A report on intent takes one of four forms. A blank source and a source that is no XML have one
suggestion each. On a document, the report lists what the elements give, in document order and
without repeats; a document whose elements give nothing has one suggestion that says so. However
large a document is, its elements give no more than eight different suggestions.

* `Intent.offered`, `Intent.atNode_subset`: what elements may give.
* `Intent.suggestions_cases`, `Intent.sole_or_offered`: the forms of a report.
* `Intent.suggest_shape`: all of it for every source and every reader of XML.
-/

namespace MathLint.Intent

variable {read : XmlReader} {source : String} {root : Xml.Element}

/-! ## What elements give -/

/-- The suggestions that elements may give. -/
def offered : List Suggestion := [
  .emptyIntent, .formatting, .characters, .grouping, .relation, .fenced, .granularity "mi",
  .granularity "mn"]

theorem expression_subset (n : Node) : expression n ⊆ offered := by
  unfold expression
  split
  · exact List.nil_subset _
  · dsimp only
    split
    · decide
    · split <;> split <;> decide

theorem grouping_subset (n : Node) : grouping n ⊆ offered := by
  unfold grouping
  split <;> decide

theorem relation_subset (n : Node) : relation n ⊆ offered := by
  unfold relation
  split <;> decide

theorem fenced_subset (n : Node) : fenced n ⊆ offered := by
  unfold fenced
  split <;> decide

/-- Only two tags occur in what is said of tokens. -/
theorem granularity_subset (n : Node) : granularity n ⊆ offered := by
  unfold granularity
  split
  · rename_i h
    simp only [Bool.and_eq_true, Bool.or_eq_true, beq_iff_eq] at h
    rcases h.1.1 with htag | htag <;> rw [htag] <;> decide
  · decide

/-- An element gives nothing but what is offered. -/
theorem atNode_subset (n : Node) : atNode n ⊆ offered := by
  simp only [atNode, List.append_subset]
  exact ⟨⟨⟨⟨expression_subset n, grouping_subset n⟩, relation_subset n⟩, fenced_subset n⟩,
    granularity_subset n⟩

/-- What the elements of a document give, repeats included, in document order. -/
def found (root : Xml.Element) : List Suggestion := (Node.root root).subtree.flatMap atNode

theorem found_subset (root : Xml.Element) : found root ⊆ offered := by
  intro s hs
  obtain ⟨n, -, hs⟩ := List.mem_flatMap.mp hs
  exact atNode_subset n hs

theorem found_eq_nil_iff :
    found root = [] ↔ ∀ n ∈ (Node.root root).subtree, expression n = [] ∧ grouping n = [] ∧
      relation n = [] ∧ fenced n = [] ∧ granularity n = [] := by
  simp [found, atNode]

/-! ## The forms of a report -/

/-- The suggestions that stand alone. -/
def soles : List Suggestion := [.noInput, .skipped, .reasonable]

/-- The report on a document lists what its elements give for the first time. -/
theorem suggestions_of_document (hblank : ¬ Text.isBlankText source)
    (hread : read source = .ok root) :
    suggestions read source =
      if found root = [] then [.reasonable] else firsts id (found root) := by
  rw [suggestions, if_neg hblank, hread]
  simp only [List.isEmpty_iff, ← distinctBy_eq_firsts]
  rfl

/-- The four forms of a report. -/
theorem suggestions_cases (read : XmlReader) (source : String) :
    (Text.isBlankText source ∧ suggestions read source = [.noInput]) ∨
    (¬ Text.isBlankText source ∧ (∃ reason, read source = .error reason) ∧
      suggestions read source = [.skipped]) ∨
    ∃ root, ¬ Text.isBlankText source ∧ read source = .ok root ∧
      ((found root = [] ∧ suggestions read source = [.reasonable]) ∨
        (found root ≠ [] ∧ suggestions read source = firsts id (found root))) := by
  by_cases hblank : Text.isBlankText source
  · exact .inl ⟨hblank, if_pos hblank⟩
  · cases hread : read source with
    | error reason =>
      refine .inr (.inl ⟨hblank, ⟨reason, rfl⟩, ?_⟩)
      rw [suggestions, if_neg hblank, hread]
    | ok root =>
      refine .inr (.inr ⟨root, hblank, rfl, ?_⟩)
      rw [suggestions_of_document hblank hread]
      by_cases hnone : found root = []
      · exact .inl ⟨hnone, if_pos hnone⟩
      · exact .inr ⟨hnone, if_neg hnone⟩

theorem mem_offered_of_mem_firsts {s : Suggestion} (h : s ∈ firsts id (found root)) :
    s ∈ offered := by
  rw [← distinctBy_eq_firsts] at h
  exact found_subset root (mem_of_mem_distinctBy h)

/-- What elements give is not taken for a suggestion that stands alone. -/
theorem firsts_found_ne {s : Suggestion} (hs : s ∈ soles) : firsts id (found root) ≠ [s] := by
  have hdisjoint : ∀ s ∈ soles, s ∉ offered := by decide
  intro h
  exact hdisjoint s hs (mem_offered_of_mem_firsts (h ▸ List.mem_singleton_self s))

theorem suggestions_eq_noInput_iff :
    suggestions read source = [.noInput] ↔ Text.isBlankText source = true := by
  rcases suggestions_cases read source with ⟨hblank, hs⟩ | ⟨hblank, -, hs⟩ |
    ⟨root, hblank, -, ⟨-, hs⟩ | ⟨-, hs⟩⟩
  · simp [hs, hblank]
  · simp [hs, hblank]
  · simp [hs, hblank]
  · simp [hs, hblank, firsts_found_ne (by decide : Suggestion.noInput ∈ soles)]

theorem suggestions_eq_skipped_iff :
    suggestions read source = [.skipped] ↔
      ¬ Text.isBlankText source ∧ ∃ reason, read source = .error reason := by
  rcases suggestions_cases read source with ⟨hblank, hs⟩ | ⟨hblank, hread, hs⟩ |
    ⟨root, hblank, hread, ⟨-, hs⟩ | ⟨-, hs⟩⟩
  · simp [hs, hblank]
  · simp [hs, hblank, hread]
  · simp [hs, hread]
  · simp [hs, hread, firsts_found_ne (by decide : Suggestion.skipped ∈ soles)]

theorem suggestions_eq_reasonable_iff :
    suggestions read source = [.reasonable] ↔
      ¬ Text.isBlankText source ∧ ∃ root, read source = .ok root ∧ found root = [] := by
  rcases suggestions_cases read source with ⟨hblank, hs⟩ | ⟨-, ⟨reason, hread⟩, hs⟩ |
    ⟨root, hblank, hread, ⟨hnone, hs⟩ | ⟨hsome, hs⟩⟩
  · simp [hs, hblank]
  · simp [hs, hread]
  · simp [hs, hblank, hread, hnone]
  · simp [hs, hread, hsome, firsts_found_ne (by decide : Suggestion.reasonable ∈ soles)]

/-! ## Every report -/

/-- A report is one suggestion that stands alone, or lists offered ones without repeats. -/
theorem sole_or_offered (read : XmlReader) (source : String) :
    (∃ s ∈ soles, suggestions read source = [s]) ∨
      (suggestions read source ≠ [] ∧ (suggestions read source).Nodup ∧
        suggestions read source ⊆ offered) := by
  rcases suggestions_cases read source with ⟨-, hs⟩ | ⟨-, -, hs⟩ |
    ⟨root, -, -, ⟨-, hs⟩ | ⟨hsome, hs⟩⟩
  · exact .inl ⟨_, by decide, hs⟩
  · exact .inl ⟨_, by decide, hs⟩
  · exact .inl ⟨_, by decide, hs⟩
  · have hkeys : ((distinctBy id (found root)).map id).Nodup := nodup_map_distinctBy _
    rw [List.map_id, distinctBy_eq_firsts] at hkeys
    rw [hs]
    refine .inr ⟨?_, hkeys, fun _ => mem_offered_of_mem_firsts⟩
    rwa [← distinctBy_eq_firsts, Ne, distinctBy_eq_nil_iff]

theorem suggestions_ne_nil (read : XmlReader) (source : String) : suggestions read source ≠ [] := by
  rcases sole_or_offered read source with ⟨s, -, hs⟩ | ⟨hne, -, -⟩
  · simp [hs]
  · exact hne

theorem length_suggestions_le (read : XmlReader) (source : String) :
    (suggestions read source).length ≤ offered.length := by
  rcases sole_or_offered read source with ⟨s, -, hs⟩ | ⟨-, hnodup, hsub⟩
  · rw [hs, List.length_singleton]; decide
  · exact (List.subperm_of_subset hnodup hsub).length_le

/-- What reads the same in a report is the same. -/
theorem eq_of_toValue_eq {s t : Suggestion} (hs : s ∈ offered) (ht : t ∈ offered)
    (h : s.toValue = t.toValue) : s = t := by
  have hdistinct : (offered.map Suggestion.message).Nodup := by decide
  have hmessage : s.message = t.message := by
    simp only [Suggestion.toValue, Value.object.injEq, List.cons.injEq, Prod.mk.injEq,
      Value.str.injEq] at h
    exact h.2.2.1.2
  exact List.inj_on_of_nodup_map hdistinct hs ht hmessage

theorem nodup_map_toValue (read : XmlReader) (source : String) :
    ((suggestions read source).map Suggestion.toValue).Nodup := by
  rcases sole_or_offered read source with ⟨s, -, hs⟩ | ⟨-, hnodup, hsub⟩
  · simp [hs]
  · exact hnodup.map_on fun _ hs _ ht => eq_of_toValue_eq (hsub hs) (hsub ht)

/-- A suggestion of the best severity is the only one. -/
theorem eq_singleton_of_severity_ok {s : Suggestion} (hs : s ∈ suggestions read source)
    (hok : s.severity = .ok) : suggestions read source = [s] := by
  have hoffered : ∀ t ∈ offered, t.severity ≠ .ok := by decide
  rcases sole_or_offered read source with ⟨t, -, ht⟩ | ⟨-, -, hsub⟩
  · rw [ht, List.mem_singleton] at hs
    rw [ht, hs]
  · exact absurd hok (hoffered s (hsub hs))

/-- The shape of the report on every source, whatever the reader of XML is. -/
theorem suggest_shape (read : XmlReader) (source : String) :
    ∃ r, suggestLoose read (.str source) = .ok r ∧
      r.sourceLength = source.length ∧
      r.suggestions ≠ [] ∧
      (r.suggestions.map Suggestion.toValue).Nodup ∧
      r.suggestions.length ≤ 8 ∧
      (∀ s ∈ r.suggestions, s.severity = .ok → r.suggestions = [s]) ∧
      (r.suggestions = [.noInput] ↔ Text.isBlankText source) ∧
      (r.suggestions = [.skipped] ↔
        ¬ Text.isBlankText source ∧ ∃ reason, read source = .error reason) ∧
      (∀ root, ¬ Text.isBlankText source → read source = .ok root →
        ∃ sequence, sequence = ((Node.root root).subtree.flatMap fun n =>
            expression n ++ grouping n ++ relation n ++ fenced n ++ granularity n) ∧
          r.suggestions = if sequence = [] then [.reasonable] else firsts id sequence) ∧
      (r.suggestions = [.reasonable] ↔ ¬ Text.isBlankText source ∧ ∃ root, read source = .ok root ∧
        ∀ n ∈ (Node.root root).subtree, expression n = [] ∧ grouping n = [] ∧ relation n = [] ∧
          fenced n = [] ∧ granularity n = []) := by
  refine ⟨suggest read source, rfl, rfl, suggestions_ne_nil read source,
    nodup_map_toValue read source, length_suggestions_le read source,
    fun s hs hok => eq_singleton_of_severity_ok hs hok, suggestions_eq_noInput_iff,
    suggestions_eq_skipped_iff, fun root hblank hread => ?_, ?_⟩
  · exact ⟨found root, rfl, suggestions_of_document hblank hread⟩
  · simp only [← found_eq_nil_iff]
    exact suggestions_eq_reasonable_iff

end MathLint.Intent

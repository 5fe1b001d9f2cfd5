import MathLint.Proofs.Check.InvisibleOperator
import MathLint.Proofs.Distinct
import MathLint.Proofs.Runs.Maximal

/-!
# Runs of letters

The checks for ambiguous notation look at the runs of single letters among the children of a node.
These are the maximal ones, so neighbours that both belong to a word are letters of the same word,
and a run is reported for the function names that it spells or as prose, never as both.

* `wordIndices_neighbours_iff`: neighbours that both belong to a word.
* `spelledWord_cases`, `runReports`: what is reported on one run.
* `letterRuns_maximal`: the runs of letters, and what the checks make of them.
-/

namespace MathLint.Ambiguity

open Shape Xml

variable {n left right : Node} {i : Nat}

/-! ## Words -/

theorem index_of_neighbours (h : (neighbours n.children)[i]? = some (left, right)) :
    left.index = i ∧ right.index = i + 1 := by
  rw [getElem?_neighbours_children] at h
  obtain ⟨x, -, hx⟩ := Option.map_eq_some_iff.mp h
  obtain ⟨rfl, rfl⟩ := Prod.mk.inj hx
  exact ⟨rfl, rfl⟩

theorem hasThree_children_iff {j : Nat} :
    HasThree isSingleLetter n.children j ↔ HasThree isLetter n.element.content.elements j := by
  simp only [HasThree, passesAt_children]

/-- Neighbours both belong to a word exactly if one maximal run of at least three letters has both
of them. -/
theorem wordIndices_neighbours_iff (h : (neighbours n.children)[i]? = some (left, right)) :
    left.index ∈ wordIndices n.children ∧ right.index ∈ wordIndices n.children ↔
      ∃ first stop, IsMaximalRun isSingleLetter n.children first stop ∧ first + 3 ≤ stop ∧
        first ≤ i ∧ i + 1 < stop := by
  obtain ⟨hleft, hright⟩ := index_of_neighbours h
  rw [hleft, hright, mem_wordIndices_iff, mem_wordIndices_iff, hasThree_both_iff,
    exists_longRun_iff]
  simp only [hasThree_children_iff]

/-! ## Reports on a run -/

/-- What is reported on a run of small letters. -/
def runReports (run : List Node) : List Finding :=
  if 2 ≤ run.length then spelledWord (String.join (run.map Node.trimmed)) else []

theorem functionNames_eq (n : Node) :
    functionNames n = (runs isSingleLower n.children).flatMap runReports := by
  have hshort : ∀ run ∈ runs isSingleLower n.children, decide (2 ≤ run.length) = false →
      runReports run = [] := fun run _ hlength => if_neg (of_decide_eq_false hlength)
  rw [← flatMap_filter hshort]
  refine List.flatMap_congr fun run hrun => ?_
  rw [runReports, if_pos (of_decide_eq_true (List.mem_filter.mp hrun).2)]

theorem code_splitName (name : String) :
    (splitName name).code = "L028" ∨ (splitName name).code = "L029" := by
  unfold splitName
  dsimp only
  split
  · exact .inl rfl
  · exact .inr rfl

/-- A word is reported for the function names in it, or as prose. -/
theorem spelledWord_cases (word : String) :
    (∀ f ∈ spelledWord word, f.code = "L028" ∨ f.code = "L029") ∨
      ∀ f ∈ spelledWord word, f.code = "L032" := by
  unfold spelledWord
  dsimp only
  cases FunctionName.find word with
  | nil =>
    refine .inr fun f hf => ?_
    rw [List.map_nil, List.nil_append] at hf
    split at hf
    · rw [List.mem_singleton.mp hf]
      rfl
    · cases hf
  | cons name names =>
    refine .inl fun f hf => ?_
    rw [List.isEmpty_cons, Bool.false_and, if_neg (by decide), List.append_nil] at hf
    obtain ⟨spelled, -, rfl⟩ := List.mem_map.mp hf
    exact code_splitName spelled

theorem not_prose_and_name (run : List Node) :
    ¬((∃ f ∈ runReports run, f.code = "L032") ∧
      ∃ f ∈ runReports run, f.code = "L028" ∨ f.code = "L029") := by
  rintro ⟨⟨f, hf, hprose⟩, g, hg, hname⟩
  unfold runReports at hf hg
  split at hf
  · rw [if_pos ‹_›] at hg
    rcases spelledWord_cases (String.join (run.map Node.trimmed)) with hnames | hwhole
    · have hf := hnames f hf
      simp [hprose] at hf
    · have hg := hwhole g hg
      simp [hg] at hname
  · cases hf

/-! ## Runs of letters -/

/-- The runs among nodes that pass a test, be it for letters or for small letters, are not empty,
have just the nodes that pass, and are the maximal blocks of such nodes, in order. Two neighbours
below a node both belong to a word exactly if one such block of at least three letters has both of
them, and no run of small letters is reported as prose and for a function name. -/
theorem letterRuns_maximal :
    (∀ (p : Node → Bool) (nodes : List Node),
      (∀ run ∈ runs p nodes, run ≠ []) ∧
      (runs p nodes).flatten = nodes.filter p ∧
      ∃ spans : List (Nat × Nat), runs p nodes = spans.map (itemsAt nodes) ∧
        (∀ first stop, (first, stop) ∈ spans ↔ IsMaximalRun p nodes first stop) ∧
        spans.Pairwise fun s t => s.2 < t.1) ∧
    (∀ (n left right : Node) (i : Nat), (neighbours n.children)[i]? = some (left, right) →
      (left.index ∈ wordIndices n.children ∧ right.index ∈ wordIndices n.children ↔
        ∃ first stop, IsMaximalRun isSingleLetter n.children first stop ∧ first + 3 ≤ stop ∧
          first ≤ i ∧ i + 1 < stop)) ∧
    ∀ n : Node, functionNames n = (runs isSingleLower n.children).flatMap runReports ∧
      ∀ run ∈ runs isSingleLower n.children,
        ¬((∃ f ∈ runReports run, f.code = "L032") ∧
          ∃ f ∈ runReports run, f.code = "L028" ∨ f.code = "L029") := by
  refine ⟨fun p nodes => ?_, fun n left right i => wordIndices_neighbours_iff,
    fun n => ⟨functionNames_eq n, fun run _ => not_prose_and_name run⟩⟩
  obtain ⟨spans, hruns, hspans⟩ := exists_spans_runs p nodes
  refine ⟨fun run hrun => ?_, flatten_runs p nodes, spans, hruns, fun _ _ => hspans.mem_iff,
    hspans.apart⟩
  rw [hruns] at hrun
  obtain ⟨⟨first, stop⟩, hmem, rfl⟩ := List.mem_map.mp hrun
  exact itemsAt_ne_nil (hspans.mem_iff.mp hmem)

/-- The law on a word behind a letter and an operator: the first two letters of the word are in a
long run, the letter and the operator are not. -/
theorem letterRuns_maximal_word :
    let letter := fun text rest => Content.element ⟨"", "mi"⟩ [] (.chars text .nil) rest
    let word := letter "a" (letter "b" (letter "c" .nil))
    let n := Node.root ⟨⟨"", "math"⟩, [],
      letter "x" (.element ⟨"", "mo"⟩ [] (.chars "+" .nil) word)⟩
    (∃ first stop, IsMaximalRun isSingleLetter n.children first stop ∧ first + 3 ≤ stop ∧
      first ≤ 2 ∧ 2 + 1 < stop) ∧
    ¬∃ first stop, IsMaximalRun isSingleLetter n.children first stop ∧ first + 3 ≤ stop ∧
      first ≤ 0 ∧ 0 + 1 < stop := by
  intro letter word n
  obtain ⟨-, hwords, -⟩ := letterRuns_maximal
  exact ⟨(hwords n _ _ 2 rfl).mp (by decide), mt (hwords n _ _ 0 rfl).mpr (by decide)⟩

end MathLint.Ambiguity

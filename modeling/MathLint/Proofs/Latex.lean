import Mathlib.Data.List.Infix
import MathLint.Latex
import MathLint.Proofs.Text.Words

/-!
# Delimiters of LaTeX

The delimiters around an expression make no difference to what the converter is called with, nor
does white space inside or outside of them. The converter is called at most once, and with a text
that has something in it.

* `between?_eq_some_iff`, `IsDelimited`: what stands between delimiters.
* `strip_undelimited`, `strip_spelled`: an expression with and without delimiters.
* `convert_of_strip`: what is left of an expression decides what becomes of it.
* `convert_delimited`: an expression in all its spellings, and the calls of the converter.
-/

namespace MathLint.Latex

open Text

variable {left right : String} {text inner : List Char} {b : String}

/-! ## Between delimiters -/

theorem between?_append :
    between? left right (left.toList ++ inner ++ right.toList) = some inner := by
  have hleft := @String.length_toList left
  have hright := @String.length_toList right
  have hlength : left.length + right.length ≤ (left.toList ++ inner ++ right.toList).length := by
    simp only [List.length_append]
    omega
  have hinner : (left.toList ++ inner ++ right.toList).length - left.length - right.length =
      inner.length := by
    simp only [List.length_append]
    omega
  have hprefix : left.toList.isPrefixOf (left.toList ++ inner ++ right.toList) = true := by
    rw [List.isPrefixOf_iff_prefix, List.append_assoc]
    exact List.prefix_append _ _
  have hsuffix : right.toList.isSuffixOf (left.toList ++ inner ++ right.toList) = true :=
    List.isSuffixOf_iff_suffix.mpr (List.suffix_append _ _)
  rw [between?, hprefix, hsuffix, decide_eq_true hlength, hinner, ← hleft, List.append_assoc,
    List.drop_left, List.take_left]
  rfl

/-- What is found between delimiters is what stands there. -/
theorem between?_eq_some_iff :
    between? left right text = some inner ↔ text = left.toList ++ inner ++ right.toList := by
  refine ⟨fun h => ?_, fun h => h ▸ between?_append⟩
  have hwhole := h
  unfold between? at h
  split at h
  · rename_i hdelimited
    simp only [Bool.and_eq_true, decide_eq_true_eq, List.isPrefixOf_iff_prefix,
      List.isSuffixOf_iff_suffix] at hdelimited
    obtain ⟨⟨hlength, ⟨rest, rfl⟩⟩, hsuffix⟩ := hdelimited
    -- the right delimiter does not reach into the left one
    have hfits : right.toList.length ≤ rest.length := by
      simp only [List.length_append, String.length_toList] at hlength ⊢
      omega
    obtain ⟨inner', rfl⟩ :=
      List.suffix_of_suffix_length_le hsuffix (List.suffix_append _ _) hfits
    rw [← List.append_assoc, between?_append] at hwhole
    rw [← Option.some.inj hwhole, List.append_assoc]
  · cases h

/-- Whether a text has delimiters around it, which do not overlap. -/
def IsDelimited (left right text : String) : Prop := ∃ inner, text = left ++ inner ++ right

theorem isSome_between?_iff {s : String} :
    (between? left right s.toList).isSome ↔ IsDelimited left right s := by
  simp only [Option.isSome_iff_exists, between?_eq_some_iff]
  constructor
  · rintro ⟨inner, hs⟩
    exact ⟨.ofList inner, String.toList_injective (by simpa using hs)⟩
  · rintro ⟨inner, rfl⟩
    exact ⟨inner.toList, by simp⟩

instance (left right text : String) : Decidable (IsDelimited left right text) :=
  decidable_of_iff _ isSome_between?_iff

theorem between?_eq_none {s : String} (h : ¬IsDelimited left right s) :
    between? left right s.toList = none := by
  rw [← isSome_between?_iff, Option.not_isSome_iff_eq_none] at h
  exact h

/-! ## Delimiters off -/

/-- An expression that no delimiters stand around is only trimmed. -/
theorem strip_undelimited {s : String} (h : ∀ d ∈ delimiters, ¬IsDelimited d.1 d.2 (trim s)) :
    strip s = trim s := by
  have hnone : delimiters.findSome? (fun d => between? d.1 d.2 (trim s).toList) = none :=
    List.findSome?_eq_none_iff.mpr fun d hd => between?_eq_none (h d hd)
  unfold strip
  dsimp only
  rw [hnone]

/-- A text that begins with one delimiter does not begin with another one, unless one of them begins
with the other. -/
theorem not_isDelimited_of_left {left' right' : String} {inner : String}
    (h : ¬left'.toList <+: left.toList) (h' : ¬left.toList <+: left'.toList) :
    ¬IsDelimited left' right' (left ++ inner ++ right) := by
  rintro ⟨inner', heq⟩
  have hlist := congrArg String.toList heq
  simp only [String.toList_append, List.append_assoc] at hlist
  have hleft : left.toList <+: left.toList ++ (inner.toList ++ right.toList) :=
    List.prefix_append _ _
  have hleft' : left'.toList <+: left.toList ++ (inner.toList ++ right.toList) := by
    rw [hlist]
    exact List.prefix_append _ _
  rcases List.prefix_or_prefix_of_prefix hleft hleft' with hp | hp
  · exact h' hp
  · exact h hp

theorem trim_delimited {d : String × String} (hd : d ∈ delimiters) (inner : String) :
    trim (d.1 ++ inner ++ d.2) = d.1 ++ inner ++ d.2 := by
  have hends : ∀ d ∈ delimiters, d.1.toList.head?.any (!isBlank ·) ∧
      d.2.toList.getLast?.any (!isBlank ·) := by decide
  obtain ⟨hhead, hlast⟩ := hends d hd
  obtain ⟨c, hc, hblank⟩ := (Option.any_eq_true _ _).mp hhead
  obtain ⟨e, he, hblank'⟩ := (Option.any_eq_true _ _).mp hlast
  refine trim_eq_self (fun c' hc' => ?_) fun e' he' => ?_
  · rw [String.toList_append, String.toList_append, List.append_assoc, List.head?_append, hc] at hc'
    rw [← Option.some.inj hc']
    simpa using hblank
  · rw [String.toList_append, List.getLast?_append, he] at he'
    rw [← Option.some.inj he']
    simpa using hblank'

/-- In single dollar signs, a text that has none around it does not look like one in double dollar
signs. -/
theorem not_isDelimited_dollars {inner : String} (h : ¬IsDelimited "$" "$" (trim inner)) :
    ¬IsDelimited "$$" "$$" ("$" ++ inner ++ "$") := by
  rintro ⟨inner', heq⟩
  have hinner : inner = "$" ++ inner' ++ "$" := by
    have hlist : inner.toList ++ ['$'] = '$' :: inner'.toList ++ ['$'] ++ ['$'] := by
      simpa using congrArg String.toList heq
    exact String.toList_injective (by simpa using List.append_cancel_right hlist)
  have htrim := @trim_delimited ("$", "$") (by decide) inner'
  exact h ⟨inner', by rw [hinner, htrim]⟩

/-- Of a text in delimiters that has none around it itself, the delimiters are taken off. -/
theorem findSome?_delimited {d : String × String} (hd : d ∈ delimiters) {inner : String}
    (h : ∀ d ∈ delimiters, ¬IsDelimited d.1 d.2 (trim inner)) :
    delimiters.findSome? (fun e => between? e.1 e.2 (d.1 ++ inner ++ d.2).toList) =
      some inner.toList := by
  have hown : between? d.1 d.2 (d.1 ++ inner ++ d.2).toList = some inner.toList := by
    rw [String.toList_append, String.toList_append]
    exact between?_append
  have hother {e : String × String} (he : ¬e.1.toList <+: d.1.toList)
      (he' : ¬d.1.toList <+: e.1.toList) :
      between? e.1 e.2 (d.1 ++ inner ++ d.2).toList = none :=
    between?_eq_none (not_isDelimited_of_left he he')
  simp only [delimiters, List.mem_cons, List.not_mem_nil, or_false] at hd
  rcases hd with rfl | rfl | rfl | rfl
  · rw [delimiters, List.findSome?_cons, hown]
  · have hdollars := between?_eq_none (not_isDelimited_dollars (h ("$", "$") (by decide)))
    rw [delimiters, List.findSome?_cons, hdollars, List.findSome?_cons, hown]
  · rw [delimiters, List.findSome?_cons, hother (by decide) (by decide), List.findSome?_cons,
      hother (by decide) (by decide), List.findSome?_cons, hown]
  · rw [delimiters, List.findSome?_cons, hother (by decide) (by decide), List.findSome?_cons,
      hother (by decide) (by decide), List.findSome?_cons, hother (by decide) (by decide),
      List.findSome?_cons, hown]

/-- Delimiters and white space make no difference to what is left of an expression that has no
delimiters itself. -/
theorem strip_spelled {w₁ w₂ w₃ w₄ : String} {d : String × String}
    (hblank : ∀ w ∈ [w₁, w₂, w₃, w₄], isBlankText w = true)
    (h : ∀ d ∈ delimiters, ¬IsDelimited d.1 d.2 (trim b)) (hd : d ∈ ("", "") :: delimiters) :
    strip (w₁ ++ d.1 ++ w₂ ++ b ++ w₃ ++ d.2 ++ w₄) = trim b := by
  simp only [List.forall_mem_cons] at hblank
  obtain ⟨h₁, h₂, h₃, h₄, -⟩ := hblank
  have hinner : trim (w₂ ++ b ++ w₃) = trim b := trim_pad h₂ h₃ b
  have houter : w₁ ++ d.1 ++ w₂ ++ b ++ w₃ ++ d.2 ++ w₄ =
      w₁ ++ (d.1 ++ (w₂ ++ b ++ w₃) ++ d.2) ++ w₄ := by
    simp only [String.append_assoc]
  rw [houter]
  rcases List.mem_cons.mp hd with rfl | hd
  · have htrim : trim (w₁ ++ ("" ++ (w₂ ++ b ++ w₃) ++ "") ++ w₄) = trim b := by
      rw [trim_pad h₁ h₄, String.empty_append, String.append_empty, hinner]
    rw [strip_undelimited (htrim ▸ h), htrim]
  · rw [← hinner] at h ⊢
    unfold strip
    dsimp only
    rw [trim_pad h₁ h₄, trim_delimited hd, findSome?_delimited hd h]
    dsimp only
    rw [String.ofList_toList]

/-! ## Calls of the converter -/

/-- What the converter is called with, from what is left of an expression. -/
theorem callFor_eq {s : String} (h : strip s = trim b) (display : Display) :
    callFor display s = if isBlankText b then .error .blankLatex
      else .ok ⟨collapse b, mathNamespace, display⟩ := by
  unfold callFor
  dsimp only
  rw [h, isEmpty_trim, collapse, words_trim]
  rfl

/-- An expression of which something is left is given to the converter, once. -/
theorem convert_of_strip (converter : Converter) (display : Display) {s : String}
    (hb : isBlankText b = false) (h : strip s = trim b) :
    convert converter display s =
      ⟨[⟨collapse b, mathNamespace, display⟩],
        (converter ⟨collapse b, mathNamespace, display⟩).mapError .conversion⟩ := by
  unfold convert
  rw [callFor_eq h, hb, if_neg Bool.false_ne_true]
  dsimp only
  cases converter ⟨collapse b, mathNamespace, display⟩ <;> rfl

/-- What is left of an expression is trimmed. -/
theorem exists_strip_eq_trim (s : String) : ∃ b, strip s = trim b := by
  unfold strip
  dsimp only
  split
  · exact ⟨_, rfl⟩
  · exact ⟨_, rfl⟩

/-- An expression that has no delimiters itself means the same in all of them, and with white space
before, behind and between them: the converter is called once, with the words of the expression. On
any expression the converter is called at most once, with a text that is not empty and has no white
space but single spaces inside; where it is not called, the fault lies in the expression. -/
theorem convert_delimited (converter : Converter) (display : Display) :
    (∀ (b w₁ w₂ w₃ w₄ : String) (d : String × String), isBlankText b = false →
      (∀ w ∈ [w₁, w₂, w₃, w₄], isBlankText w = true) →
      (∀ d ∈ delimiters, ¬IsDelimited d.1 d.2 (trim b)) → d ∈ ("", "") :: delimiters →
      convert converter display (w₁ ++ d.1 ++ w₂ ++ b ++ w₃ ++ d.2 ++ w₄) =
        ⟨[⟨collapse b, mathNamespace, display⟩],
          (converter ⟨collapse b, mathNamespace, display⟩).mapError .conversion⟩) ∧
    ∀ s, ((convert converter display s).calls = [] ∧
        ∃ f, (convert converter display s).result = .error f ∧ f.isBadValue = true) ∨
      ∃ call, (convert converter display s).calls = [call] ∧ call.latex ≠ "" ∧
        IsSpaced call.latex.toList := by
  refine ⟨fun b w₁ w₂ w₃ w₄ d hb hblank h hd =>
    convert_of_strip converter display hb (strip_spelled hblank h hd), fun s => ?_⟩
  obtain ⟨b, hstrip⟩ := exists_strip_eq_trim s
  cases hb : isBlankText b with
  | true =>
    unfold convert
    rw [callFor_eq hstrip, hb, if_pos rfl]
    exact .inl ⟨rfl, _, rfl, rfl⟩
  | false =>
    rw [convert_of_strip converter display hb hstrip]
    exact .inr ⟨_, rfl, collapse_ne_empty hb, isSpaced_collapse b⟩

/-- An expression that begins with a dollar sign, in dollar signs and with white space of several
kinds, under a converter that gives back what it is called with. -/
theorem convert_delimited_dollar :
    convert (fun call => .ok (.str call.latex)) .inline "\n$$x +\ty $ " =
      ⟨[⟨"$x + y", mathNamespace, .inline⟩], .ok (.str "$x + y")⟩ := by
  obtain ⟨hspelled, -⟩ := convert_delimited (fun call => .ok (.str call.latex)) .inline
  have hcollapse : collapse "$x +\ty" = "$x + y" := by decide
  have h := hspelled "$x +\ty" "\n" "" " " " " ("$", "$") (by decide) (by decide) (by decide)
    (by decide)
  rw [hcollapse] at h
  exact h

end MathLint.Latex

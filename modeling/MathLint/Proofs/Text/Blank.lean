import Mathlib.Data.List.TakeWhile
import MathLint.Text.Blank

/-!
# White space at the ends of a text

White space put around a text is lost when the text is trimmed, and a text is of white space only
exactly if nothing is left of it.

* `trim_pad`: white space put around a text.
* `isEmpty_trim`: texts of which nothing is left.
* `not_isBlank_of_getLast?_trim`: what is left does not end with white space.
-/

namespace MathLint.Text

theorem isBlankText_append (s t : String) :
    isBlankText (s ++ t) = (isBlankText s && isBlankText t) := by
  simp [isBlankText]

theorem trimRight_append {cs after : List Char} (h : ∀ c ∈ after, isBlank c = true) :
    trimRight (cs ++ after) = trimRight cs := by
  have hreverse : ∀ c ∈ after.reverse, isBlank c = true := by simpa using h
  rw [trimRight, List.reverse_append, List.dropWhile_append_of_pos hreverse]
  rfl

/-- White space put around a text is lost when the text is trimmed. -/
theorem trim_pad {before after : String} (hbefore : isBlankText before = true)
    (hafter : isBlankText after = true) (s : String) :
    trim (before ++ s ++ after) = trim s := by
  simp only [isBlankText, List.all_eq_true] at hbefore hafter
  unfold trim
  congr 1
  rw [String.append_assoc, String.toList_append, String.toList_append, trimLeft,
    List.dropWhile_append_of_pos hbefore, List.dropWhile_append]
  split
  · rename_i hempty
    -- the text is of white space only, and so is what follows it
    rw [trimLeft, List.isEmpty_iff.mp hempty, List.dropWhile_eq_nil_iff.mpr hafter]
  · exact trimRight_append hafter

/-- Nothing is left of a text exactly if it is of white space only. -/
theorem isEmpty_trim (s : String) : (trim s).isEmpty = isBlankText s := by
  -- what is left on the left begins with a character that stays
  have hleft : trimRight (trimLeft s.toList) = [] ↔ trimLeft s.toList = [] := by
    rw [trimRight, List.reverse_eq_nil_iff, List.dropWhile_eq_nil_iff]
    constructor
    · intro h
      by_contra hne
      have hhead := List.dropWhile_get_zero_not isBlank s.toList (List.length_pos_iff.mpr hne)
      exact hhead (h _ (List.mem_reverse.mpr (List.get_mem _ _)))
    · intro h
      simp [h]
  have hempty : (trim s).isEmpty = true ↔ isBlankText s = true := by
    rw [String.isEmpty_iff, trim, String.ofList_eq_empty_iff, hleft, trimLeft,
      List.dropWhile_eq_nil_iff, isBlankText, List.all_eq_true]
  exact Bool.eq_iff_iff.mpr hempty

/-- What is left of a text does not end with white space. -/
theorem not_isBlank_of_getLast?_trim {s : String} {c : Char}
    (h : (trim s).toList.getLast? = some c) : isBlank c = false := by
  rw [trim, String.toList_ofList, trimRight, List.getLast?_reverse] at h
  have hhead := List.head?_dropWhile_not isBlank (trimLeft s.toList).reverse
  rw [h] at hhead
  simpa using hhead

end MathLint.Text

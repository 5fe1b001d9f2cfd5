import MathLint.AssumedPrefix

/-!
# The start tag of the root is a part of the source

* `RootTag.source_of_find?`: the parts of a tag that is found make up the source.
* `AssumedPrefix.declare_snd`: the assumption is disclosed exactly if it changes the source.
-/

namespace MathLint

namespace RootTag

theorem source_behind (lead : List Char) (t : RootTag) :
    (t.behind lead).source = lead ++ t.source := by
  simp [behind, source]

/-- A name stands at the front of the text that it is read from. -/
theorem nameAt_isPrefix (cs : List Char) : nameAt cs <+: cs := by
  have hsplit := List.takeWhile_append_dropWhile (p := isNameChar) (l := cs)
  unfold nameAt
  split
  · rename_i after hafter
    rw [hafter] at hsplit
    dsimp only
    split
    · exact ⟨_, hsplit⟩
    · refine ⟨after.dropWhile isNameChar, ?_⟩
      simp [List.takeWhile_append_dropWhile, hsplit]
  · exact ⟨_, hsplit⟩

theorem source_of_tagAt? {cs : List Char} {t : RootTag} (h : tagAt? cs = some t) :
    t.source = cs := by
  unfold tagAt? at h
  simp only at h
  split at h
  · rename_i c rest hrest
    cases h
    have hsplit := List.takeWhile_append_dropWhile (p := (· != '>'))
      (l := cs.drop (nameAt cs).length)
    -- what ends the attributes is the first `>`
    have hc : c = '>' := by
      have hhead := List.head?_dropWhile_not (· != '>') (cs.drop (nameAt cs).length)
      rw [hrest] at hhead
      simpa using hhead
    rw [hrest, hc] at hsplit
    simp only [source, List.nil_append, List.append_assoc, hsplit]
    exact (List.prefix_iff_eq_append.mp (nameAt_isPrefix cs))
  · cases h

/-- Putting a text before what is found puts it before the source. -/
theorem source_of_map_behind {found : Option RootTag} {lead rest : List Char} {t : RootTag}
    (hfound : ∀ {u}, found = some u → u.source = rest)
    (h : found.map (behind lead) = some t) : t.source = lead ++ rest := by
  obtain ⟨u, hu, rfl⟩ := Option.map_eq_some_iff.mp h
  rw [source_behind, hfound hu]

/-- A tag that is found makes up the text that was searched. -/
theorem source_of_findFrom {mode : Mode} {cs : List Char} {t : RootTag}
    (h : findFrom mode cs = some t) : t.source = cs := by
  fun_induction findFrom mode cs generalizing t with
  | case1 cs ih => exact source_of_map_behind ih h
  | case2 cs ih => exact source_of_map_behind ih h
  | case3 cs ih => exact source_of_map_behind ih h
  | case4 c cs _ _ _ _ => exact source_of_map_behind source_of_tagAt? h
  | case5 => cases h
  | case6 c cs _ _ _ _ _ ih => exact source_of_map_behind ih h
  | case7 => cases h
  | case8 cs ihBetween ihInside =>
    rcases Option.or_eq_some_iff.mp h with h | ⟨-, h⟩
    · exact source_of_map_behind ihBetween h
    · exact source_of_map_behind ihInside h
  | case9 c cs _ ih => exact source_of_map_behind ih h
  | case10 cs ihBetween ihInside =>
    rcases Option.or_eq_some_iff.mp h with h | ⟨-, h⟩
    · exact source_of_map_behind ihBetween h
    · exact source_of_map_behind ihInside h
  | case11 c cs _ ih => exact source_of_map_behind ih h
  | case12 c cs _ ih => exact source_of_map_behind ih h
  | case13 c cs _ ih => exact source_of_map_behind ih h
  | case14 => cases h

/-- The parts of the start tag make up the source. -/
theorem source_of_find? {source : String} {t : RootTag} (h : find? source = some t) :
    t.source = source.toList := source_of_findFrom h

end RootTag

namespace AssumedPrefix

/-- The assumption is disclosed exactly if it changes the source. -/
theorem declare_snd (source : String) :
    (declare source).2 = if (declare source).1 = source then none else some disclosure := by
  unfold declare
  split
  · rename_i t ht
    split
    · have hsource := RootTag.source_of_find? ht
      have hne : String.ofList (t.lead ++ t.name ++ declaration.toList ++ t.attributes ++
          '>' :: t.rest) ≠ source := by
        intro he
        rw [← he, String.toList_ofList] at hsource
        have hlength := congrArg List.length hsource
        have hdeclaration : 0 < declaration.toList.length := by decide
        simp only [RootTag.source, List.length_append, List.length_cons] at hlength
        omega
      rw [if_neg hne]
    · rw [if_pos rfl]
  · rw [if_pos rfl]

end AssumedPrefix

end MathLint

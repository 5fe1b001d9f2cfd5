import MathLint.Proofs.RootTag.Prolog

/-!
# Attributes put into the start tag

The search for the start tag may give up on many readings of a source before it finds the tag. A
text put behind the name of the tag could end one of those readings, or hide the tag from the one
that found it. An `Inert` text does neither.

* `findFrom_insert_eq_none`: a reading that fails still fails.
* `findFrom_widen`: the search finds the tag again.
-/

namespace MathLint.RootTag

open Text

variable {w a b cs : List Char} {mode : Mode} {t : RootTag}

/-- A text that can stand among attributes: white space comes first, something else follows, and
no character of it opens or ends markup. -/
structure Inert (w : List Char) : Prop where
  head : w.head? = some ' '
  visible : ∃ c ∈ w, isBlank c = false
  plain : ∀ c ∈ w, c ≠ '<' ∧ c ≠ '>' ∧ c ≠ '?' ∧ c ≠ '-'

/-- A text behind which the search is not inside of an opening mark: behind every `<` there is a
colon, and no `?` is at the end. -/
def Settled (a : List Char) : Prop := ∀ s, s <:+ a → s ≠ ['?'] ∧ ∀ v, s = '<' :: v → ':' ∈ v

theorem Settled.of_suffix (h : Settled a) {s : List Char} (hs : s <:+ a) : Settled s :=
  fun _ hu => h _ (hu.trans hs)

theorem Settled.tail {c : Char} (h : Settled (c :: a)) : Settled a := h.of_suffix ⟨[c], rfl⟩

/-! ## Readings that fail -/

theorem findFrom_between_inert (hplain : ∀ c ∈ w, c ≠ '<')
    (hvisible : ∃ c ∈ w, isBlank c = false) : findFrom .between (w ++ b) = none := by
  induction w with
  | nil => simp at hvisible
  | cons c w ih =>
    have hc := hplain c List.mem_cons_self
    rw [List.cons_append]
    cases hblank : isBlank c with
    | false => exact findFrom_other hc hblank
    | true =>
      have hrest : ∃ d ∈ w, isBlank d = false := by
        obtain ⟨d, hd, hvis⟩ := hvisible
        rcases List.mem_cons.mp hd with rfl | hd
        · rw [hblank] at hvis; cases hvis
        · exact ⟨d, hd, hvis⟩
      rw [findFrom_blank hblank, ih (fun d hd => hplain d (List.mem_cons_of_mem _ hd)) hrest]
      rfl

/-- A reading that fails still fails behind characters that it passes over one by one. -/
theorem findFrom_append_eq_none
    (hskip : ∀ c ∈ w, ∀ cs, findFrom mode (c :: cs) = (findFrom mode cs).map (behind [c]))
    (h : findFrom mode b = none) : findFrom mode (w ++ b) = none := by
  induction w with
  | nil => exact h
  | cons c w ih =>
    rw [List.cons_append, hskip c List.mem_cons_self,
      ih fun d hd => hskip d (List.mem_cons_of_mem _ hd)]
    rfl

/-- An inert text is passed over. -/
theorem findFrom_inert (hw : Inert w) (h : findFrom mode b = none) :
    findFrom mode (w ++ b) = none := by
  cases mode with
  | between => exact findFrom_between_inert (fun c hc => (hw.plain c hc).1) hw.visible
  | instruction =>
    refine findFrom_append_eq_none (fun c hc cs => findFrom_instruction_cons ?_) h
    simp [Ne.symm (hw.plain c hc).2.2.1]
  | comment =>
    refine findFrom_append_eq_none (fun c hc cs => findFrom_comment_cons ?_) h
    simp [Ne.symm (hw.plain c hc).2.2.2]
  | doctype =>
    exact findFrom_append_eq_none (fun c hc cs => findFrom_doctype_cons (hw.plain c hc).2.1) h

/-- A mark without white space does not reach into an inert text. -/
theorem isPrefix_of_isPrefix_insert {mark : List Char} (hw : Inert w) (hmark : ' ' ∉ mark)
    (h : mark <+: a ++ (w ++ b)) : mark <+: a := by
  rcases List.prefix_or_prefix_of_prefix h (List.prefix_append a (w ++ b)) with hin | ⟨d, rfl⟩
  · exact hin
  · rw [List.prefix_append_right_inj] at h
    cases d with
    | nil => simp
    | cons c d =>
      have hhead := hw.head
      cases w with
      | nil => cases hhead
      | cons c' w =>
        obtain ⟨rfl, -⟩ := List.cons_prefix_cons.mp h
        obtain rfl := Option.some.inj hhead
        exact absurd (by simp) hmark

theorem findFrom_comment_tail {c : Char} (h : findFrom .comment (c :: cs) = none) :
    findFrom .comment cs = none := by
  by_cases hend : ['-', '-', '>'] <+: c :: cs
  · obtain ⟨rfl, rest, rfl⟩ := List.cons_prefix_cons.mp hend
    simp only [List.cons_append, List.nil_append, findFrom_comment_end, Option.or_eq_none_iff,
      Option.map_eq_none_iff] at h ⊢
    exact h.2
  · rwa [findFrom_comment_cons hend, Option.map_eq_none_iff] at h

/-- Readings that fail from any place in a text on still fail with another text put in behind it. -/
def KeepsFailing (w a b : List Char) : Prop :=
  ∀ mode s, s <:+ a → findFrom mode (s ++ b) = none → findFrom mode (s ++ (w ++ b)) = none

/-- In an instruction, a reading that fails still fails if those that it leads to do. -/
theorem findFrom_instruction_insert_eq_none {c : Char} (hw : Inert w) (ih : KeepsFailing w a b)
    (hlast : c :: a ≠ ['?']) (h : findFrom .instruction (c :: (a ++ b)) = none) :
    findFrom .instruction (c :: (a ++ (w ++ b))) = none := by
  by_cases hend : ['?', '>'] <+: c :: a
  · obtain ⟨rfl, a', rfl⟩ := List.cons_prefix_cons.mp hend
    simp only [List.cons_append, List.nil_append, findFrom_instruction_end, Option.or_eq_none_iff,
      Option.map_eq_none_iff] at h ⊢
    exact ⟨ih _ a' ⟨['>'], rfl⟩ h.1, ih _ ('>' :: a') List.suffix_rfl h.2⟩
  · have hopen : ¬ ['?', '>'] <+: c :: (a ++ b) := by
      cases a with
      | nil =>
        have hc : c ≠ '?' := fun hc => hlast (hc ▸ rfl)
        simp [Ne.symm hc]
      | cons d a => simpa using hend
    have hopen' : ¬ ['?', '>'] <+: c :: (a ++ (w ++ b)) :=
      fun hpre => hend (isPrefix_of_isPrefix_insert hw (by decide) hpre)
    rw [findFrom_instruction_cons hopen, Option.map_eq_none_iff] at h
    rw [findFrom_instruction_cons hopen', Option.map_eq_none_iff]
    exact ih _ a List.suffix_rfl h

/-- In a comment, a reading that fails still fails if those that it leads to do. -/
theorem findFrom_comment_insert_eq_none {c : Char} (hw : Inert w) (ih : KeepsFailing w a b)
    (h : findFrom .comment (c :: (a ++ b)) = none) :
    findFrom .comment (c :: (a ++ (w ++ b))) = none := by
  by_cases hend : ['-', '-', '>'] <+: c :: a
  · obtain ⟨rfl, a', rfl⟩ := List.cons_prefix_cons.mp hend
    simp only [List.cons_append, List.nil_append, findFrom_comment_end, Option.or_eq_none_iff,
      Option.map_eq_none_iff] at h ⊢
    exact ⟨ih _ a' ⟨['-', '>'], rfl⟩ h.1, ih _ ('-' :: '>' :: a') List.suffix_rfl h.2⟩
  · -- an end mark across the place of the insertion is torn apart by it
    have hopen' : ¬ ['-', '-', '>'] <+: c :: (a ++ (w ++ b)) :=
      fun hpre => hend (isPrefix_of_isPrefix_insert hw (by decide) hpre)
    rw [findFrom_comment_cons hopen', Option.map_eq_none_iff]
    exact ih _ a List.suffix_rfl (findFrom_comment_tail h)

/-- Behind a `<`, a reading that fails still fails if those that it leads to do. -/
theorem findFrom_open_insert_eq_none (hw : Inert w) (hb : '>' ∈ b) (hcolon : ':' ∈ a)
    (ih : KeepsFailing w a b) (h : findFrom .between ('<' :: (a ++ b)) = none) :
    findFrom .between ('<' :: (a ++ (w ++ b))) = none := by
  match a with
  | [] => simp at hcolon
  | d :: a =>
    rw [List.cons_append] at h ⊢
    by_cases hstart : isNameStart d = true
    · rw [findFrom_tag hstart, Option.map_eq_none_iff] at h
      exact absurd (List.mem_cons_of_mem _ (List.mem_append_right _ hb))
        (not_mem_of_tagAt?_eq_none h)
    by_cases hinstruction : d = '?'
    · subst hinstruction
      exact Option.map_eq_none_iff.mpr
        (ih .instruction a ⟨['?'], rfl⟩ (Option.map_eq_none_iff.mp h))
    by_cases hcomment : ['!', '-', '-'] <+: d :: a
    · obtain ⟨rfl, a', rfl⟩ := List.cons_prefix_cons.mp hcomment
      exact Option.map_eq_none_iff.mpr
        (ih .comment a' ⟨['!', '-', '-'], rfl⟩ (Option.map_eq_none_iff.mp h))
    by_cases hdoctype : ['!', 'D', 'O', 'C', 'T', 'Y', 'P', 'E'] <+: d :: a
    · obtain ⟨rfl, a', rfl⟩ := List.cons_prefix_cons.mp hdoctype
      exact Option.map_eq_none_iff.mpr
        (ih .doctype a' ⟨['!', 'D', 'O', 'C', 'T', 'Y', 'P', 'E'], rfl⟩
          (Option.map_eq_none_iff.mp h))
    · exact findFrom_stray (by simpa using hstart) hinstruction
        (fun hpre => hcomment (isPrefix_of_isPrefix_insert hw (by decide) hpre))
        (fun hpre => hdoctype (isPrefix_of_isPrefix_insert hw (by decide) hpre))

/-- A reading that fails does not succeed for an inert text put in where the reading is not inside
of an opening mark. -/
theorem findFrom_insert_eq_none (hw : Inert w) (hb : '>' ∈ b) {mode : Mode} {a : List Char}
    (ha : Settled a) (h : findFrom mode (a ++ b) = none) :
    findFrom mode (a ++ (w ++ b)) = none := by
  match a with
  | [] =>
    rw [List.nil_append] at h ⊢
    exact findFrom_inert hw h
  | c :: a =>
    rw [List.cons_append] at h ⊢
    have ih : KeepsFailing w a b := by
      intro mode s hs hnone
      have hlength := hs.length_le
      exact findFrom_insert_eq_none hw hb (ha.tail.of_suffix hs) hnone
    cases mode with
    | instruction =>
      exact findFrom_instruction_insert_eq_none hw ih (ha _ List.suffix_rfl).1 h
    | comment => exact findFrom_comment_insert_eq_none hw ih h
    | doctype =>
      by_cases hc : c = '>'
      · subst hc
        rw [findFrom_doctype_end, Option.map_eq_none_iff] at h ⊢
        exact ih _ a List.suffix_rfl h
      · rw [findFrom_doctype_cons hc, Option.map_eq_none_iff] at h ⊢
        exact ih _ a List.suffix_rfl h
    | between =>
      by_cases hc : c = '<'
      · subst hc
        have hcolon : ':' ∈ a := (ha _ List.suffix_rfl).2 a rfl
        exact findFrom_open_insert_eq_none hw hb hcolon ih h
      · cases hblank : isBlank c with
        | false => exact findFrom_other hc hblank
        | true =>
          rw [findFrom_blank hblank, Option.map_eq_none_iff] at h ⊢
          exact ih _ a List.suffix_rfl h
termination_by a.length

/-! ## The reading that finds the tag -/

/-- A tag with a text put before its attributes. -/
def widen (w : List Char) (t : RootTag) : RootTag := { t with attributes := w ++ t.attributes }

theorem widen_behind (w lead : List Char) (t : RootTag) :
    (t.behind lead).widen w = (t.widen w).behind lead := rfl

theorem source_widen (w : List Char) (t : RootTag) :
    (t.widen w).source = t.lead ++ t.name ++ (w ++ (t.attributes ++ '>' :: t.rest)) := by
  simp [source, widen]

/-- What holds of every tag that a `<` stands before, whatever else stands before that, holds of
every tag that is found. -/
theorem findFrom_induction (P : RootTag → Prop)
    (tag : ∀ {cs t}, tagAt? cs = some t → P (t.behind ['<']))
    (step : ∀ {lead t}, P t → P (t.behind lead)) (h : findFrom mode cs = some t) : P t := by
  have hmap {found : Option RootTag} {lead : List Char} {t : RootTag}
      (hfound : ∀ {u}, found = some u → P u) (h : found.map (behind lead) = some t) : P t := by
    obtain ⟨u, hu, rfl⟩ := Option.map_eq_some_iff.mp h
    exact step (hfound hu)
  fun_induction findFrom mode cs generalizing t with
  | case4 c cs _ _ _ _ =>
    obtain ⟨u, hu, rfl⟩ := Option.map_eq_some_iff.mp h
    exact tag hu
  | case8 cs ihBetween ihInside | case10 cs ihBetween ihInside =>
    rcases Option.or_eq_some_iff.mp h with h | ⟨-, h⟩
    · exact hmap ihBetween h
    · exact hmap ihInside h
  | case5 | case7 | case14 => cases h
  | case1 cs ih | case2 cs ih | case3 cs ih => exact hmap ih h
  | case6 | case9 | case11 | case12 | case13 => rename_i ih; exact hmap ih h

/-- The name of a tag stands behind a `<`. -/
theorem mem_lead_of_findFrom (h : findFrom mode cs = some t) : '<' ∈ t.lead :=
  findFrom_induction (fun t => '<' ∈ t.lead) (fun _ => by simp [behind])
    (fun ht => by simp [behind, ht]) h

theorem mem_name_of_find? {source : String} {c : Char} (h : find? source = some t)
    (hc : c ∈ t.name) : isNameChar c = true ∨ c = ':' := by
  obtain ⟨cs, hcs⟩ : ∃ cs, t.name = nameAt cs :=
    findFrom_induction (fun t => ∃ cs, t.name = nameAt cs)
      (fun ht => ⟨_, (tagAt?_eq_some_iff.mp ht).2.1⟩) (fun ht => ht) h
  exact mem_nameAt (hcs ▸ hc)

/-- A mark at the front of a source ends before the name, since it does not hold the `<` that stands
before the name. -/
theorem isPrefix_lead {mark : List Char} (hmark : '<' ∉ mark) (ht : '<' ∈ t.lead) :
    mark <+: t.source ↔ mark <+: t.lead := by
  have hlead : t.lead <+: t.source :=
    ⟨t.name ++ t.attributes ++ '>' :: t.rest, by simp [source]⟩
  refine ⟨fun h => ?_, fun h => h.trans hlead⟩
  rcases List.prefix_or_prefix_of_prefix h hlead with h | h
  · exact h
  · exact absurd (h.subset ht) hmark

theorem nameAt_append_inert (hw : Inert w) : nameAt (nameAt cs ++ (w ++ b)) = nameAt cs := by
  have hhead : (w ++ b).head? = some ' ' := by rw [List.head?_append, hw.head]; rfl
  have hspace : isNameChar ' ' = false := by decide
  rcases nameAt_cases cs with hall | ⟨first, second, heq, hfirst, hsecond, hne⟩
  · obtain ⟨rest, hrest⟩ := List.head?_eq_some_iff.mp hhead
    rw [hrest, nameAt, List.takeWhile_append_of_pos hall, List.dropWhile_append_of_pos hall,
      List.takeWhile_cons_of_neg (by simp [hspace]), List.dropWhile_cons_of_neg (by simp [hspace])]
    simp
  · rw [heq]
    refine nameAt_qualified hfirst hsecond hne fun c hc => ?_
    rw [hhead] at hc
    rw [← Option.some.inj hc, hspace]

theorem tagAt?_widen (hw : Inert w) (h : tagAt? cs = some t) :
    tagAt? (t.widen w).source = some (t.widen w) := by
  obtain ⟨hlead, hname, hend, -⟩ := tagAt?_eq_some_iff.mp h
  refine tagAt?_eq_some_iff.mpr ⟨hlead, ?_, ?_, rfl⟩
  · rw [source_widen, hlead, List.nil_append, hname, nameAt_append_inert hw]
    exact hname
  · intro hmem
    rcases List.mem_append.mp hmem with hmem | hmem
    · exact (hw.plain _ hmem).2.1 rfl
    · exact hend hmem

/-- A reading that fails behind a mark at the front of the source still fails there. -/
theorem exists_source_widen_eq (hw : Inert w) (ht : '<' ∈ t.lead) (hs : Settled (t.lead ++ t.name))
    {mark : List Char} (hmark : '<' ∉ mark) (hsource : t.source = mark ++ cs)
    (h : findFrom mode cs = none) :
    ∃ cs', (t.widen w).source = mark ++ cs' ∧ findFrom mode cs' = none := by
  obtain ⟨lead, hlead⟩ := (isPrefix_lead hmark ht).mp ⟨cs, hsource.symm⟩
  have hcs : cs = lead ++ t.name ++ (t.attributes ++ '>' :: t.rest) := by
    rw [source, ← hlead] at hsource
    simpa using hsource.symm
  refine ⟨lead ++ t.name ++ (w ++ (t.attributes ++ '>' :: t.rest)), ?_, ?_⟩
  · rw [source_widen, ← hlead]
    simp
  · rw [hcs] at h
    refine findFrom_insert_eq_none hw (by simp) (hs.of_suffix ⟨mark, ?_⟩) h
    rw [← hlead, List.append_assoc]

/-- An inert text put behind the name neither makes nor breaks a mark at the front. -/
theorem isPrefix_source_widen {mark : List Char} (hmark : '<' ∉ mark) (ht : '<' ∈ t.lead) :
    mark <+: (t.widen w).source ↔ mark <+: t.source := by
  have hwiden : '<' ∈ (t.widen w).lead := ht
  rw [isPrefix_lead hmark hwiden, isPrefix_lead hmark ht]
  rfl

/-- The search finds a tag behind a text if it passes over the text. -/
theorem findFrom_widen_behind {lead : List Char} {mode' : Mode}
    (ht : findFrom mode' (t.widen w).source = some (t.widen w))
    (hstep : findFrom mode (lead ++ (t.widen w).source) =
      (findFrom mode' (t.widen w).source).map (behind lead)) :
    findFrom mode ((t.behind lead).widen w).source = some ((t.behind lead).widen w) := by
  rw [widen_behind, source_behind, hstep, ht]
  rfl

theorem Settled.of_behind {lead : List Char}
    (h : Settled ((t.behind lead).lead ++ (t.behind lead).name)) : Settled (t.lead ++ t.name) :=
  h.of_suffix ⟨lead, by simp [behind]⟩

/-- A mark that is not at the front of a text is not there once the tag behind it is widened. -/
theorem not_isPrefix_widen {c : Char} {mark : List Char} (hmark : '<' ∉ mark)
    (h : findFrom mode cs = some t) (hend : ¬ mark <+: c :: cs) :
    ¬ mark <+: c :: (t.widen w).source := by
  have hopen : '<' ∈ (t.behind [c]).lead := by simp [behind, mem_lead_of_findFrom h]
  have hiff : mark <+: ((t.behind [c]).widen w).source ↔ _ := isPrefix_source_widen hmark hopen
  rw [widen_behind, source_behind, source_behind, source_of_findFrom h] at hiff
  exact mt hiff.mp hend

/-- At the end mark of a piece the search first goes on behind the piece, and takes the piece to be
longer where that fails. It does the same once the tag is widened. -/
theorem findFrom_widen_end (hw : Inert w) {c : Char} {mark : List Char} (hmark : '<' ∉ mark)
    (hend : ∀ cs, findFrom mode (c :: (mark ++ cs)) =
      ((findFrom .between cs).map (behind (c :: mark))).or
        ((findFrom mode (mark ++ cs)).map (behind [c])))
    (ihBetween : ∀ {t}, findFrom .between cs = some t → Settled (t.lead ++ t.name) →
      findFrom .between (t.widen w).source = some (t.widen w))
    (ihInside : ∀ {t}, findFrom mode (mark ++ cs) = some t → Settled (t.lead ++ t.name) →
      findFrom mode (t.widen w).source = some (t.widen w))
    (h : findFrom mode (c :: (mark ++ cs)) = some t) (ht : Settled (t.lead ++ t.name)) :
    findFrom mode (t.widen w).source = some (t.widen w) := by
  rw [hend] at h
  rcases Option.or_eq_some_iff.mp h with h | ⟨hnone, h⟩
  · obtain ⟨u, hu, rfl⟩ := Option.map_eq_some_iff.mp h
    have hfound := ihBetween hu ht.of_behind
    refine findFrom_widen_behind hfound ?_
    rw [List.cons_append, hend, hfound, Option.map_some, Option.some_or]
  · obtain ⟨u, hu, rfl⟩ := Option.map_eq_some_iff.mp h
    obtain ⟨cs', hcs', hnone'⟩ := exists_source_widen_eq hw (mem_lead_of_findFrom hu) ht.of_behind
      hmark (source_of_findFrom hu) (Option.map_eq_none_iff.mp hnone)
    refine findFrom_widen_behind (ihInside hu ht.of_behind) ?_
    rw [List.cons_append, List.nil_append, hcs', hend, hnone', Option.map_none, Option.none_or]

/-- Behind the `<`, the tag is found again. -/
theorem findFrom_widen_tag (hw : Inert w) {c : Char} (hstart : isNameStart c = true)
    (h : tagAt? (c :: cs) = some t) :
    findFrom .between ((t.behind ['<']).widen w).source = some ((t.behind ['<']).widen w) := by
  have hwiden := tagAt?_widen hw h
  obtain ⟨hlead, hname, -, -⟩ := tagAt?_eq_some_iff.mp h
  obtain ⟨rest, hrest⟩ : ∃ rest, (t.widen w).source = c :: rest := by
    obtain ⟨name, hc⟩ := exists_nameAt_cons cs (isNameChar_of_isNameStart hstart)
    rw [source_widen, hlead, hname, hc]
    exact ⟨_, rfl⟩
  rw [widen_behind, source_behind, hrest]
  rw [hrest] at hwiden
  exact (findFrom_tag hstart).trans (congrArg (Option.map (behind ['<'])) hwiden)

/-- The search finds the tag again behind whose name an inert text is put. -/
theorem findFrom_widen (hw : Inert w) (h : findFrom mode cs = some t)
    (ht : Settled (t.lead ++ t.name)) :
    findFrom mode (t.widen w).source = some (t.widen w) := by
  fun_induction findFrom mode cs generalizing t with
  | case1 cs ih | case2 cs ih | case3 cs ih =>
    obtain ⟨u, hu, rfl⟩ := Option.map_eq_some_iff.mp h
    exact findFrom_widen_behind (ih hu ht.of_behind) rfl
  | case4 c cs hinstruction hcomment hdoctype hstart =>
    obtain ⟨u, hu, rfl⟩ := Option.map_eq_some_iff.mp h
    exact findFrom_widen_tag hw hstart hu
  | case6 c cs _ _ _ _ hblank ih =>
    obtain ⟨u, hu, rfl⟩ := Option.map_eq_some_iff.mp h
    exact findFrom_widen_behind (ih hu ht.of_behind) (findFrom_blank hblank)
  | case8 cs ihBetween ihInside =>
    have hmark : '<' ∉ ['>'] := by decide
    exact findFrom_widen_end hw hmark (fun _ => findFrom_instruction_end) ihBetween ihInside
      (findFrom_instruction_end.trans h) ht
  | case9 c cs hend ih =>
    obtain ⟨u, hu, rfl⟩ := Option.map_eq_some_iff.mp h
    have hopen : ¬ ['?', '>'] <+: c :: cs := by
      rintro ⟨rest, hrest⟩
      injection hrest with hc hcs
      exact hend rest hc.symm hcs.symm
    exact findFrom_widen_behind (ih hu ht.of_behind)
      (findFrom_instruction_cons (not_isPrefix_widen (by decide) hu hopen))
  | case10 cs ihBetween ihInside =>
    have hmark : '<' ∉ ['-', '>'] := by decide
    exact findFrom_widen_end hw hmark (fun _ => findFrom_comment_end) ihBetween ihInside
      (findFrom_comment_end.trans h) ht
  | case11 c cs hend ih =>
    obtain ⟨u, hu, rfl⟩ := Option.map_eq_some_iff.mp h
    have hopen : ¬ ['-', '-', '>'] <+: c :: cs := by
      rintro ⟨rest, hrest⟩
      injection hrest with hc hcs
      exact hend rest hc.symm hcs.symm
    exact findFrom_widen_behind (ih hu ht.of_behind)
      (findFrom_comment_cons (not_isPrefix_widen (by decide) hu hopen))
  | case12 c cs hc ih =>
    obtain ⟨u, hu, rfl⟩ := Option.map_eq_some_iff.mp h
    obtain rfl := beq_iff_eq.mp hc
    exact findFrom_widen_behind (ih hu ht.of_behind) findFrom_doctype_end
  | case13 c cs hc ih =>
    obtain ⟨u, hu, rfl⟩ := Option.map_eq_some_iff.mp h
    exact findFrom_widen_behind (ih hu ht.of_behind) (findFrom_doctype_cons (by simpa using hc))
  | case5 | case7 | case14 => cases h

end MathLint.RootTag

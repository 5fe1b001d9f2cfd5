import MathLint.Proofs.Xml.NameText
import MathLint.Xml.Document

/-!
# The attributes of a document that is read

No attribute of a document has a name with a quotation mark: each step of the reader keeps that of
the elements that it has read.

* `Element.attributeNames`: the names of all attributes in an element and below it.
* `Scope.unquoted_of_enter`: the attributes of a start tag.
* `Document.unquoted_of_step`, `Document.unquoted_of_readContent`: one piece of markup, and all of
  them.
* `Document.unquoted_of_parse`: the attributes of a document.
-/

namespace MathLint.Xml

/-- A name in a namespace has no quotation marks. -/
def UnquotedName (name : Name) : Prop := Unquoted name.base.toList

/-! ## Trees -/

/-- The names of all attributes in a content. -/
def Content.attributeNames : Content → List Name
  | nil => []
  | chars _ rest | remark _ rest => rest.attributeNames
  | element _ attributes inner rest =>
    attributes.map Prod.fst ++ inner.attributeNames ++ rest.attributeNames

/-- The names of all attributes of an element and of those below it. -/
def Element.attributeNames (e : Element) : List Name :=
  e.attributes.map Prod.fst ++ e.content.attributeNames

/-- The names of all attributes in a part of a content. -/
def Part.attributeNames : Part → List Name
  | .chars _ | .remark _ => []
  | .element e => e.attributeNames

theorem Content.attributeNames_before (p : Part) (rest : Content) :
    (p.before rest).attributeNames = p.attributeNames ++ rest.attributeNames := by
  cases p with
  | chars run => rfl
  | remark body => rfl
  | element e => rfl

theorem Content.mem_attributeNames_ofParts {name : Name} {parts : List Part} :
    name ∈ (ofParts parts).attributeNames ↔ ∃ p ∈ parts, name ∈ p.attributeNames := by
  have hfold : ∀ (parts : List Part) (rest : Content),
      name ∈ (parts.foldl Part.before rest).attributeNames ↔
        (∃ p ∈ parts, name ∈ p.attributeNames) ∨ name ∈ rest.attributeNames := by
    intro parts
    induction parts with
    | nil => simp
    | cons p parts ih =>
      intro rest
      rw [List.foldl_cons, ih, attributeNames_before, List.mem_append]
      simp only [List.mem_cons, exists_eq_or_imp]
      exact or_left_comm.trans or_assoc.symm
  rw [ofParts, hfold]
  simp [attributeNames]

theorem Content.attributeNames_withoutRemarks (c : Content) :
    c.withoutRemarks.attributeNames = c.attributeNames := by
  induction c with
  | nil => rfl
  | chars run rest ih => exact ih
  | remark body rest ih => exact ih
  | element name attributes inner rest ihInner ihRest =>
    rw [withoutRemarks, attributeNames, attributeNames, ihInner, ihRest]

/-! ## Start tags -/

namespace Scope

variable {scope : Scope} {d : Doctype} {g g' : Given}

theorem unquoted_splitPrefix {written : List Char} (h : Unquoted written) :
    Unquoted (splitPrefix written).2 := by
  unfold splitPrefix
  split
  · exact h
  · rename_i c base hdrop
    intro hmem
    have hsuffix := List.dropWhile_suffix (l := written) (· != ':')
    rw [hdrop] at hsuffix
    exact h (hsuffix.subset (List.mem_cons_of_mem _ hmem))

/-- The attributes that a start tag gives have unquoted names. -/
def UnquotedGiven (g : Given) : Prop := ∀ a ∈ g.2, Unquoted a.1

theorem unquotedGiven_of_give {name value : List Char} (hg : UnquotedGiven g)
    (hname : Unquoted name) (h : give g name value = .ok g') : UnquotedGiven g' := by
  unfold give at h
  split at h
  · obtain ⟨_, -, hret⟩ := bind_eq_ok.mp h
    cases hret
    exact hg
  · cases h
    intro a ha
    rcases List.mem_append.mp ha with ha | ha
    · exact hg a ha
    · rw [List.mem_singleton.mp ha]
      exact hname

theorem unquotedGiven_of_giveWritten {opened known : List (List Char)} {element here : List Char}
    {as : List WrittenAttribute} {n m : Nat} (hg : UnquotedGiven g)
    (has : ∀ a ∈ as, Unquoted a.name)
    (h : giveWritten d opened element here known g as n = .ok (g', m)) : UnquotedGiven g' := by
  induction as generalizing g known n with
  | nil =>
    cases h
    exact hg
  | cons a as ih =>
    rw [giveWritten] at h
    split at h
    · cases h
    · obtain ⟨value, m', -, h⟩ := Expanding.bind_eq_ok.mp h
      cases hgive : give g a.name value with
      | error cause =>
        rw [hgive] at h
        cases h
      | ok g₁ =>
        rw [hgive] at h
        have hg₁ := unquotedGiven_of_give hg (has a List.mem_cons_self) hgive
        exact ih hg₁ (fun b hb => has b (List.mem_cons_of_mem _ hb)) h

theorem unquotedGiven_of_giveDefaults {written : List (List Char)} {as : List Declared}
    (hg : UnquotedGiven g) (has : ∀ a ∈ as, Unquoted a.name)
    (h : giveDefaults written g as = .ok g') : UnquotedGiven g' := by
  induction as generalizing g with
  | nil =>
    cases h
    exact hg
  | cons a as ih =>
    have hrest : ∀ b ∈ as, Unquoted b.name := fun b hb => has b (List.mem_cons_of_mem _ hb)
    rw [giveDefaults] at h
    split at h
    · split at h
      · exact ih hg hrest h
      · obtain ⟨g₁, hgive, h⟩ := bind_eq_ok.mp h
        exact ih (unquotedGiven_of_give hg (has a List.mem_cons_self) hgive) hrest h
    · exact ih hg hrest h

theorem unquoted_of_nameAttributes {known named : List (Name × String)}
    {as : List (List Char × List Char)} (hknown : ∀ a ∈ known, UnquotedName a.1)
    (has : ∀ a ∈ as, Unquoted a.1) (h : nameAttributes scope known as = .ok named) :
    ∀ a ∈ named, UnquotedName a.1 := by
  induction as generalizing known with
  | nil =>
    cases h
    exact hknown
  | cons a as ih =>
    obtain ⟨written, value⟩ := a
    have hbase := unquoted_splitPrefix (has (written, value) List.mem_cons_self)
    have hrest : ∀ b ∈ as, Unquoted b.1 := fun b hb => has b (List.mem_cons_of_mem _ hb)
    have hadd {space : String} {base : List Char} (hbase : Unquoted base) :
        ∀ a ∈ known ++ [(⟨space, String.ofList base⟩, String.ofList value)], UnquotedName a.1 := by
      intro b hb
      rcases List.mem_append.mp hb with hb | hb
      · exact hknown b hb
      · rw [List.mem_singleton.mp hb, UnquotedName, String.toList_ofList]
        exact hbase
    rw [nameAttributes] at h
    split at h
    · rename_i base hsplit
      rw [hsplit] at hbase
      exact ih (hadd hbase) hrest h
    · rename_i short base hsplit
      rw [hsplit] at hbase
      split at h
      · cases h
      · dsimp only at h
        split at h
        · cases h
        · exact ih (hadd hbase) hrest h

/-- The element of a start tag has no content yet, and attributes with unquoted names. -/
theorem unquoted_of_enter {scope' : Scope} {opened : List (List Char)} {tag : StartTag}
    {here : List Char} {n m : Nat} {e : Element} (hd : d.UnquotedNames)
    (htag : ∀ a ∈ tag.attributes, Unquoted a.name)
    (h : scope.enter d opened tag here n = .ok ((scope', e), m)) :
    ∀ name ∈ e.attributeNames, UnquotedName name := by
  obtain ⟨g, m', hgive, h⟩ := Expanding.bind_eq_ok.mp h
  have hg := unquotedGiven_of_giveWritten (by simp [UnquotedGiven]) htag hgive
  cases hdefaults : giveDefaults (tag.attributes.map (·.name)) g
      (d.attributes.filter (·.element == tag.name)) with
  | error cause =>
    simp only [hdefaults, bind, Except.bind] at h
    cases h
  | ok given =>
    have hgiven := unquotedGiven_of_giveDefaults hg
      (fun a ha => hd a (List.mem_filter.mp ha).1) hdefaults
    cases hattributes : nameAttributes given.1 [] given.2 with
    | error cause =>
      simp only [hdefaults, hattributes, bind, Except.bind] at h
      cases h
    | ok attributes =>
      have hall := unquoted_of_nameAttributes (by simp) hgiven hattributes
      cases hname : nameElement given.1 tag.name with
      | error cause =>
        simp only [hdefaults, hattributes, hname, bind, Except.bind] at h
        cases h
      | ok name =>
        simp only [hdefaults, hattributes, hname, bind, Except.bind] at h
        cases h
        intro name hmem
        rw [Element.attributeNames, Content.attributeNames, List.append_nil] at hmem
        obtain ⟨a, ha, rfl⟩ := List.mem_map.mp hmem
        exact hall a ha

end Scope

/-! ## The reader -/

/-- The elements that are open hold unquoted names only. -/
def OpenElement.UnquotedNames (e : OpenElement) : Prop :=
  (∀ name ∈ e.element.attributeNames, UnquotedName name) ∧
    ∀ p ∈ e.parts, ∀ name ∈ p.attributeNames, UnquotedName name

/-- What has been read of a document holds unquoted names only. -/
def Progress.UnquotedNames : Progress → Prop
  | .inside e around => e.UnquotedNames ∧ ∀ o ∈ around, o.UnquotedNames
  | .complete root => ∀ name ∈ root.attributeNames, UnquotedName name

namespace OpenElement.UnquotedNames

variable {e : OpenElement}

theorem add {p : Part} (he : e.UnquotedNames) (hp : ∀ name ∈ p.attributeNames, UnquotedName name) :
    (e.add p).UnquotedNames :=
  ⟨he.1, List.forall_mem_cons.mpr ⟨hp, he.2⟩⟩

theorem addChars (he : e.UnquotedNames) (run : List Char) : (e.addChars run).UnquotedNames := by
  unfold OpenElement.addChars
  split
  · exact he
  · rename_i before parts hparts _
    refine ⟨he.1, List.forall_mem_cons.mpr ⟨by simp [Part.attributeNames], fun p hp => ?_⟩⟩
    exact he.2 p (hparts ▸ List.mem_cons_of_mem _ hp)
  · exact he.add (by simp [Part.attributeNames])

theorem finish (he : e.UnquotedNames) : ∀ name ∈ e.finish.attributeNames, UnquotedName name := by
  intro name hmem
  rcases List.mem_append.mp hmem with hmem | hmem
  · exact he.1 name (List.mem_append_left _ hmem)
  · obtain ⟨p, hp, hname⟩ := Content.mem_attributeNames_ofParts.mp hmem
    exact he.2 p hp name hname

end OpenElement.UnquotedNames

theorem Progress.unquotedNames_after {e : Element} {around : List OpenElement}
    (he : ∀ name ∈ e.attributeNames, UnquotedName name)
    (haround : ∀ o ∈ around, o.UnquotedNames) : (Progress.after e around).UnquotedNames := by
  cases around with
  | nil => exact he
  | cons outer around =>
    obtain ⟨houter, haround⟩ := List.forall_mem_cons.mp haround
    exact ⟨houter.add he, haround⟩

theorem Expanding.withError_eq_ok {ε δ α : Type} {f : ε → δ} {x : Expanding ε α}
    {n : Nat} {r : α × Nat} : x.withError f n = .ok r ↔ x n = .ok r := by
  unfold Expanding.withError
  cases x n <;> simp [Except.mapError]

theorem Expanding.lift_eq_ok {ε α : Type} {x : Except ε α} {n : Nat} {a : α} {m : Nat}
    (h : (liftM x : Expanding ε α) n = .ok (a, m)) : x = .ok a := by
  cases x with
  | error e => cases h
  | ok b =>
    cases h
    rfl

namespace Document

variable {d : Doctype} {opened : List (List Char)} {expand : Expand}

/-- Reading the text of an entity keeps what is read. -/
def Keeps (expand : Expand) : Prop :=
  ∀ name text p n s m, p.UnquotedNames → expand name text p n = .ok (s, m) →
    s.progress.UnquotedNames

theorem unquoted_of_refer {e : OpenElement} {around : List OpenElement} {r : Scan.Reference}
    {n m : Nat} {s : State} (hexpand : Keeps expand) (he : e.UnquotedNames)
    (haround : ∀ o ∈ around, o.UnquotedNames)
    (h : refer d opened expand e around r n = .ok (s, m)) : s.progress.UnquotedNames := by
  cases r with
  | number k =>
    rw [refer] at h
    cases hchar : Scan.character? k with
    | none =>
      rw [hchar] at h
      cases h
    | some c =>
      rw [hchar] at h
      cases h
      exact ⟨he.addChars _, haround⟩
  | entity name =>
    rw [refer] at h
    cases hchar : Scan.predefined? name with
    | some c =>
      rw [hchar] at h
      cases h
      exact ⟨he.addChars _, haround⟩
    | none =>
      rw [hchar] at h
      obtain ⟨entity, m', -, h⟩ := Expanding.bind_eq_ok.mp h
      rcases entity with _ | (text | _ | _)
      · cases h
      · exact hexpand name text (.inside e around) _ _ _ ⟨he, haround⟩ h
      · cases h
      · cases h

/-- One piece of markup adds unquoted names only. -/
theorem unquoted_of_step {here : List Char} {e : OpenElement} {around : List OpenElement}
    {level n m : Nat} {markup : Markup} {s : State} (hd : d.UnquotedNames) (hexpand : Keeps expand)
    (he : e.UnquotedNames) (haround : ∀ o ∈ around, o.UnquotedNames)
    (hmarkup : markup.UnquotedNames)
    (h : step d opened expand here e around level markup n = .ok (s, m)) :
    s.progress.UnquotedNames := by
  unfold step at h
  split at h
  · cases h
    exact ⟨he.addChars _, haround⟩
  · split at h
    · cases h
      exact ⟨he.addChars _, haround⟩
    · cases h
  · cases h
    exact ⟨he.add (by simp [Part.attributeNames]), haround⟩
  · cases h
  · obtain ⟨s', m', hrefer, h⟩ := Expanding.bind_eq_ok.mp h
    have hs' := unquoted_of_refer hexpand he haround (Expanding.withError_eq_ok.mp hrefer)
    cases h
    exact hs'
  · obtain ⟨⟨inner, element⟩, m', henter, h⟩ := Expanding.bind_eq_ok.mp h
    have helement := Scope.unquoted_of_enter hd hmarkup henter
    have hopen : ∀ o ∈ e :: around, o.UnquotedNames := List.forall_mem_cons.mpr ⟨he, haround⟩
    dsimp only at h
    split at h
    · cases h
      exact Progress.unquotedNames_after helement hopen
    · cases h
      exact ⟨⟨helement, by simp⟩, hopen⟩
  · split at h
    · cases h
    · split at h
      · cases h
      · cases h
        exact Progress.unquotedNames_after he.finish haround

/-- All pieces of markup up to the end of the root, or of the text of an entity. -/
theorem unquoted_of_readContent {limit n m : Nat} {s s' : State} {cs rest : List Char}
    (hd : d.UnquotedNames) (hexpand : Keeps expand) (hs : s.progress.UnquotedNames)
    (h : readContent d opened expand limit s cs n = .ok ((s', rest), m)) :
    s'.progress.UnquotedNames := by
  induction limit generalizing s cs n with
  | zero =>
    cases h
    exact hs
  | succ limit ih =>
    obtain ⟨progress, level⟩ := s
    cases progress with
    | complete root =>
      cases h
      exact hs
    | inside e around =>
      obtain ⟨⟨markup, left⟩, n₁, hscan, h⟩ := Expanding.bind_eq_ok.mp h
      obtain ⟨s₁, n₂, hstep, h⟩ := Expanding.bind_eq_ok.mp h
      have hmarkup := Markup.unquotedNames_of_scan (Expanding.lift_eq_ok hscan)
      have hs₁ := unquoted_of_step hd hexpand hs.1 hs.2 hmarkup hstep
      split at h
      · split at h
        · cases h
          exact hs₁
        · cases h
      · split at h
        · cases h
          exact hs₁
        · exact ih hs₁ h

theorem keeps_readEntity (hd : d.UnquotedNames) (depth : Nat) (opened : List (List Char)) :
    Keeps (readEntity d depth opened) := by
  induction depth generalizing opened with
  | zero =>
    intro name text p n s m hp h
    cases h
  | succ depth ih =>
    intro name text p n s m hp h
    obtain ⟨_, n₁, -, h⟩ := Expanding.bind_eq_ok.mp h
    obtain ⟨⟨s₁, left⟩, n₂, hcontent, h⟩ := Expanding.bind_eq_ok.mp h
    cases h
    exact unquoted_of_readContent hd (ih (name :: opened)) hp
      (Expanding.withError_eq_ok.mp hcontent)

theorem unquoted_of_readRoot {cs rest : List Char} {root : Element} (hd : d.UnquotedNames)
    (h : readRoot d cs = .ok (root, rest)) : ∀ name ∈ root.attributeNames, UnquotedName name := by
  obtain ⟨⟨markup, left⟩, hscan, h⟩ := bind_eq_ok.mp h
  have hmarkup := Markup.unquotedNames_of_scan hscan
  cases markup with
  | start tag =>
    obtain ⟨⟨⟨scope, element⟩, allowance⟩, henter, h⟩ := bind_eq_ok.mp h
    have helement := Scope.unquoted_of_enter hd hmarkup henter
    dsimp only at h
    split at h
    · cases h
      exact helement
    · obtain ⟨⟨⟨s, behind⟩, left⟩, hcontent, h⟩ := bind_eq_ok.mp h
      have hs := unquoted_of_readContent hd (keeps_readEntity hd _ _)
        (by exact ⟨⟨helement, by simp⟩, by simp⟩) hcontent
      obtain ⟨progress, level⟩ := s
      cases progress with
      | complete root' =>
        cases h
        exact hs
      | inside e around => cases h
  | _ => cases h

/-- No attribute of a document has a name with a quotation mark. -/
theorem unquoted_of_parse {source : String} {root : Element} (h : parse source = .ok root) :
    ∀ name ∈ root.attributeNames, UnquotedName name := by
  cases hremarks : parseWithRemarks source with
  | error e =>
    rw [parse, hremarks] at h
    cases h
  | ok whole =>
    rw [parse, hremarks] at h
    cases h
    obtain ⟨⟨d, behind⟩, hprolog, hrest⟩ := bind_eq_ok.mp hremarks
    obtain ⟨⟨root, rest⟩, hroot, hrest⟩ := bind_eq_ok.mp hrest
    obtain ⟨_, -, hret⟩ := bind_eq_ok.mp hrest
    cases hret
    have hd : d.UnquotedNames := Doctype.unquotedNames_of_readProlog
      (by simp [Doctype.UnquotedNames, Doctype.ofSource]) (by simp [Prolog.attribute?]) hprolog
    have hwhole := unquoted_of_readRoot hd hroot
    unfold Element.attributeNames at hwhole ⊢
    rwa [Content.attributeNames_withoutRemarks]

end Document

end MathLint.Xml

import MathLint.Proofs.Diagnostics
import MathLint.Proofs.Distinct

/-!
# Reports about an attribute

Two checks look at the names of attributes: one reports unknown attributes, the other deprecated
ones. What either of them says about an attribute quotes its name, so their findings can be told
apart by the attributes that they are about.

* `Structure.unrecognized`, `Structure.metadata`, `Structure.ignored`, `Structure.deprecated`: what
  can be said about an attribute.
* `Structure.name_eq_of_mem_remarks`: no finding is about two attributes of a node.
* `Structure.reportsAbout_eq`: what the two checks report about one attribute.
-/

namespace MathLint.Structure

/-! ## What can be said -/

/-- The report on an attribute that nothing allows. -/
def unrecognized (n : Node) (name : String) : Finding :=
  Diagnostic.unknownAttribute.finding .warn
    s!"Attribute \"{name}\" is not recognized on <{n.tag}>."

/-- The report on an attribute that is metadata of a renderer. -/
def metadata (n : Node) (name : String) : Finding :=
  Diagnostic.unknownAttribute.finding .warn
    s!"Attribute \"{name}\" on <{n.tag}> is renderer metadata, not MathML."

/-- The report on an attribute of `math` that renderers ignore. -/
def ignored (name : String) : Finding :=
  Diagnostic.ignoredAttribute.finding .warn
    s!"Attribute \"{name}\" on <math> is deprecated and ignored by modern renderers."

/-- The report on a deprecated attribute. -/
def deprecated (n : Node) (name : String) : Finding :=
  Diagnostic.deprecatedAttribute.finding .warn
    (s!"Attribute \"{name}\" on <{n.tag}> is deprecated; use CSS or " ++
      "mathvariant-free markup instead.")

/-- All that can be said about an attribute of a node. -/
def remarks (n : Node) (name : String) : List Finding :=
  [unrecognized n name, metadata n name, ignored name, deprecated n name]

/-- Whether a finding is about an attribute of a node. -/
def isAbout (n : Node) (name : String) (f : Finding) : Bool := (remarks n name).contains f

variable {c : Context} {n : Node} {name other : String} {a : String × String} {f : Finding}

/-- Each kind of remark quotes the name of the attribute. -/
theorem remark_injective (n : Node) :
    ∀ remark ∈ [unrecognized n, metadata n, ignored, deprecated n], Function.Injective remark := by
  intro remark hremark name other h
  have hmessage := congrArg Finding.message h
  simp only [List.mem_cons, List.not_mem_nil, or_false] at hremark
  have hname : toString name = toString other := by
    rcases hremark with rfl | rfl | rfl | rfl <;>
      simpa [unrecognized, metadata, ignored, deprecated, Diagnostic.finding] using hmessage
  exact hname

/-- The two reports of one code end in different ways. -/
theorem unrecognized_ne_metadata (m : Node) : unrecognized n name ≠ metadata m other := by
  intro h
  have hlist := congrArg (fun f => f.message.toList.reverse) h
  simp [unrecognized, metadata, Diagnostic.finding, toString] at hlist

theorem finding_ne {d e : Diagnostic} {message message' : String} (h : d ≠ e) :
    d.finding .warn message ≠ e.finding .warn message' :=
  fun heq => h (Diagnostic.code_injective (congrArg Finding.code heq))

/-- A finding is about one attribute of a node only. -/
theorem name_eq_of_mem_remarks (h : f ∈ remarks n name) (h' : f ∈ remarks n other) :
    name = other := by
  simp only [remarks, List.mem_cons, List.not_mem_nil, or_false] at h h'
  -- only two of the kinds of remarks share a code
  rcases h with rfl | rfl | rfl | rfl
  · rcases h' with h' | h' | h' | h'
    · exact remark_injective n _ (by simp) h'
    · exact absurd h' (unrecognized_ne_metadata n)
    all_goals exact absurd h' (finding_ne (by decide))
  · rcases h' with h' | h' | h' | h'
    · exact absurd h'.symm (unrecognized_ne_metadata n)
    · exact remark_injective n _ (by simp) h'
    all_goals exact absurd h' (finding_ne (by decide))
  · rcases h' with h' | h' | h' | h'
    on_goal 3 => exact remark_injective n _ (by simp) h'
    all_goals exact absurd h' (finding_ne (by decide))
  · rcases h' with h' | h' | h' | h'
    on_goal 4 => exact remark_injective n _ (by simp) h'
    all_goals exact absurd h' (finding_ne (by decide))

/-! ## What the checks report -/

/-- The names of the attributes of a node are distinct. -/
theorem nodup_attributes (n : Node) : (n.attributes.map Prod.fst).Nodup := nodup_keys_table _

/-- The check of names reports at most one of the remarks on an attribute. -/
theorem attributeName_cases (c : Context) (n : Node) (name : String) :
    attributeName c n name = [] ∨ ∃ f ∈ remarks n name, attributeName c n name = [f] := by
  fun_cases attributeName c n name
  · exact .inl rfl
  · exact .inr ⟨ignored name, by simp [remarks], rfl⟩
  · exact .inl rfl
  · exact .inr ⟨metadata n name, by simp [remarks], rfl⟩
  · exact .inl rfl
  · exact .inl rfl
  · exact .inr ⟨unrecognized n name, by simp [remarks], rfl⟩

/-- The check for deprecated attributes, attribute by attribute. -/
theorem deprecatedAttributes_eq (c : Context) (n : Node) :
    deprecatedAttributes c n = n.attributes.flatMap fun a =>
      if (deprecatedNames c n).contains a.1 then [deprecated n a.1] else [] := by
  unfold deprecatedAttributes
  induction n.attributes with
  | nil => rfl
  | cons a as ih =>
    rw [List.flatMap_cons, ← ih]
    rw [List.filter_cons]
    cases (deprecatedNames c n).contains a.1 <;> rfl

/-- Of what is said about the attributes of a node one by one, that is about one of them which is
said for it. -/
theorem filter_flatMap_attributes {about : Finding → Bool} {g : String × String → List Finding}
    (ha : a ∈ n.attributes) (hself : ∀ f ∈ g a, about f = true)
    (hother : ∀ b ∈ n.attributes, b.1 ≠ a.1 → ∀ f ∈ g b, about f = false) :
    (n.attributes.flatMap g).filter about = g a := by
  have hone := flatMap_eq_of_sublist (g := g) (f := fun b => (g b).filter about)
    (List.singleton_sublist.mpr ha) (nodup_attributes n).of_map
  rw [List.filter_flatMap, hone, List.flatMap_singleton]
  · intro b hb
    obtain rfl := List.mem_singleton.mp hb
    exact List.filter_eq_self.mpr hself
  · intro b hb hne
    refine List.filter_eq_nil_iff.mpr fun f hf habout => ?_
    have hname : b.1 ≠ a.1 := fun hname => hne (List.mem_singleton.mpr
      (List.inj_on_of_nodup_map (nodup_attributes n) hb ha hname))
    rw [hother b hb hname f hf] at habout
    cases habout

theorem filter_isAbout_flatMap {g : String × String → List Finding}
    (hg : ∀ b ∈ n.attributes, g b ⊆ remarks n b.1) (ha : a ∈ n.attributes) :
    (n.attributes.flatMap g).filter (isAbout n a.1) = g a := by
  refine filter_flatMap_attributes ha (fun f hf => List.contains_iff_mem.mpr (hg a ha hf)) ?_
  intro b hb hne f hf
  rw [← Bool.not_eq_true]
  exact fun habout =>
    hne (name_eq_of_mem_remarks (hg b hb hf) (List.contains_iff_mem.mp habout))

/-- What the checks for unknown and for deprecated attributes report about one attribute. -/
def reportsAbout (c : Context) (n : Node) (name : String) : List Finding :=
  (attributes c n ++ deprecatedAttributes c n).filter (isAbout n name)

theorem attributeName_subset_remarks (c : Context) (n : Node) (name : String) :
    attributeName c n name ⊆ remarks n name := by
  rcases attributeName_cases c n name with h | ⟨f, hf, h⟩
  · rw [h]
    exact List.nil_subset _
  · rw [h]
    exact List.cons_subset.mpr ⟨hf, List.nil_subset _⟩

theorem deprecated_subset_remarks (c : Context) (n : Node) (name : String) :
    (if (deprecatedNames c n).contains name then [deprecated n name] else []) ⊆
      remarks n name := by
  split
  · simp [remarks]
  · exact List.nil_subset _

/-- Nothing but the name of an attribute decides what is reported about it. -/
theorem reportsAbout_eq (ha : a ∈ n.attributes) :
    reportsAbout c n a.1 = attributeName c n a.1 ++
      if (deprecatedNames c n).contains a.1 then [deprecated n a.1] else [] := by
  unfold reportsAbout attributes
  rw [deprecatedAttributes_eq, List.filter_append,
    filter_isAbout_flatMap (fun b _ => attributeName_subset_remarks c n b.1) ha,
    filter_isAbout_flatMap (fun b _ => deprecated_subset_remarks c n b.1) ha]

/-- All that is reported is about some attribute. -/
theorem exists_isAbout (hf : f ∈ attributes c n ++ deprecatedAttributes c n) :
    ∃ a ∈ n.attributes, isAbout n a.1 f = true := by
  rw [deprecatedAttributes_eq] at hf
  rcases List.mem_append.mp hf with hf | hf
  · obtain ⟨a, ha, hfa⟩ := List.mem_flatMap.mp hf
    exact ⟨a, ha, List.contains_iff_mem.mpr (attributeName_subset_remarks c n a.1 hfa)⟩
  · obtain ⟨a, ha, hfa⟩ := List.mem_flatMap.mp hf
    exact ⟨a, ha, List.contains_iff_mem.mpr (deprecated_subset_remarks c n a.1 hfa)⟩

end MathLint.Structure

import MathLint.Proofs.Check.Attributes
import MathLint.Proofs.Lint.Fault
import MathLint.Proofs.Schema.Length

/-!
# Attributes that are lengths

For every attribute of a type of lengths there is one rule that applies to an element: that of the
catalog, or on `mpadded` the one for padded lengths. The check of values follows that rule.

* `Context.rulesFor_length`, `Context.rulesFor_padded`: the rule that applies.
* `Structure.isAboutValue`, `Structure.filter_attributeValues`: the findings about the value of one
  attribute.
* `Structure.length_judged`: the values of lengths that are reported.
* `Structure.padded_judged`: the values of lengths that are reported on `mpadded` alone.
-/

namespace MathLint

/-! ## Rules -/

namespace ValueRule

variable {d : AttributeDefinition} {r : ValueRule}

theorem attributeName_of_ofDefinition? (h : ofDefinition? d = some r) :
    r.attributeName = d.name := by
  unfold ofDefinition? at h
  split at h
  · cases h
  · split at h
    · cases h
      rfl
    · obtain ⟨grammar, -, rfl⟩ := Option.map_eq_some_iff.mp h
      rfl

/-- The keywords that stand for lengths in a type of lengths. -/
def keywords (type : AttributeType) : List String := type.values?.getD []

/-- The rule of an attribute that is a length. -/
def ofLength (d : AttributeDefinition) : ValueRule :=
  { attributeName := d.name, grammar := .length (keywords d.type),
    excludedTags := if paddedAttributes.contains d.name then ["mpadded"] else [] }

/-- The rule of a padded length. -/
def ofPadded (name : String) : ValueRule :=
  { attributeName := name, grammar := .paddedLength, tags := some ["mpadded"] }

theorem mem_paddedAttributes (h : r ∈ padded) : r.attributeName ∈ paddedAttributes := by
  obtain ⟨name, hname, rfl⟩ := List.mem_map.mp h
  exact hname

theorem appliesTo_of_mem_padded {tag : String} (h : r ∈ padded) :
    r.appliesTo tag = (tag == "mpadded") := by
  obtain ⟨name, -, rfl⟩ := List.mem_map.mp h
  simp [appliesTo, Bool.beq_eq_decide_eq]

end ValueRule

namespace Context

open ValueRule

variable {c : Context} {d : AttributeDefinition} {name tag : String}

/-- The rules that apply to an attribute of the elements of a tag. -/
def rulesFor (c : Context) (name tag : String) : List ValueRule :=
  c.valueRules.filter fun r => r.attributeName == name && r.appliesTo tag

/-- The catalog has one definition of a name. -/
theorem filter_sorted {v : Version} (hd : d ∈ v.attributes) :
    (AttributeDefinition.sorted v.attributes).filter (·.name == d.name) = [d] := by
  have hnames : ∀ v ∈ Version.all, (v.attributes.map (·.name)).Nodup := by
    decide +kernel
  have hnodup := hnames v (Version.mem_all v)
  have hone : v.attributes.filter (·.name == d.name) = [d] := by
    have hsame : ∀ e ∈ v.attributes, (e.name == d.name) = (e == d) := fun e he => by
      rw [Bool.eq_iff_iff, beq_iff_eq, beq_iff_eq]
      exact ⟨List.inj_on_of_nodup_map hnodup he hd, congrArg _⟩
    rw [List.filter_congr hsame, List.filter_beq,
      List.count_eq_one_of_mem hnodup.of_map hd, List.replicate_one]
  have hperm := (List.mergeSort_perm v.attributes
    fun a b => decide (a.name ≤ b.name)).filter (·.name == d.name)
  rw [hone] at hperm
  exact List.perm_singleton.mp hperm

/-- The rules for an attribute: that of its definition, and that for padded lengths. -/
theorem filter_valueRules (hd : d ∈ c.rules.bundle.version.attributes) :
    c.valueRules.filter (·.attributeName == d.name) =
      (ofDefinition? d).toList ++ padded.filter (·.attributeName == d.name) := by
  have hdefinition (e : AttributeDefinition) :
      (ofDefinition? e).filter (·.attributeName == d.name) =
        if e.name == d.name then ofDefinition? e else none := by
    cases he : ofDefinition? e with
    | none => simp
    | some r => simp [Option.filter, attributeName_of_ofDefinition? he]
  rw [valueRules_eq, ofCatalog, List.filter_append, List.filter_filterMap]
  simp only [hdefinition]
  rw [← List.filterMap_filter, filter_sorted hd]
  rfl

theorem rulesFor_eq (hd : d ∈ c.rules.bundle.version.attributes) :
    c.rulesFor d.name tag = (ofDefinition? d).toList.filter (·.appliesTo tag) ++
      padded.filter fun r => r.attributeName == d.name && tag == "mpadded" := by
  have hsplit : c.rulesFor d.name tag =
      (c.valueRules.filter (·.attributeName == d.name)).filter (·.appliesTo tag) := by
    rw [List.filter_filter]
    exact List.filter_congr fun r _ => Bool.and_comm _ _
  rw [hsplit, filter_valueRules hd, List.filter_append, List.filter_filter]
  congr 1
  exact List.filter_congr fun r hr => by rw [appliesTo_of_mem_padded hr, Bool.and_comm]

/-- To a length, only its own rule applies, but for some lengths on `mpadded`. -/
theorem rulesFor_length (hd : d ∈ c.rules.bundle.version.attributes)
    (htype : isLengthType d.type = true)
    (htag : tag = "mpadded" → d.name ∉ ["width", "height", "depth", "lspace"]) :
    c.rulesFor d.name tag = [ofLength d] := by
  have hcatalog : ∀ v ∈ Version.all, ∀ d ∈ v.attributes, isLengthType d.type = true →
      ofDefinition? d = some (ofLength d) ∧ d.name ≠ "voffset" := by decide
  obtain ⟨hrule, hvoffset⟩ := hcatalog _ (Version.mem_all _) d hd htype
  have hpadded : tag = "mpadded" → d.name ∉ paddedAttributes := by
    intro h hmem
    have hsome := htag h
    simp only [paddedAttributes, List.mem_cons, List.not_mem_nil, or_false] at hmem hsome
    tauto
  have happlies : (ofLength d).appliesTo tag = true := by
    simp only [ofLength, appliesTo]
    split
    · rename_i hmem
      simpa using fun h : tag = "mpadded" => hpadded h (List.contains_iff_mem.mp hmem)
    · rfl
  have hnone : (padded.filter fun r => r.attributeName == d.name && tag == "mpadded") = [] := by
    refine List.filter_eq_nil_iff.mpr fun r hr h => ?_
    rw [Bool.and_eq_true, beq_iff_eq, beq_iff_eq] at h
    exact hpadded h.2 (h.1 ▸ mem_paddedAttributes hr)
  rw [rulesFor_eq hd, hrule, hnone, List.append_nil]
  exact List.filter_cons_of_pos happlies

/-- On `mpadded`, only the rule of padded lengths applies to some lengths. -/
theorem rulesFor_padded (hname : name ∈ ["width", "height", "depth", "lspace"]) :
    c.rulesFor name "mpadded" = [ofPadded name] := by
  have hcatalog : ∀ v ∈ Version.all, ∀ name ∈ ["width", "height", "depth", "lspace"],
      ∃ d ∈ v.attributes, d.name = name ∧
        (ofDefinition? d).toList.filter (·.appliesTo "mpadded") = [] := by decide
  have hpadded : ∀ name ∈ ["width", "height", "depth", "lspace"],
      (padded.filter fun r => r.attributeName == name && "mpadded" == "mpadded") =
        [ofPadded name] := by decide
  obtain ⟨d, hd, rfl, hrules⟩ := hcatalog _ (Version.mem_all c.rules.bundle.version) name hname
  rw [rulesFor_eq hd, hrules, List.nil_append, hpadded _ hname]

/-- No attribute with a rule has a quote in its name. -/
theorem quote_notMem {r : ValueRule} (hr : r ∈ c.valueRules) : '"' ∉ r.attributeName.toList := by
  have hcatalog : ∀ v ∈ Version.all, ∀ d ∈ v.attributes, '"' ∉ d.name.toList := by
    decide +kernel
  have hpadded : ∀ name ∈ paddedAttributes, '"' ∉ name.toList := by decide
  rcases mem_valueRules.mp hr with ⟨d, hd, h⟩ | h
  · rw [attributeName_of_ofDefinition? h]
    exact hcatalog _ (Version.mem_all _) d hd
  · exact hpadded _ (mem_paddedAttributes h)

end Context

/-! ## Reports on values -/

namespace Structure

open Text

variable {c : Context} {n : Node} {name other value : String} {a : String × String} {f : Finding}
  {rule : ValueRule} {fs : List Finding}

/-- The report on an empty value. -/
def emptyValue (n : Node) (name : String) (rule : ValueRule) : Finding :=
  Diagnostic.invalidValue.finding .warn
    s!"Attribute \"{name}\" on <{n.tag}> is empty; expected {rule.grammar.expected}."

/-- The report on a value that the grammar of a rule does not accept. -/
def wrongValue (n : Node) (name value : String) (rule : ValueRule) : Finding :=
  Diagnostic.invalidValue.finding .warn
    s!"Attribute \"{name}\" on <{n.tag}> has value \"{value}\"; expected {rule.grammar.expected}."

/-- Whether a finding is about the value of an attribute. -/
def isAboutValue (name : String) (f : Finding) : Bool :=
  f.code == "L022" && beginsWith ("Attribute \"" ++ name ++ "\" on <") f.message

/-- What the check of values says about one attribute. -/
def valueReports (c : Context) (n : Node) (a : String × String) : Except Fault (List Finding) :=
  gather (valueAgainst n a.1 (trim a.2)) (c.rulesFor a.1 n.tag)

theorem attributeValues_eq (c : Context) (n : Node) :
    attributeValues c n = gather (valueReports c n) n.attributes := rfl

theorem valueAgainst_eq {accepted : Bool} (h : rule.grammar.accepts value = .ok accepted) :
    valueAgainst n name value rule = .ok
      (if value.isEmpty then [emptyValue n name rule]
      else if accepted then [] else [wrongValue n name value rule]) := by
  unfold valueAgainst
  split
  · rfl
  · rw [h]
    cases accepted <;> rfl

theorem mem_valueAgainst (h : valueAgainst n name value rule = .ok fs) (hf : f ∈ fs) :
    f = emptyValue n name rule ∨ f = wrongValue n name value rule := by
  unfold valueAgainst at h
  split at h
  · cases h
    exact .inl (List.mem_singleton.mp hf)
  · cases haccepts : rule.grammar.accepts value with
    | error e => rw [haccepts] at h; cases h
    | ok accepted =>
      rw [haccepts] at h
      cases accepted <;> cases h
      · exact .inr (List.mem_singleton.mp hf)
      · cases hf

/-- How a report on the value of an attribute begins. -/
theorem exists_message (h : valueAgainst n name value rule = .ok fs) (hf : f ∈ fs) :
    f.code = "L022" ∧
      ∃ rest, f.message.toList = ("Attribute \"" ++ name ++ "\" on <").toList ++ rest := by
  rcases mem_valueAgainst h hf with rfl | rfl
  · refine ⟨rfl, (n.tag ++ "> is empty; expected " ++ rule.grammar.expected ++ ".").toList, ?_⟩
    simp [emptyValue, Diagnostic.finding, toString]
  · refine ⟨rfl, (n.tag ++ "> has value \"" ++ value ++ "\"; expected " ++
      rule.grammar.expected ++ ".").toList, ?_⟩
    simp [wrongValue, Diagnostic.finding, toString]

/-- A quoted text without quotes in it ends at the next quote. -/
theorem eq_of_append_quote_eq {xs ys us vs : List Char} (hx : '"' ∉ xs) (hy : '"' ∉ ys)
    (h : xs ++ '"' :: us <+: ys ++ '"' :: vs) : xs = ys := by
  have hread {zs : List Char} (ws : List Char) (hz : '"' ∉ zs) :
      (zs ++ '"' :: ws).takeWhile (· != '"') = zs := by
    have hall : ∀ c ∈ zs, (c != '"') = true := fun c hc => by
      rw [bne_iff_ne]
      rintro rfl
      exact hz hc
    simp [List.takeWhile_append_of_pos hall]
  obtain ⟨rest, hrest⟩ := h
  rw [List.append_assoc, List.cons_append] at hrest
  rw [← hread (us ++ rest) hx, hrest, hread vs hy]

/-- A report on the value of one attribute is about no other one. -/
theorem isAboutValue_iff (hname : '"' ∉ name.toList) (hother : '"' ∉ other.toList)
    (h : valueAgainst n name value rule = .ok fs) (hf : f ∈ fs) :
    isAboutValue other f = true ↔ other = name := by
  obtain ⟨hcode, rest, hmessage⟩ := exists_message h hf
  simp only [isAboutValue, hcode, beginsWith, hmessage, beq_self_eq_true, Bool.true_and,
    List.isPrefixOf_iff_prefix, String.toList_append, List.append_assoc,
    List.prefix_append_right_inj]
  constructor
  · exact fun hprefix => String.toList_injective (eq_of_append_quote_eq hother hname hprefix)
  · rintro rfl
    rw [List.prefix_append_right_inj]
    exact List.prefix_append _ _

/-- What the check of values reports about one attribute is what it says about it. -/
theorem filter_attributeValues {part : List Finding} (ha : a ∈ n.attributes)
    (hname : '"' ∉ a.1.toList) (hpart : valueReports c n a = .ok part)
    (h : attributeValues c n = .ok fs) : fs.filter (isAboutValue a.1) = part := by
  rw [attributeValues_eq] at h
  -- every attribute has its part, which is about that attribute
  have hparts := toOption_of_gather_ok h
  have hself {b : String × String} (hb : b ∈ n.attributes) (other : String)
      (hother : '"' ∉ other.toList) {f : Finding}
      (hf : f ∈ (valueReports c n b).toOption.getD []) :
      isAboutValue other f = true ↔ other = b.1 := by
    obtain ⟨rule, hrule, part, hagainst, hf⟩ := exists_of_mem_gather (hparts b hb) hf
    obtain ⟨hrule, happlies⟩ := List.mem_filter.mp hrule
    have hb : rule.attributeName = b.1 := beq_iff_eq.mp (Bool.and_eq_true .. |>.mp happlies).1
    exact isAboutValue_iff (hb ▸ Context.quote_notMem hrule) hother hagainst hf
  rw [gather_eq_ok hparts] at h
  obtain rfl := Except.ok.inj h
  rw [filter_flatMap_attributes ha, hpart]
  · rfl
  · intro f hf
    exact (hself ha a.1 hname hf).mpr rfl
  · intro b hb hne f hf
    rw [← Bool.not_eq_true, hself hb a.1 hname hf]
    exact fun heq => hne heq.symm

/-! ## Lengths -/

variable {d : AttributeDefinition}

/-- What the check of values says about a length. -/
theorem valueReports_length (hd : d ∈ c.rules.bundle.version.attributes)
    (hname : a.1 = d.name) (htype : ValueRule.isLengthType d.type = true)
    (htag : n.tag = "mpadded" → d.name ∉ ["width", "height", "depth", "lspace"]) :
    valueReports c n a = .ok
      (if (trim a.2).isEmpty then [emptyValue n a.1 (.ofLength d)]
      else if (ValueRule.keywords d.type).contains (trim a.2) || Grammar.isLength (trim a.2) then []
      else [wrongValue n a.1 (trim a.2) (.ofLength d)]) := by
  rw [valueReports, hname, Context.rulesFor_length hd htype htag, gather_singleton]
  exact valueAgainst_eq rfl

/-- What the check of values says about a padded length. -/
theorem valueReports_padded (hname : name ∈ ["width", "height", "depth", "lspace"])
    (htag : n.tag = "mpadded") :
    valueReports c n (name, value) = .ok
      (if (trim value).isEmpty then [emptyValue n name (.ofPadded name)]
      else if Grammar.isPaddedLength (trim value) then []
      else [wrongValue n name (trim value) (.ofPadded name)]) := by
  rw [valueReports, htag, Context.rulesFor_padded hname, gather_singleton]
  exact valueAgainst_eq rfl

theorem isKeyword_or_isLength_iff {keywords : List String} :
    (keywords.contains (trim value) || Grammar.isLength (trim value)) = true ↔
      trim value ∈ keywords ∨ IsLength (trim value).toList := by
  rw [Bool.or_eq_true, List.contains_iff_mem, Grammar.isLength_trim_iff]

/-- An element of a tag with a width. -/
def measured (tag width : String) : Node :=
  .root ⟨⟨mathNamespace, tag⟩, [(⟨"", "width"⟩, width)], .nil⟩

/-- The definition of the width. -/
def widthDefinition : AttributeDefinition :=
  { name := "width", type := .length, specs := ["presentation"] }

theorem attributes_measured (tag width : String) :
    (measured tag width).attributes = [("width", width)] := by
  have hname : Node.attributeName ⟨"", "width"⟩ = "width" := by decide
  simp [measured, Node.attributes, Node.element, table, setEntry, hname]

theorem attributeValues_measured (c : Context) (tag width : String) :
    attributeValues c (measured tag width) =
      valueReports c (measured tag width) ("width", width) := by
  rw [attributeValues_eq, attributes_measured, gather_singleton]

/-- Nothing is reported on space whose width is a length. -/
theorem attributeValues_space {c : Context} {width : String}
    (hd : widthDefinition ∈ c.rules.bundle.version.attributes) (hne : (trim width).isEmpty = false)
    (hlength : Grammar.isLength (trim width) = true) :
    attributeValues c (measured "mspace" width) = .ok [] := by
  have htag : (measured "mspace" width).tag ≠ "mpadded" :=
    (by decide : Text.lower "mspace" ≠ "mpadded")
  rw [attributeValues_measured, valueReports_length hd rfl rfl fun h => absurd h htag, hlength,
    Bool.or_true, hne]
  rfl

/-- The check of values has one report about an attribute of a type of lengths if its value, without
white space around it, is empty or neither a keyword of the type nor a length; otherwise it has
none. It fails only on other attributes, which hold a count that cannot be read. -/
theorem length_judged (ha : a ∈ n.attributes) (hd : d ∈ c.rules.bundle.version.attributes)
    (hname : a.1 = d.name) (htype : ValueRule.isLengthType d.type = true)
    (htag : n.tag = "mpadded" → d.name ∉ ["width", "height", "depth", "lspace"]) :
    let v := trim a.2
    let wrong := v = "" ∨ v ∉ ValueRule.keywords d.type ∧ ¬ IsLength v.toList
    ∃ part, valueReports c n a = .ok part ∧
      (wrong → ∃ f, part = [f] ∧ f.code = "L022") ∧ (¬ wrong → part = []) ∧
      (∀ fs, attributeValues c n = .ok fs → fs.filter (isAboutValue a.1) = part) ∧
      ∀ e, attributeValues c n = .error e →
        ∃ b ∈ n.attributes, b.1 ∈ countAttributes ∧ UnreadableDigits (trim b.2) := by
  intro v wrong
  have hpart := valueReports_length (c := c) (n := n) hd hname htype htag
  have hquote : '"' ∉ a.1.toList := by
    have hmem : ValueRule.ofLength d ∈ c.rulesFor d.name n.tag := by
      rw [Context.rulesFor_length hd htype htag]
      exact List.mem_singleton.mpr rfl
    rw [hname]
    exact Context.quote_notMem (List.mem_filter.mp hmem).1
  refine ⟨_, hpart, fun hwrong => ?_, fun hright => ?_,
    fun fs hfs => filter_attributeValues ha hquote hpart hfs,
    fun e he => attributeValues_error_iff.mp ⟨e, he⟩⟩
  · rcases hwrong with hempty | ⟨hkeyword, hlength⟩
    · rw [if_pos (String.isEmpty_iff.mpr hempty)]
      exact ⟨_, rfl, rfl⟩
    · split
      · exact ⟨_, rfl, rfl⟩
      · rw [if_neg fun h => (isKeyword_or_isLength_iff.mp h).elim hkeyword hlength]
        exact ⟨_, rfl, rfl⟩
  · obtain ⟨hne, hlength⟩ := not_or.mp hright
    rw [if_neg (mt String.isEmpty_iff.mp hne), if_pos]
    exact isKeyword_or_isLength_iff.mpr (by_contra fun h => hlength (not_or.mp h))

/-- A width in digits of another script, with a space that does not break before the unit. -/
theorem length_judged_otherScript :
    let c := Context.ofProfile Profile.default {}
    let n := measured "mspace" " \u0663.\u00A0EM "
    ("width", " \u0663.\u00A0EM ") ∈ n.attributes ∧
      widthDefinition ∈ c.rules.bundle.version.attributes ∧
      valueReports c n ("width", " \u0663.\u00A0EM ") = .ok [] := by
  intro c n
  have ha : ("width", " \u0663.\u00A0EM ") ∈ n.attributes := by
    rw [attributes_measured]
    exact List.mem_singleton.mpr rfl
  have hd : widthDefinition ∈ c.rules.bundle.version.attributes := by decide
  obtain ⟨part, hpart, -, hnone, -⟩ := length_judged ha hd rfl rfl (by decide)
  refine ⟨ha, hd, hpart.trans (congrArg _ (hnone ?_))⟩
  rintro (hempty | ⟨-, hlength⟩)
  · exact absurd hempty (by decide)
  · exact hlength ((Grammar.isLength_trim_iff _).mp (by decide))

/-- An attribute that is a length on any element is one on `mpadded`, too, if its white space
consists of spaces; otherwise it is reported there. -/
theorem padded_judged {m : Node} (hname : name ∈ ["width", "height", "depth", "lspace"])
    (hm : m.tag ≠ "mpadded") (hn : n.tag = "mpadded") (hma : (name, value) ∈ m.attributes)
    (hna : (name, value) ∈ n.attributes) {ms ns : List Finding}
    (hms : attributeValues c m = .ok ms) (hns : attributeValues c n = .ok ns)
    (hnone : ms.filter (isAboutValue name) = []) :
    ns.filter (isAboutValue name) = [] ↔
      ∀ ch ∈ (trim value).toList, isBlank ch = true → ch = ' ' := by
  have hcatalog : ∀ v ∈ Version.all, ∀ name ∈ ["width", "height", "depth", "lspace"],
      ∃ d ∈ v.attributes, name = d.name ∧ d.type = .length := by decide
  obtain ⟨d, hd, hdname, htype⟩ := hcatalog _ (Version.mem_all c.rules.bundle.version) name hname
  have hquote : '"' ∉ name.toList := by
    have hall : ∀ name ∈ ["width", "height", "depth", "lspace"], '"' ∉ name.toList := by decide
    exact hall name hname
  have hpart := valueReports_length (c := c) (n := m) (a := (name, value)) hd hdname
    (by rw [htype]; rfl) fun h => absurd h hm
  have hpadded := @valueReports_padded c n name value hname hn
  rw [filter_attributeValues hma hquote hpart hms] at hnone
  rw [filter_attributeValues hna hquote hpadded hns]
  have hkeywords : ValueRule.keywords d.type = [] := by rw [htype]; rfl
  obtain ⟨hne, hlength⟩ : ¬ (trim value).isEmpty ∧ IsLength (trim value).toList := by
    rw [hkeywords] at hnone
    split at hnone
    · cases hnone
    · rename_i hne
      split at hnone
      · rename_i haccepted
        exact ⟨hne, (isKeyword_or_isLength_iff.mp haccepted).resolve_left List.not_mem_nil⟩
      · cases hnone
  rw [if_neg hne, ← Grammar.isPaddedLength_trim_iff hlength]
  cases Grammar.isPaddedLength (trim value) <;> simp

/-- A width with two spaces before the unit. -/
theorem padded_judged_spaces :
    let c := Context.ofProfile Profile.default {}
    attributeValues c (measured "mspace" "1  px") = .ok [] ∧
      ∃ ns, attributeValues c (measured "mpadded" "1  px") = .ok ns ∧
        ns.filter (isAboutValue "width") = [] := by
  intro c
  have hvalue : trim "1  px" = "1  px" := by decide
  have hms : attributeValues c (measured "mspace" "1  px") = .ok [] :=
    attributeValues_space (by decide) (by decide) (by decide)
  have hns := attributeValues_measured c "mpadded" "1  px"
  rw [valueReports_padded (by decide) (by decide)] at hns
  have hmem (tag : String) : ("width", "1  px") ∈ (measured tag "1  px").attributes := by
    rw [attributes_measured]
    exact List.mem_singleton.mpr rfl
  refine ⟨hms, _, hns, ?_⟩
  refine (padded_judged (by decide) (by decide) (by decide) (hmem _) (hmem _) hms hns rfl).mpr
    fun ch hch hblank => ?_
  have hspaces : ("1  px".toList.all fun ch => !isBlank ch || ch == ' ') = true := by decide
  rw [hvalue] at hch
  simpa [hblank] using List.all_eq_true.mp hspaces ch hch

/-- A width with a space that does not break is a length, but not on `mpadded`. -/
theorem padded_refuses_wide_space :
    let c := Context.ofProfile Profile.default {}
    attributeValues c (measured "mspace" "1\u00A0px") = .ok [] ∧
      ∃ f, attributeValues c (measured "mpadded" "1\u00A0px") = .ok [f] ∧ f.code = "L022" := by
  intro c
  have hvalue : trim "1\u00A0px" = "1\u00A0px" := by decide
  have hlength : Grammar.isPaddedLength "1\u00A0px" = false := by decide
  refine ⟨attributeValues_space (by decide) (by decide) (by decide), ?_⟩
  rw [attributeValues_measured, valueReports_padded (by decide) (by decide), hvalue, hlength]
  exact ⟨_, rfl, rfl⟩

end Structure

end MathLint

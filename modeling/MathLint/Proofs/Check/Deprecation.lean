import MathLint.Proofs.Check.Attributes
import MathLint.Proofs.Text.Lowercase

/-!
# Unknown and deprecated attributes

The check for unknown attributes passes over those that the version deprecates, and leaves them to
the check for deprecated ones. The latter also knows the attributes that the rule of an element
deprecates, and these are to be allowed by the same rule. So no attribute is called both unknown and
deprecated, but for two attributes of `mglyph` that its rule deprecates without allowing them.

* `Structure.isContested`: the attributes that are called both.
* `RuleSet.deprecated_of_rule?`: the rules deprecate what the version does, but for these.
* `Structure.attribute_judged_once`: what is reported about an attribute under the usual options.
-/

namespace MathLint

/-- The attributes that the rule of `mglyph` deprecates and does not allow. -/
def glyphStyles : List String := ["mathvariant", "mathsize"]

/-- A rule deprecates attributes that the version deprecates, but for those of `math` that renderers
ignore and two of `mglyph`. -/
theorem RuleSet.deprecated_of_rule? {v : Version} {tag name : String} {r : Rule}
    (h : (ofVersion v).rule? tag = some r) (hname : name ∈ r.deprecatedAttributes) :
    name ∈ Structure.ignoredOnMath ∨ name ∈ (ofVersion v).bundle.deprecatedAttributes ∨
      Text.lower tag = "mglyph" ∧ name ∈ glyphStyles := by
  have htable : ∀ v ∈ Version.all, ∀ r ∈ (ofVersion v).rules, ∀ name ∈ r.deprecatedAttributes,
      name ∈ Structure.ignoredOnMath ∨ name ∈ (ofVersion v).bundle.deprecatedAttributes ∨
        r.tag = "mglyph" ∧ name ∈ glyphStyles := by
    decide +kernel
  have htag : r.tag = Text.lower tag := by simpa using List.find?_some h
  rw [← htag]
  exact htable v (by cases v <;> decide) r (List.mem_of_find?_eq_some h) name hname

namespace Structure

/-- Whether an attribute of a node is called both unknown and deprecated. -/
def isContested (n : Node) (name : String) : Bool :=
  n.tag == "mglyph" && glyphStyles.contains name

variable {c : Context} {n : Node} {name : String} {a : String × String} {v : Version}

theorem mem_deprecatedNames :
    name ∈ deprecatedNames c n ↔ name ∉ ignoredOnMath ∧
      (name ∈ c.deprecatedAttributes ∨
        ∃ r, c.rules.rule? n.tag = some r ∧ name ∈ r.deprecatedAttributes) := by
  unfold deprecatedNames
  cases c.rules.rule? n.tag <;> simp [and_comm, and_or_left]

/-- An attribute that the version deprecates is left to the other check. -/
theorem attributeName_of_deprecated (hignore : c.ignoreMetadata = true)
    (hname : name ∈ c.deprecatedAttributes) (hkept : name ∉ ignoredOnMath) :
    attributeName c n name = [] := by
  unfold attributeName
  simp [hignore, hname, hkept]

/-- An attribute that is deprecated on a node is deprecated by the version, or contested. -/
theorem deprecated_or_isContested (hrules : c.rules = RuleSet.ofVersion v)
    (h : name ∈ deprecatedNames c n) :
    name ∈ c.deprecatedAttributes ∨ isContested n name = true := by
  obtain ⟨hkept, hversion | ⟨r, hr, hname⟩⟩ := mem_deprecatedNames.mp h
  · exact .inl hversion
  · rw [hrules] at hr
    rcases RuleSet.deprecated_of_rule? hr hname with hignored | hversion | ⟨htag, hstyle⟩
    · exact absurd hignored hkept
    · exact .inl (by rwa [Context.deprecatedAttributes, hrules])
    · have hglyph : n.tag ∈ ["mglyph"] :=
        (Text.lower_lower_mem_iff (by decide) _).mp (List.mem_singleton.mpr htag)
      refine .inr ?_
      rw [isContested, List.mem_singleton.mp hglyph, List.contains_iff_mem.mpr hstyle]
      rfl

/-- A contested attribute is unknown, and deprecated. -/
theorem attributeName_of_isContested (hrules : c.rules = RuleSet.ofVersion v)
    (hprefixes : c.metadataPrefixes = ["data-mjx-"]) (h : isContested n name = true) :
    attributeName c n name = [unrecognized n name] ∧ name ∈ deprecatedNames c n := by
  have htable : ∀ v ∈ Version.all, ∀ name ∈ glyphStyles,
      isReservedName name = false ∧ Text.beginsWith "data-mjx-" name = false ∧
      name ∉ ignoredOnMath ∧ name ∉ (RuleSet.ofVersion v).bundle.deprecatedAttributes ∧
      allowsAttribute ((RuleSet.ofVersion v).globalAttributes ++
        (((RuleSet.ofVersion v).rule? "mglyph").map (·.attributes)).getD []) name = false ∧
      ((RuleSet.ofVersion v).rule? "mglyph").any (·.deprecatedAttributes.contains name) = true := by
    decide +kernel
  obtain ⟨htag, hstyle⟩ := Bool.and_eq_true .. |>.mp h
  obtain ⟨hreserved, hmetadata, hkept, hversion, hallowed, hrule⟩ :=
    htable v (by cases v <;> decide) name (List.contains_iff_mem.mp hstyle)
  have htag : n.tag = "mglyph" := by simpa using htag
  have hcontext : c.deprecatedAttributes = (RuleSet.ofVersion v).bundle.deprecatedAttributes := by
    rw [Context.deprecatedAttributes, hrules]
  constructor
  · have hallowed' : allowsAttribute (allowedAttributes c n) name = false := by
      rwa [allowedAttributes, hrules, htag]
    unfold attributeName
    simp only [hreserved, htag, hprefixes, List.any_cons, List.any_nil, hmetadata, hcontext,
      List.contains_eq_mem, hversion, hallowed']
    simp [unrecognized, htag]
  · obtain ⟨r, hr, hname⟩ := Option.any_eq_true _ _ |>.mp hrule
    refine mem_deprecatedNames.mpr ⟨hkept, .inr ⟨r, ?_, List.contains_iff_mem.mp hname⟩⟩
    rw [hrules, htag, hr]

theorem length_attributeName_le (c : Context) (n : Node) (name : String) :
    (attributeName c n name).length ≤ 1 := by
  rcases attributeName_cases c n name with h | ⟨f, -, h⟩ <;> simp [h]

/-- Under any profile and the usual options about metadata, the checks for unknown and for
deprecated attributes report an attribute at most once, unless it is contested; then they call it
unknown and deprecated. An attribute that the version deprecates is reported as deprecated and in no
other way. All that the two checks report is about some attribute. -/
theorem attribute_judged_once (profile : Profile) {n : Node} {a : String × String}
    (ha : a ∈ n.attributes) :
    let c := Context.ofProfile profile {}
    (isContested n a.1 = false → (reportsAbout c n a.1).length ≤ 1) ∧
    (isContested n a.1 = true →
      reportsAbout c n a.1 = [unrecognized n a.1, deprecated n a.1]) ∧
    (a.1 ∈ c.deprecatedAttributes → a.1 ∉ ignoredOnMath →
      reportsAbout c n a.1 = [deprecated n a.1]) ∧
    ∀ f ∈ attributes c n ++ deprecatedAttributes c n,
      ∃ b ∈ n.attributes, isAbout n b.1 f = true := by
  intro c
  obtain ⟨v, hrules⟩ : ∃ v, c.rules = RuleSet.ofVersion v := ⟨_, rfl⟩
  have hdeprecated (hname : a.1 ∈ c.deprecatedAttributes) (hkept : a.1 ∉ ignoredOnMath) :
      reportsAbout c n a.1 = [deprecated n a.1] := by
    have hnames := mem_deprecatedNames (n := n).mpr ⟨hkept, .inl hname⟩
    rw [reportsAbout_eq ha, attributeName_of_deprecated rfl hname hkept,
      if_pos (List.contains_iff_mem.mpr hnames), List.nil_append]
  refine ⟨fun hsettled => ?_, fun hcontested => ?_, hdeprecated, fun f => exists_isAbout⟩
  · by_cases hname : a.1 ∈ deprecatedNames c n
    · rcases deprecated_or_isContested hrules hname with hversion | hcontested
      · rw [hdeprecated hversion (mem_deprecatedNames.mp hname).1]
        exact Nat.le_refl 1
      · rw [hsettled] at hcontested
        cases hcontested
    · rw [reportsAbout_eq ha, if_neg (mt List.contains_iff_mem.mp hname), List.append_nil]
      exact length_attributeName_le c n a.1
  · obtain ⟨hunknown, hname⟩ := attributeName_of_isContested hrules rfl hcontested
    rw [reportsAbout_eq ha, hunknown, if_pos (List.contains_iff_mem.mpr hname)]
    rfl

/-- A glyph with an attribute that the version deprecates, one that nothing allows, and one that
its rule deprecates without allowing it. -/
def styledGlyph : Node := .root
  { name := ⟨mathNamespace, "mglyph"⟩
    attributes := [(⟨"", "fontfamily"⟩, "serif"), (⟨"", "glow"⟩, "1"), (⟨"", "mathsize"⟩, "big")]
    content := .nil }

/-- The law on the attributes of `styledGlyph` that are reported once. -/
theorem attribute_judged_once_styledGlyph :
    let c := Context.ofProfile Profile.default {}
    ("glow", "1") ∈ styledGlyph.attributes ∧ (reportsAbout c styledGlyph "glow").length ≤ 1 ∧
    ("fontfamily", "serif") ∈ styledGlyph.attributes ∧
    reportsAbout c styledGlyph "fontfamily" = [deprecated styledGlyph "fontfamily"] := by
  intro c
  have hglow : ("glow", "1") ∈ styledGlyph.attributes := by decide +kernel
  have hfont : ("fontfamily", "serif") ∈ styledGlyph.attributes := by decide +kernel
  have hsettled : isContested styledGlyph "glow" = false := by decide +kernel
  have hversion : "fontfamily" ∈ c.deprecatedAttributes := by decide +kernel
  exact ⟨hglow, (attribute_judged_once _ hglow).1 hsettled, hfont,
    (attribute_judged_once _ hfont).2.2.1 hversion (by decide)⟩

/-- The size of `styledGlyph` is called both unknown and deprecated. -/
theorem glyph_judged_twice :
    let c := Context.ofProfile Profile.default {}
    Profile.default ∈ Profile.registry ∧ styledGlyph.isForeign = false ∧
    ("mathsize", "big") ∈ styledGlyph.attributes ∧
    (reportsAbout c styledGlyph "mathsize").map (·.code) = ["L020", "L023"] := by
  decide +kernel

end Structure

end MathLint

import MathLint.Proofs.Check.Attributes
import MathLint.Proofs.Lint.Basic
import MathLint.Proofs.Node
import MathLint.Proofs.Text.Lowercase
import MathLint.Proofs.Xml.AttributeNames

/-!
# Metadata of renderers

The options about metadata of renderers decide which reports on unknown attributes are made, and
nothing else. Passing over metadata takes the remarks on them out of a report, and more prefixes of
metadata take out the reports on the unrecognized attributes that begin with them.

* `Finding.isMetadataRemark`, `Finding.isUnrecognizedUnder`: the findings that the options take out.
* `Check.sweep_withMetadata`: the law for sweeps, from the law for one attribute.
* `lint_metadata`: the law for reports.
-/

namespace MathLint

open Diagnostic

/-! ## The findings that are taken out -/

namespace Finding

/-- Whether a finding says that an attribute is metadata of a renderer. -/
def isMetadataRemark (f : Finding) : Bool :=
  f.code == "L020" && " is renderer metadata, not MathML.".toList.isSuffixOf f.message.toList

/-- A message from its first quotation mark on, without that mark. -/
def behindQuote (f : Finding) : List Char := (f.message.toList.dropWhile (· != '"')).drop 1

/-- Whether a finding says that an attribute is not recognized whose name begins with one of some
texts. The name stands between the first two quotation marks. -/
def isUnrecognizedUnder (starts : List String) (f : Finding) : Bool :=
  f.code == "L020" &&
    "\" is not recognized on <".toList.isPrefixOf (f.behindQuote.dropWhile (· != '"')) &&
    starts.any fun start =>
      Text.beginsWith start (String.ofList (f.behindQuote.takeWhile (· != '"')))

theorem isMetadataRemark_of_code {f : Finding} (h : f.code ≠ "L020") :
    f.isMetadataRemark = false := by
  simp [isMetadataRemark, h]

theorem isUnrecognizedUnder_of_code {f : Finding} (h : f.code ≠ "L020") (starts : List String) :
    f.isUnrecognizedUnder starts = false := by
  simp [isUnrecognizedUnder, h]

end Finding

open Finding

/-- A report without some of its findings, or with the remark that there are none. -/
def Report.without (drop : Finding → Bool) (r : Report) : Report :=
  { r with findings := orNoFindings (r.findings.filter fun f => !drop f) }

namespace Structure

variable {n : Node} {name : String}

theorem isMetadataRemark_metadata : (metadata n name).isMetadataRemark = true := by
  have hmessage : (metadata n name).message.toList =
      ("Attribute \"".toList ++ name.toList ++ "\" on <".toList ++ n.tag.toList ++ ['>']) ++
        " is renderer metadata, not MathML.".toList := by
    simp [metadata, Diagnostic.finding, toString]
  unfold isMetadataRemark
  rw [hmessage, Bool.and_eq_true, List.isSuffixOf_iff_suffix]
  exact ⟨rfl, List.suffix_append _ _⟩

theorem isMetadataRemark_unrecognized : (unrecognized n name).isMetadataRemark = false := by
  refine Bool.eq_false_iff.mpr fun h => ?_
  unfold isMetadataRemark at h
  rw [Bool.and_eq_true, List.isSuffixOf_iff_suffix] at h
  obtain ⟨lead, hlead⟩ := h.2
  -- the messages end in different ways
  have hlist := congrArg List.reverse hlead
  simp [unrecognized, Diagnostic.finding, toString] at hlist

theorem behindQuote_unrecognized :
    (unrecognized n name).behindQuote =
      name.toList ++ '"' :: (" is not recognized on <".toList ++ n.tag.toList ++ ">.".toList) := by
  simp [behindQuote, unrecognized, Diagnostic.finding, toString]

/-- The name of an unrecognized attribute can be read from the message. -/
theorem isUnrecognizedUnder_unrecognized (starts : List String) (hname : '"' ∉ name.toList) :
    (unrecognized n name).isUnrecognizedUnder starts =
      starts.any fun start => Text.beginsWith start name := by
  have hplain : ∀ c ∈ name.toList, (c != '"') = true := by
    intro c hc
    refine bne_iff_ne.mpr fun heq => hname ?_
    rwa [heq] at hc
  have hquoted : (unrecognized n name).behindQuote.takeWhile (· != '"') = name.toList := by
    rw [behindQuote_unrecognized, List.takeWhile_append_of_pos hplain]
    simp
  have hbehind : (unrecognized n name).behindQuote.dropWhile (· != '"') =
      "\" is not recognized on <".toList ++ (n.tag.toList ++ ">.".toList) := by
    rw [behindQuote_unrecognized, List.dropWhile_append_of_pos hplain]
    simp
  have hcode : ((unrecognized n name).code == "L020") = true := rfl
  unfold isUnrecognizedUnder
  rw [hquoted, hbehind, hcode, List.isPrefixOf_iff_prefix.mpr (List.prefix_append _ _),
    String.ofList_toList]
  rfl

/-- The two kinds of reports are told apart by their messages. -/
example :
    let n : Node := .root ⟨⟨mathNamespace, "math"⟩, [], .nil⟩
    [unrecognized n "glow", metadata n "data-mjx-node"].map isMetadataRemark = [false, true] ∧
    [unrecognized n "glow", metadata n "glow"].map (isUnrecognizedUnder ["gl"]) = [true, false] := by
  decide +kernel

end Structure

/-! ## One attribute -/

namespace Context

/-- A context with other options about metadata. -/
def withMetadata (c : Context) (ignoreMetadata : Bool) (metadataPrefixes : List String) : Context :=
  { c with ignoreMetadata, metadataPrefixes }

end Context

namespace Structure

variable {c : Context} {n : Node} {name : String} {starts narrow added wide : List String}

/-- The check of an attribute that is neither reserved, nor ignored, nor metadata. -/
def recognition (c : Context) (n : Node) (name : String) : List Finding :=
  if c.deprecatedAttributes.contains name && !ignoredOnMath.contains name then []
  else if allowsAttribute (allowedAttributes c n) name then []
  else [unrecognized n name]

theorem recognition_cases (c : Context) (n : Node) (name : String) :
    recognition c n name = [] ∨ recognition c n name = [unrecognized n name] := by
  unfold recognition
  split
  · exact .inl rfl
  · split
    · exact .inl rfl
    · exact .inr rfl

/-- The options about metadata count in one of the cases only. -/
theorem attributeName_withMetadata (ignoreMetadata : Bool) (starts : List String) :
    attributeName (c.withMetadata ignoreMetadata starts) n name =
      if isReservedName name then []
      else if n.tag == "math" && ignoredOnMath.contains name then [ignored name]
      else if starts.any fun start => Text.beginsWith start name then
        if ignoreMetadata then [] else [metadata n name]
      else recognition c n name := rfl

/-- Passing over metadata takes out the remark on an attribute that is metadata. -/
theorem attributeName_ignoreMetadata :
    attributeName (c.withMetadata true starts) n name =
      (attributeName (c.withMetadata false starts) n name).filter fun f =>
        !f.isMetadataRemark := by
  have hignored : (ignored name).isMetadataRemark = false :=
    isMetadataRemark_of_code (by decide : ignoredAttribute.code ≠ "L020")
  rw [attributeName_withMetadata, attributeName_withMetadata]
  split
  · rfl
  split
  · simp [hignored]
  split
  · simp [isMetadataRemark_metadata]
  · rcases recognition_cases c n name with h | h
    · rw [h]
      rfl
    · simp [h, isMetadataRemark_unrecognized]

/-- More prefixes take out the report on an attribute that is not recognized and begins with one of
them. -/
theorem attributeName_metadataPrefixes
    (hwide : ∀ start, start ∈ wide ↔ start ∈ narrow ∨ start ∈ added) (hname : '"' ∉ name.toList) :
    attributeName (c.withMetadata true wide) n name =
      (attributeName (c.withMetadata true narrow) n name).filter fun f =>
        !f.isUnrecognizedUnder added := by
  have hignored : (ignored name).isUnrecognizedUnder added = false :=
    isUnrecognizedUnder_of_code (by decide : ignoredAttribute.code ≠ "L020") added
  have hany : (wide.any fun start => Text.beginsWith start name) =
      ((narrow.any fun start => Text.beginsWith start name) ||
        added.any fun start => Text.beginsWith start name) := by
    rw [Bool.eq_iff_iff]
    simp only [List.any_eq_true, Bool.or_eq_true, hwide, or_and_right, exists_or]
  have hunder := isUnrecognizedUnder_unrecognized (n := n) added hname
  rw [attributeName_withMetadata, attributeName_withMetadata, hany]
  split
  · rfl
  split
  · simp [hignored]
  cases narrow.any fun start => Text.beginsWith start name with
  | true => rfl
  | false =>
    -- the attribute is no metadata under the prefixes that were there before
    rcases recognition_cases c n name with h | h
    · simp [h]
    · cases hadded : added.any fun start => Text.beginsWith start name with
      | true => simp [h, hunder, hadded]
      | false => simp [h, hunder, hadded]

end Structure

/-! ## Sweeps -/

namespace Check

variable {c : Context} {nodes : List Node} {ignore ignore' : Bool} {starts starts' : List String}
  {keep : Finding → Bool}

/-- No other check looks at the options about metadata. -/
theorem run_withMetadata_eq {k : Check} (hk : k ≠ attributes) (n : Node) :
    k.run (c.withMetadata ignore starts) n = k.run c n := by
  cases k with
  | attributes => exact absurd rfl hk
  | _ => rfl

/-- Where the options take findings about single attributes out, they take them out of what a check
reports. -/
theorem run_withMetadata {n : Node} (hkeep : ∀ f, f.code ≠ "L020" → keep f = true)
    (h : ∀ a ∈ n.attributes, Structure.attributeName (c.withMetadata ignore' starts') n a.1 =
      (Structure.attributeName (c.withMetadata ignore starts) n a.1).filter keep) (k : Check) :
    k.run (c.withMetadata ignore' starts') n =
      (k.run (c.withMetadata ignore starts) n).map (·.filter keep) := by
  have hother : ∀ k ∈ all, k ≠ attributes → "L020" ∉ k.diagnostics.map Diagnostic.code := by decide
  by_cases hk : k = attributes
  · subst hk
    have hattributes : Structure.attributes (c.withMetadata ignore' starts') n =
        (Structure.attributes (c.withMetadata ignore starts) n).filter keep := by
      unfold Structure.attributes
      rw [List.filter_flatMap]
      exact List.flatMap_congr h
    exact congrArg Except.ok hattributes
  · rw [run_withMetadata_eq hk, run_withMetadata_eq hk]
    cases hrun : k.run c n with
    | error e => rfl
    | ok fs =>
      refine congrArg Except.ok (List.filter_eq_self.mpr fun f hf => hkeep f ?_).symm
      exact (covers_run hrun).code_ne (hother k (mem_all k) hk) hf

/-- Where the options take findings about single attributes out, they take them out of a sweep. -/
theorem sweep_withMetadata (checks : List Check) (hkeep : ∀ f, f.code ≠ "L020" → keep f = true)
    (h : ∀ n ∈ nodes, ∀ a ∈ n.attributes,
      Structure.attributeName (c.withMetadata ignore' starts') n a.1 =
        (Structure.attributeName (c.withMetadata ignore starts) n a.1).filter keep) :
    sweep (c.withMetadata ignore' starts') checks nodes =
      (sweep (c.withMetadata ignore starts) checks nodes).map (·.filter keep) :=
  sweep_map rfl (fun _ _ => List.filter_append ..) fun n hn k _ => run_withMetadata hkeep (h n hn) k

end Check

/-! ## The names of attributes -/

namespace Node

open Xml

/-- The attributes of a node below another one are among those of its content. -/
theorem name_mem_of_mem_nodesFrom {n p : Node} {i : Nat} {c : Content} {a : Name × String}
    (hn : n ∈ nodesFrom p i c) (ha : a ∈ n.element.attributes) : a.1 ∈ c.attributeNames := by
  induction c generalizing p i with
  | nil => cases hn
  | chars run rest ih => exact ih hn
  | remark body rest ih => exact ih hn
  | element name attributes inner rest ihInner ihRest =>
    rw [Content.attributeNames, List.mem_append, List.mem_append]
    rw [nodesFrom_element, List.mem_append] at hn
    rcases hn with hn | hn
    · rcases List.mem_cons.mp hn with rfl | hn
      · exact .inl (.inl (List.mem_map_of_mem ha))
      · exact .inl (.inr (ihInner hn))
    · exact .inr (ihRest hn)

theorem name_mem_of_mem_subtree {n : Node} {root : Element} {a : Name × String}
    (hn : n ∈ (Node.root root).subtree) (ha : a ∈ n.element.attributes) :
    a.1 ∈ root.attributeNames := by
  rcases List.mem_cons.mp hn with rfl | hn
  · exact List.mem_append_left _ (List.mem_map_of_mem ha)
  · exact List.mem_append_right _ (name_mem_of_mem_nodesFrom hn ha)

/-- The name of an attribute as it is looked at has no quotation mark if the name as it was read has
none. -/
theorem unquoted_attributeName {name : Name} (h : UnquotedName name) :
    '"' ∉ (attributeName name).toList := by
  have hshorts : ∀ e ∈ attributePrefixes, '"' ∉ e.2.toList := by decide
  unfold attributeName
  refine mt Text.quote_mem_of_lower ?_
  split
  · rename_i short hshort
    obtain ⟨before, behind, hsplit, -⟩ := List.lookup_eq_some_iff.mp hshort
    have hmark := hshorts (name.space, short) (by simp [hsplit])
    simp only [String.toList_append, List.mem_append, not_or]
    exact ⟨⟨hmark, by decide⟩, h⟩
  · exact h

end Node

/-- The attributes of a document that is read have no quotation marks in their names. -/
theorem unquoted_of_mem_lintedNodes {source : String} {n : Node} {a : String × String}
    (hn : n ∈ lintedNodes readXml source) (ha : a ∈ n.attributes) : '"' ∉ a.1.toList := by
  unfold lintedNodes at hn
  split at hn
  · cases hn
  · split at hn
    · cases hn
    · rename_i root hread
      have hparse : Xml.Document.parse (AssumedPrefix.declare source).1 = .ok root := by
        unfold readXml at hread
        split at hread
        · cases hread
          assumption
        · cases hread
      obtain ⟨b, hb, rfl⟩ := List.mem_map.mp (mem_of_mem_table ha)
      have hname := Node.name_mem_of_mem_subtree (Node.mem_lintable.mp hn).1 hb
      exact Node.unquoted_attributeName (Xml.Document.unquoted_of_parse hparse _ hname)

/-! ## Reports -/

variable {read : XmlReader} {o : Options} {checks : List Check} {source : String}

/-- Findings can be taken out before or after the remark that there are none is put in. -/
theorem orNoFindings_filter {keep : Finding → Bool} (h : keep noFindings = true)
    (fs : List Finding) :
    orNoFindings ((orNoFindings fs).filter keep) = orNoFindings (fs.filter keep) := by
  cases fs with
  | nil => simp [orNoFindings, h]
  | cons f fs => rfl

/-- Where options about metadata take findings about single attributes out, they take them out of a
report. -/
theorem lint_withMetadata {ignore ignore' : Bool} {starts starts' : List String}
    {drop : Finding → Bool} (hdrop : ∀ f, f.code ≠ "L020" → drop f = false)
    (hkey : ∀ f g : Finding, f.key = g.key → drop f = drop g)
    (h : ∀ p, ∀ n ∈ lintedNodes read source, ∀ a ∈ n.attributes,
      Structure.attributeName ((Context.ofProfile p o).withMetadata ignore' starts') n a.1 =
        (Structure.attributeName ((Context.ofProfile p o).withMetadata ignore starts) n a.1).filter
          fun f => !drop f) :
    lint read { o with ignoreMetadata := ignore', metadataPrefixes := starts' } checks source =
      (lint read { o with ignoreMetadata := ignore, metadataPrefixes := starts } checks source).map
        (Report.without drop) := by
  have hkeep : ∀ f : Finding, f.code ≠ "L020" → (!drop f) = true := by
    intro f hf
    rw [hdrop f hf]
    rfl
  have hopening : (opening read source).filter (fun f => !drop f) = opening read source := by
    refine List.filter_eq_self.mpr fun f hf => hkeep f ?_
    exact (covers_opening false read source).code_ne (by decide) hf
  cases hp : o.profile.profile with
  | error e =>
    have hfails (i : Bool) (s : List String) :
        lint read { o with ignoreMetadata := i, metadataPrefixes := s } checks source = .error e :=
      lint_of_profile_error hp
    rw [hfails, hfails]
    rfl
  | ok p =>
    have hsweep := Check.sweep_withMetadata checks hkeep (h p)
    have hchosen (i : Bool) (s : List String) :
        { o with ignoreMetadata := i, metadataPrefixes := s : Options }.profile.profile = .ok p :=
      hp
    have hcontext (i : Bool) (s : List String) : Context.ofProfile p
        { o with ignoreMetadata := i, metadataPrefixes := s } =
          (Context.ofProfile p o).withMetadata i s := rfl
    rw [lint_eq (hchosen _ _), lint_eq (hchosen _ _), hcontext ignore' starts',
      hcontext ignore starts, hsweep]
    cases Check.sweep ((Context.ofProfile p o).withMetadata ignore starts) checks
        (lintedNodes read source) with
    | error e => rfl
    | ok swept =>
      have hfindings :
          orNoFindings (unique (opening read source ++ swept.filter fun f => !drop f)) =
            orNoFindings ((orNoFindings (unique (opening read source ++ swept))).filter
              fun f => !drop f) := by
        rw [orNoFindings_filter (hkeep _ (by decide)), unique, unique,
          filter_distinctBy fun f g hfg => by rw [hkey f g hfg], List.filter_append, hopening]
      simp only [Except.map, Report.without, hfindings]

/-- The options about metadata of renderers change nothing but the reports on unknown attributes.
Passing over metadata takes the remarks on metadata out of a report. Where metadata are passed over,
more prefixes of metadata take the reports on those unrecognized attributes out that begin with one
of the added prefixes. All other findings stay as they are, in their order. -/
theorem lint_metadata (o : Options) (checks : List Check) (source : String) :
    lint readXml { o with ignoreMetadata := true } checks source =
      (lint readXml { o with ignoreMetadata := false } checks source).map
        (Report.without isMetadataRemark) ∧
    ∀ narrow added wide : List String, (∀ start, start ∈ wide ↔ start ∈ narrow ∨ start ∈ added) →
      lint readXml { o with ignoreMetadata := true, metadataPrefixes := wide } checks source =
        (lint readXml { o with ignoreMetadata := true, metadataPrefixes := narrow } checks
          source).map (Report.without (isUnrecognizedUnder added)) := by
  constructor
  · refine lint_withMetadata (fun f => isMetadataRemark_of_code) (fun f g hfg => ?_)
      fun p n _ a _ => Structure.attributeName_ignoreMetadata
    simp only [key, Prod.mk.injEq] at hfg
    rw [isMetadataRemark, isMetadataRemark, hfg.2.1, hfg.2.2.2]
  · intro narrow added wide hwide
    refine lint_withMetadata (fun f hf => isUnrecognizedUnder_of_code hf added) (fun f g hfg => ?_)
      fun p n hn a ha => Structure.attributeName_metadataPrefixes hwide
        (unquoted_of_mem_lintedNodes hn ha)
    simp only [key, Prod.mk.injEq] at hfg
    simp only [isUnrecognizedUnder, behindQuote, hfg.2.1, hfg.2.2.2]

/-- A formula with metadata of a renderer and two attributes that are not recognized. -/
def renderedSource : String := "<math data-mjx-node=\"1\" glow=\"1\" dim=\"1\"/>"

/-- The law on `renderedSource`: the remark on metadata goes, and with a further prefix one of the
unrecognized attributes. -/
theorem lint_metadata_rendered :
    ∃ shown hidden fewer,
      lint readXml { ignoreMetadata := false } [.attributes] renderedSource = .ok shown ∧
      lint readXml { ignoreMetadata := true } [.attributes] renderedSource = .ok hidden ∧
      lint readXml { ignoreMetadata := true, metadataPrefixes := ["gl", "data-mjx-"] }
        [.attributes] renderedSource = .ok fewer ∧
      shown.codes = ["L005", "L020", "L020", "L020"] ∧ hidden.codes = ["L005", "L020", "L020"] ∧
      fewer.codes = ["L005", "L020"] ∧ hidden = shown.without isMetadataRemark ∧
      fewer = hidden.without (isUnrecognizedUnder ["gl"]) := by
  obtain ⟨shown, hshown, hcodes⟩ : ∃ r, lint readXml { ignoreMetadata := false } [.attributes]
      renderedSource = .ok r ∧ r.codes = ["L005", "L020", "L020", "L020"] :=
    exists_report_of_codes (by decide +kernel)
  obtain ⟨hidden, hhidden, hcodes'⟩ : ∃ r, lint readXml { ignoreMetadata := true } [.attributes]
      renderedSource = .ok r ∧ r.codes = ["L005", "L020", "L020"] :=
    exists_report_of_codes (by decide +kernel)
  obtain ⟨fewer, hfewer, hcodes''⟩ : ∃ r, lint readXml
      { ignoreMetadata := true, metadataPrefixes := ["gl", "data-mjx-"] } [.attributes]
      renderedSource = .ok r ∧ r.codes = ["L005", "L020"] :=
    exists_report_of_codes (by decide +kernel)
  have law := lint_metadata {} [.attributes] renderedSource
  have hpassed := law.1
  have hmore := law.2 Settings.usual.metadataPrefixes ["gl"] ["gl", "data-mjx-"]
    (by simp [Settings.usual, or_comm])
  rw [hshown, hhidden] at hpassed
  rw [hfewer, hhidden] at hmore
  exact ⟨shown, hidden, fewer, hshown, hhidden, hfewer, hcodes, hcodes', hcodes'',
    Except.ok.inj hpassed, Except.ok.inj hmore⟩

end MathLint

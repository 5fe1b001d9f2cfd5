import MathLint.Proofs.AssumedPrefix
import MathLint.Proofs.Lint.Basic
import MathLint.Proofs.Xml.Document

/-!
# Linting of documents that can be read

A document that can be read is left as it is, if the start tag that is found in it is genuine: the
reader has found the prefix of the root declared, and the search finds the declaration too. So it is
not reported as no XML. Where a `>` in a quoted value seems to end the tag, the prefix is declared
twice.

* `declaresPrefix_of_stands`: the search sees each declaration behind white space.
* `declare_of_readXml`: nothing is put into a document that can be read.
* `lint_readable`: no such document is reported as no XML.
* `lint_quotedEnd`: one with a `>` in a value is.
-/

namespace MathLint

open RootTag AssumedPrefix Xml Diagnostic

variable {source : String} {t : RootTag}

/-! ## Declarations that the search sees -/

theorem isWordChar_of_isSpace {c : Char} (h : isSpace c = true) : Text.isWordChar c = false :=
  of_isSpace (P := fun c => Text.isWordChar c = false) h (by decide)

theorem isBlank_of_isSpace {c : Char} (h : isSpace c = true) : Text.isBlank c = true :=
  of_isSpace (P := fun c => Text.isBlank c = true) h (by decide)

/-- A declaration is seen behind a character that is in no word, whatever stands before. -/
theorem declaresPrefixFrom_append {short lead cs : List Char} {s : Char}
    (hs : Text.isWordChar s = false) (h : opensDeclaration short cs = true) (inWord : Bool) :
    declaresPrefixFrom short inWord (lead ++ s :: cs) = true := by
  induction lead generalizing inWord with
  | nil =>
    cases cs with
    | nil => simp [opensDeclaration] at h
    | cons c cs =>
      simp [declaresPrefixFrom, hs, h]
  | cons d lead ih =>
    rw [List.cons_append, declaresPrefixFrom, ih, Bool.or_true]

theorem declaresPrefix_of_stands {attributes : List Char}
    (h : Stands Document.declaration attributes) : declaresPrefix attributes ['m'] = true := by
  obtain ⟨lead, s, blank, more, rfl, hs, hblank⟩ := h
  refine declaresPrefixFrom_append (isWordChar_of_isSpace hs) ?_ false
  have hword : "xmlns:".toList ++ ['m'] = Document.declaration := by decide
  have hdrop : (blank ++ '=' :: more).dropWhile Text.isBlank = '=' :: more := by
    rw [List.dropWhile_append_of_pos fun c hc => isBlank_of_isSpace (hblank c hc),
      List.dropWhile_cons_of_neg (by decide)]
  simp only [opensDeclaration, hword, List.append_assoc, List.drop_left, hdrop, Bool.and_eq_true,
    List.isPrefixOf_iff_prefix]
  exact ⟨List.prefix_append _ _, rfl⟩

theorem isQuote_of_nameChar {c : Char} (h : isNameChar c = true ∨ c = ':') :
    isQuote c = false := by
  by_contra hquote
  simp only [isQuote, Bool.not_eq_false, Bool.or_eq_true, beq_iff_eq] at hquote
  rcases hquote with rfl | rfl <;> exact absurd h (by decide)

/-- A declaration in the text of a tag stands among its attributes. -/
theorem stands_attributes {name n attributes : List Char}
    (hn : ∀ c ∈ n, isNameChar c = true ∨ c = ':') (h : Stands name (n ++ attributes)) :
    Stands name attributes := by
  obtain ⟨lead, s, blank, more, heq, hs, hblank⟩ := h
  have hmem : s ∉ n := fun hmem =>
    of_isSpace (P := fun c => ¬ (isNameChar c = true ∨ c = ':')) hs (by decide) (hn s hmem)
  obtain ⟨lead', rfl, rfl⟩ := exists_append_of_not_mem heq.symm hmem
  exact ⟨lead', s, blank, more, rfl, hs, hblank⟩

/-- A genuine tag of a document that can be read does not miss a declaration. -/
theorem not_isMissing_of_readXml {root : Element} (hread : readXml source = .ok root)
    (hfind : find? source = some t) (hgenuine : t.Genuine) : isMissing t = false := by
  by_contra hmissing
  rw [Bool.not_eq_false] at hmissing
  obtain ⟨n, hname⟩ := prefixed_of_isMissing hmissing
  obtain ⟨p, hp, hlead⟩ := hgenuine.lead
  have hn : ∀ c ∈ n, isNameChar c = true ∨ c = ':' := fun c hc =>
    mem_name_of_find? hfind (hname ▸ List.mem_append_right _ hc)
  have hparse : Document.parse source = .ok root := by
    unfold readXml at hread
    split at hread
    · rename_i hparse
      rw [hparse, Except.ok.inj hread]
    · cases hread
  have hsource : source.toList =
      prologText p ++ '<' :: 'm' :: ':' :: ((n ++ t.attributes) ++ '>' :: t.rest) := by
    rw [← source_of_find? hfind, RootTag.source, hlead, ← hname]
    simp
  have hquote : openQuote (n ++ t.attributes) = none := by
    rw [openQuote_append (openQuote_of_unquoted fun c hc => isQuote_of_nameChar (hn c hc))]
    exact hgenuine.ended
  have hstands := stands_attributes hn (Document.stands_of_parse hparse hp hsource hquote)
  have hdeclares := declaresPrefix_of_stands hstands
  rw [isMissing, Bool.and_eq_true, Bool.not_eq_true'] at hmissing
  exact absurd (hdeclares.symm.trans hmissing.2) (by decide)

/-- Nothing is put into a document that can be read and whose start tag is genuine. -/
theorem declare_of_readXml {root : Element} (hread : readXml source = .ok root)
    (hgenuine : ∀ t, find? source = some t → t.Genuine) : declare source = (source, none) := by
  cases hfind : find? source with
  | none => exact declare_of_find?_eq_none hfind
  | some t =>
    exact declare_of_not_isMissing hfind (not_isMissing_of_readXml hread hfind (hgenuine t hfind))

/-! ## Reports -/

/-- The kinds of issues in a document that can be read and is left as it is. -/
theorem covers_found_of_readXml {root : Element} (hread : readXml source = .ok root)
    (hdeclare : declare source = (source, none)) (c : Context) (checks : List Check) :
    Covers c.profile.isCore ([.emptyExpression, .unexpectedRoot, .unexpectedNamespace,
      .missingNamespace] ++ Check.kinds) (found readXml c checks source) := by
  have hopening : Covers c.profile.isCore [.emptyExpression, .unexpectedRoot, .unexpectedNamespace,
      .missingNamespace] (opening readXml source) := by
    simp only [opening, hdeclare, hread]
    exact .ite (.single (by decide) rfl)
      (.append .nil ((covers_rootFindings _ _ _).mono (by decide)))
  exact .append (hopening.mono (List.subset_append_left _ _))
    ((Check.covers_swept c checks _).mono (List.subset_append_right _ _))

/-- A document that can be read and whose start tag is genuine can be read with the assumed prefix,
for it is left as it is, and is never reported as no XML. -/
theorem lint_readable {root : Element} (hread : readXml source = .ok root)
    (hgenuine : ∀ t, find? source = some t → t.Genuine) :
    declare source = (source, none) ∧ readXml (declare source).1 = .ok root ∧
      ∀ (o : Options) (checks : List Check) (r : Report),
        lint readXml o checks source = .ok r → "L002" ∉ r.codes := by
  have hdeclare := declare_of_readXml hread hgenuine
  refine ⟨hdeclare, by rw [hdeclare, hread], fun o checks r hr hmem => ?_⟩
  have hcodes := forall_findings (P := fun f => f.code ≠ "L002") hr (by decide) fun f hf hcode => by
    have hkinds := (covers_found_of_readXml hread hdeclare _ checks).code_mem hf
    rw [hcode] at hkinds
    exact absurd hkinds (by decide)
  obtain ⟨f, hf, hcode⟩ := List.mem_map.mp hmem
  exact hcodes f hf hcode

/-- A document with a document type and a comment, whose root declares the prefix. -/
def declaredRoot : String :=
  "<!DOCTYPE m:math><!-- > --><m:math xmlns:m = 'http://www.w3.org/1998/Math/MathML'/>"

theorem lint_readable_declaredRoot :
    declare declaredRoot = (declaredRoot, none) ∧
      ∃ r, lint readXml {} Check.all declaredRoot = .ok r ∧ r.codes = ["L041"] ∧
        "L002" ∉ r.codes := by
  have hfind : find? declaredRoot = some
      ⟨"<!DOCTYPE m:math><!-- > --><".toList, "m:math".toList,
        " xmlns:m = 'http://www.w3.org/1998/Math/MathML'/".toList, []⟩ := by decide +kernel
  have hgenuine (t : RootTag) (ht : find? declaredRoot = some t) : t.Genuine := by
    obtain rfl := Option.some.inj (hfind.symm.trans ht)
    exact ⟨⟨[.doctype " m:math".toList (by decide),
      .comment " > ".toList (by decide)], by decide, by decide⟩,
      by decide⟩
  obtain ⟨r, hr, hcodes⟩ : ∃ r, lint readXml {} Check.all declaredRoot = .ok r ∧
      r.codes = ["L041"] := exists_report_of_codes (by decide +kernel)
  have hok : (readXml declaredRoot).isOk = true := by decide +kernel
  cases hread : readXml declaredRoot with
  | error reason =>
    rw [hread] at hok
    cases hok
  | ok root =>
    obtain ⟨hdeclare, -, hreport⟩ := lint_readable hread hgenuine
    exact ⟨hdeclare, r, hr, hcodes, hreport {} Check.all r hr⟩

/-- A document whose root declares the prefix behind a value with a `>` in it. -/
def quotedEnd : String :=
  "<m:math alttext=\"a>b\" xmlns:m=\"http://www.w3.org/1998/Math/MathML\"><m:mi>x</m:mi></m:math>"

/-- The prefix is declared once more there, which makes the document no XML. -/
theorem lint_quotedEnd :
    (readXml quotedEnd).isOk = true ∧ (readXml (declare quotedEnd).1).isOk = false ∧
      ∃ r, lint readXml {} Check.all quotedEnd = .ok r ∧ r.codes = ["L002"] :=
  ⟨by decide +kernel, by decide +kernel, exists_report_of_codes (by decide +kernel)⟩

end MathLint

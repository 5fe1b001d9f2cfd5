import MathLint.Proofs.AssumedPrefix
import MathLint.Proofs.Lint.Basic

/-!
# Linting with the assumed prefix

A document whose root uses the assumed prefix undeclared is linted like the document that declares
it, but for the disclosure.

* `find?_prefixed`: the root with a prefixed name behind a prolog.
* `lint_undeclared`: the report without the declaration, from the one with it.
-/

namespace MathLint

open RootTag AssumedPrefix Diagnostic

variable {read : XmlReader} {o : Options} {checks : List Check} {source fixed : String}

/-! ## The root behind a prolog -/

/-- A document whose root has the assumed prefix: a prolog, the rest of the name of the root, what
is put behind the name, and what follows. -/
def prefixedSource (p : List Piece) (n inserted r : List Char) : String :=
  String.ofList (prologText p ++ '<' :: 'm' :: ':' :: n ++ inserted ++ r)

/-- The root with a prefixed name behind a prolog is found. -/
theorem find?_prefixed (p : List Piece) {n r : List Char} (hn : n ≠ [])
    (hname : ∀ c ∈ n, isNameChar c = true) (hr : ∀ c, r.head? = some c → isNameChar c = false)
    (hend : '>' ∈ r) :
    find? (prefixedSource p n [] r) = some
      ⟨prologText p ++ ['<'], 'm' :: ':' :: n, r.takeWhile (· != '>'),
        (r.dropWhile (· != '>')).tail⟩ := by
  have hprefix : ∀ c ∈ ['m'], isNameChar c = true := List.forall_mem_singleton.mpr (by decide)
  have hroot := find?_behind_prolog p (by decide) (nameAt_qualified hprefix hname hn hr) hend
  simpa [prefixedSource] using hroot

/-- The declaration is put behind the name of that root, and is not put there again. -/
theorem declare_prefixed (p : List Piece) {n r : List Char} (hn : n ≠ [])
    (hname : ∀ c ∈ n, isNameChar c = true) (hr : ∀ c, r.head? = some c → isNameChar c = false)
    (hend : '>' ∈ r) (hundeclared : declaresPrefix (r.takeWhile (· != '>')) ['m'] = false) :
    declare (prefixedSource p n [] r) =
        (prefixedSource p n declaration.toList r, some disclosure) ∧
      declare (prefixedSource p n declaration.toList r) =
        (prefixedSource p n declaration.toList r, none) := by
  have hfind := find?_prefixed p hn hname hr hend
  have hmissing : isMissing ⟨prologText p ++ ['<'], 'm' :: ':' :: n, r.takeWhile (· != '>'),
      (r.dropWhile (· != '>')).tail⟩ = true := by
    simp only [isMissing, Bool.and_eq_true, Bool.not_eq_true', List.isPrefixOf_iff_prefix]
    exact ⟨⟨n, rfl⟩, hundeclared⟩
  have hdeclared : declared ⟨prologText p ++ ['<'], 'm' :: ':' :: n, r.takeWhile (· != '>'),
      (r.dropWhile (· != '>')).tail⟩ = prefixedSource p n declaration.toList r := by
    simp [declared, source_widen, prefixedSource, takeWhile_append_end hend]
  rw [← hdeclared]
  exact ⟨declare_of_isMissing hfind hmissing, declare_declared hfind hmissing⟩

theorem isBlankText_prefixedSource (p : List Piece) (n inserted r : List Char) :
    Text.isBlankText (prefixedSource p n inserted r) = false := by
  rw [Text.isBlankText, List.all_eq_false]
  exact ⟨'<', by simp [prefixedSource], by decide⟩

/-! ## Two runs that differ in the disclosure -/

/-- Nothing else that is said of a document has the key of the disclosure. -/
theorem key_ne_disclosure (c : Context) (root : Xml.Element) (written : String)
    {ns : List Node} {f : Finding} (hf : f ∈ rootFindings root written ++ Check.swept c checks ns) :
    f.key ≠ disclosure.key := by
  have hcovers : Covers c.profile.isCore
      ([.unexpectedRoot, .unexpectedNamespace, .missingNamespace] ++ Check.kinds)
      (rootFindings root written ++ Check.swept c checks ns) :=
    .append ((covers_rootFindings _ root written).mono (List.subset_append_left _ _))
      ((Check.covers_swept c checks ns).mono (List.subset_append_right _ _))
  intro hkey
  have hcode : f.code = disclosure.code := congrArg (fun k => k.2.1) hkey
  exact hcovers.code_ne (by decide) hf hcode

section Disclosed

variable (hsource : Text.isBlankText source = false) (hfixed : Text.isBlankText fixed = false)
  (hdeclare : declare source = (fixed, some disclosure)) (hkeep : declare fixed = (fixed, none))

include hsource hfixed hdeclare hkeep

theorem lintedNodes_disclosed (read : XmlReader) :
    lintedNodes read source = lintedNodes read fixed := by
  simp [lintedNodes, hsource, hfixed, hdeclare, hkeep]

/-- If the text with the declaration is no XML, both reports say so. -/
theorem lint_disclosed_of_error {p : Profile} (hp : o.profile.profile = .ok p) {reason : String}
    (h : read fixed = .error reason) :
    ∃ rs rf, lint read o checks source = .ok rs ∧ lint read o checks fixed = .ok rf ∧
      rs.findings = [invalidXml reason] ∧ rf.findings = [invalidXml reason] := by
  have hnodes : lintedNodes read fixed = [] := by simp [lintedNodes, hfixed, hkeep, h]
  have hopening : opening read fixed = [invalidXml reason] := by
    simp [opening, hfixed, hkeep, h]
  have hopening' : opening read source = [invalidXml reason] := by
    simp [opening, hsource, hdeclare, h]
  rw [lint_eq hp, lint_eq hp, lintedNodes_disclosed hsource hfixed hdeclare hkeep, hnodes, hopening,
    hopening']
  exact ⟨_, _, rfl, rfl, rfl, rfl⟩

/-- Both runs fail alike. -/
theorem lint_disclosed_error_iff {e : Fault} :
    lint read o checks source = .error e ↔ lint read o checks fixed = .error e := by
  cases hp : o.profile.profile with
  | error e' => rw [lint_of_profile_error hp, lint_of_profile_error hp]
  | ok p =>
    rw [lint_eq hp, lint_eq hp, lintedNodes_disclosed hsource hfixed hdeclare hkeep]
    cases Check.sweep (.ofProfile p o) checks (lintedNodes read fixed) <;> simp [Except.map]

/-- If the text with the declaration is XML, the report has the disclosure before what the other
report has. -/
theorem lint_disclosed_of_ok {root : Xml.Element} (h : read fixed = .ok root) {rf : Report}
    (hrf : lint read o checks fixed = .ok rf) :
    ∃ rs, lint read o checks source = .ok rs ∧
      rs.findings = disclosure :: rf.findings.filter (·.code != "L000") := by
  have hok := run_of_lint hrf
  have hnodes := lintedNodes_disclosed hsource hfixed hdeclare hkeep read
  refine ⟨_, (lint_eq_ok_iff (profile_of_lint hrf)).mpr ⟨hnodes ▸ hok, rfl⟩, ?_⟩
  have hopening : opening read fixed = rootFindings root (rootName fixed) := by
    simp [opening, hfixed, hkeep, h]
  have hopening' : opening read source = disclosure :: rootFindings root (rootName fixed) := by
    simp [opening, hsource, hdeclare, h]
  have hfound : found read (.ofProfile rf.profile o) checks source =
      disclosure :: found read (.ofProfile rf.profile o) checks fixed := by
    rw [found, found, hnodes, hopening, hopening', List.cons_append]
  have hdrop : (rf.findings.filter (·.code != "L000")) =
      Finding.unique (found read (.ofProfile rf.profile o) checks fixed) := by
    rw [findings_of_lint hrf, filter_orNoFindings (by decide)]
    refine List.filter_eq_self.mpr fun f hf => ?_
    simpa using code_ne_of_mem_found (mem_of_mem_distinctBy hf)
  rw [hdrop, hfound, orNoFindings_of_ne_nil (by simp [Finding.unique])]
  -- no finding behind the disclosure repeats it
  refine congrArg (disclosure :: ·) (List.filter_eq_self.mpr fun f hf => ?_)
  have hf' := mem_of_mem_distinctBy hf
  rw [found, hopening] at hf'
  exact decide_eq_true (key_ne_disclosure _ root _ hf')

end Disclosed

/-- A root with the assumed prefix that does not declare it is linted like the one that does: both
runs fail alike, or both reports say that the text is no XML, or they differ in the disclosure. -/
theorem lint_undeclared (p : List Piece) {n r : List Char} (hn : n ≠ [])
    (hname : ∀ c ∈ n, isNameChar c = true) (hr : ∀ c, r.head? = some c → isNameChar c = false)
    (hend : '>' ∈ r) (hundeclared : declaresPrefix (r.takeWhile (· != '>')) ['m'] = false)
    {S D : String} (hS : S = String.ofList (prologText p ++ '<' :: 'm' :: ':' :: n ++ r))
    (hD : D = String.ofList (prologText p ++ '<' :: 'm' :: ':' :: n ++
      " xmlns:m=\"http://www.w3.org/1998/Math/MathML\"".toList ++ r)) :
    declare S = (D, some disclosure) ∧ declare D = (D, none) ∧
      ∀ (read : XmlReader) (o : Options) (checks : List Check),
        (∀ e, lint read o checks S = .error e ↔ lint read o checks D = .error e) ∧
        (∀ reason profile, read D = .error reason → o.profile.profile = .ok profile →
          ∃ rs rd, lint read o checks S = .ok rs ∧ lint read o checks D = .ok rd ∧
            rs.findings = [invalidXml reason] ∧ rd.findings = [invalidXml reason]) ∧
        (∀ root rd, read D = .ok root → lint read o checks D = .ok rd →
          ∃ rs, lint read o checks S = .ok rs ∧
            rs.findings = disclosure :: rd.findings.filter (·.code != "L000")) := by
  obtain rfl : S = prefixedSource p n [] r := by rw [hS, prefixedSource, List.append_nil]
  obtain rfl : D = prefixedSource p n declaration.toList r := by
    rw [hD, prefixedSource, declaration_eq]
  have hsource := isBlankText_prefixedSource p n [] r
  have hfixed := isBlankText_prefixedSource p n declaration.toList r
  obtain ⟨hdeclare, hkeep⟩ := declare_prefixed p hn hname hr hend hundeclared
  refine ⟨hdeclare, hkeep, fun read o checks => ⟨fun e => ?_, fun reason profile h hp => ?_,
    fun root rd h hrd => ?_⟩⟩
  · exact lint_disclosed_error_iff hsource hfixed hdeclare hkeep
  · exact lint_disclosed_of_error hsource hfixed hdeclare hkeep hp h
  · exact lint_disclosed_of_ok hsource hfixed hdeclare hkeep h hrd

/-- The two reports on a document with a comment and an unknown element. -/
theorem lint_undeclared_comment :
    ∃ rs rd, lint readXml {} Check.all "<!-- a -->\n<m:math><m:foo/></m:math>" = .ok rs ∧
      lint readXml {} Check.all ("<!-- a -->\n" ++
        "<m:math xmlns:m=\"http://www.w3.org/1998/Math/MathML\"><m:foo/></m:math>") = .ok rd ∧
      rd.codes = ["L030", "L010"] ∧
      rs.findings = disclosure :: rd.findings.filter (·.code != "L000") := by
  obtain ⟨rd, hrd, hcodes⟩ : ∃ rd, lint readXml {} Check.all ("<!-- a -->\n" ++
      "<m:math xmlns:m=\"http://www.w3.org/1998/Math/MathML\"><m:foo/></m:math>") = .ok rd ∧
      rd.codes = ["L030", "L010"] := exists_report_of_codes (by decide +kernel)
  have hend (c : Char) (hc : "><m:foo/></m:math>".toList.head? = some c) :
      isNameChar c = false := by
    have hhead : "><m:foo/></m:math>".toList.head? = some '>' := by decide
    obtain rfl := Option.some.inj (hhead.symm.trans hc)
    decide
  have hboth := (lint_undeclared
    [.comment [' ', 'a', ' '] (by decide), .space '\n' (by decide)]
    (n := "math".toList) (r := "><m:foo/></m:math>".toList) (by decide)
    (List.all_eq_true.mp (by decide)) hend (by decide) (by decide)
    (S := "<!-- a -->\n<m:math><m:foo/></m:math>") (by decide)
    (D := "<!-- a -->\n" ++
      "<m:math xmlns:m=\"http://www.w3.org/1998/Math/MathML\"><m:foo/></m:math>")
    (by decide)).2.2 readXml {} Check.all
  cases hread : readXml ("<!-- a -->\n" ++
      "<m:math xmlns:m=\"http://www.w3.org/1998/Math/MathML\"><m:foo/></m:math>") with
  | error reason =>
    obtain ⟨-, rd', -, hrd', -, hfindings⟩ := hboth.2.1 reason _ hread rfl
    rw [hrd] at hrd'
    obtain rfl := Except.ok.inj hrd'
    rw [Report.codes, hfindings] at hcodes
    simp at hcodes
  | ok root =>
    obtain ⟨rs, hrs, hfindings⟩ := hboth.2.2 root rd hread hrd
    exact ⟨rs, rd, hrs, hrd, hcodes, hfindings⟩

end MathLint

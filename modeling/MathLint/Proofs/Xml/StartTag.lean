import MathLint.Proofs.Xml.Scan
import MathLint.Xml.Scope

/-!
# Start tags that are read

A start tag with a prefixed name is read only if the prefix is declared. In the tag of a root whose
attributes have no defaults it is an attribute of the tag that declares it, and that attribute
stands in the text of the tag up to each `>` at which no quote is open.

* `Stands`: an attribute in the text of a tag.
* `Scan.writtenAttribute_eq_ok`, `Scan.stands_of_tagRest`: the text of an attribute.
* `Scan.stands_of_startTag`: the attributes of a tag with the prefix `m`.
* `Scope.exists_declared_of_enter`: a prefix is declared by an attribute.
-/

namespace MathLint.Xml

open RootTag (openQuote openQuote_append openQuote_of_unquoted isQuote)

variable {form : Form} {cs rest : List Char}

/-- A text has an attribute of a name, with white space before it. -/
def Stands (name text : List Char) : Prop :=
  ∃ lead s blank more, text = lead ++ s :: (name ++ blank ++ '=' :: more) ∧ isSpace s = true ∧
    ∀ c ∈ blank, isSpace c = true

theorem Stands.append {name text : List Char} (h : Stands name text) (lead : List Char) :
    Stands name (lead ++ text) := by
  obtain ⟨lead', s, blank, more, rfl, hs, hblank⟩ := h
  exact ⟨lead ++ lead', s, blank, more, by simp, hs, hblank⟩

/-! ## Attributes -/

namespace Scan

/-- A value goes up to the first quote like the one that opens it. -/
theorem attributeValue_eq_ok {q : Char} {value : List Char}
    (h : attributeValue form q cs = .ok (value, rest)) :
    ∃ after, rest = q :: after ∧ cs = value ++ q :: after ∧ q ∉ value := by
  induction cs generalizing value with
  | nil => cases h
  | cons c cs ih =>
    rw [attributeValue] at h
    split at h
    · rename_i hc
      cases h
      exact ⟨cs, by rw [beq_iff_eq.mp hc], by simp [beq_iff_eq.mp hc], List.not_mem_nil⟩
    · rename_i hc
      split at h
      · cases h
      · have hrest : ∃ more, attributeValue form q cs = .ok (more, rest) ∧ value = c :: more := by
          dsimp only at h
          split at h
          · obtain ⟨-, -, h⟩ := bind_eq_ok.mp h
            obtain ⟨⟨more, left⟩, hmore, hret⟩ := bind_eq_ok.mp h
            cases hret
            exact ⟨more, hmore, rfl⟩
          · obtain ⟨⟨more, left⟩, hmore, hret⟩ := bind_eq_ok.mp h
            cases hret
            exact ⟨more, hmore, rfl⟩
        obtain ⟨more, hmore, rfl⟩ := hrest
        obtain ⟨after, hafter, rfl, hmem⟩ := ih hmore
        refine ⟨after, hafter, rfl, List.not_mem_cons_of_ne_of_not_mem (Ne.symm ?_) hmem⟩
        simpa using hc

/-- An attribute is a name, the sign of equality and a quoted value. -/
theorem writtenAttribute_eq_ok {a : WrittenAttribute}
    (hread : writtenAttribute form cs = .ok (a, rest)) :
    ∃ blank space q after, (∀ c ∈ blank, isSpace c = true) ∧ (∀ c ∈ space, isSpace c = true) ∧
      (∀ c ∈ a.name, form.isNameChar c = true ∨ c = ':') ∧ isQuote q = true ∧ q ∉ a.value ∧
      rest = q :: after ∧
      cs = a.name ++ blank ++ '=' :: space ++ (q :: a.value ++ q :: after) := by
  obtain ⟨⟨name, behind⟩, hname, h⟩ := bind_eq_ok.mp hread
  obtain ⟨⟨u, value⟩, hequal, h⟩ := bind_eq_ok.mp h
  obtain ⟨rfl, hword⟩ := qualifiedName_eq_ok hname
  have hequal' := exactly_eq_ok.mp hequal
  have hblank := List.takeWhile_append_dropWhile (p := isSpace) (l := behind)
  have hspace := List.takeWhile_append_dropWhile (p := isSpace) (l := value)
  dsimp only at h
  split at h
  · cases h
  · rename_i q tail htail
    split at h
    · rename_i hq
      obtain ⟨⟨v, after⟩, hvalue, hret⟩ := bind_eq_ok.mp h
      cases hret
      obtain ⟨after, rfl, rfl, hmem⟩ := attributeValue_eq_ok hvalue
      refine ⟨behind.takeWhile isSpace, value.takeWhile isSpace, q, after,
        fun c => List.mem_takeWhile_imp, fun c => List.mem_takeWhile_imp, hword, hq, hmem, rfl, ?_⟩
      have hbehind := calc
        behind = behind.takeWhile isSpace ++ behind.dropWhile isSpace := hblank.symm
        _ = behind.takeWhile isSpace ++ '=' :: value := by rw [hequal']
        _ = behind.takeWhile isSpace ++ '=' :: (value.takeWhile isSpace ++
            value.dropWhile isSpace) := by rw [hspace]
        _ = behind.takeWhile isSpace ++ '=' :: (value.takeWhile isSpace ++
            q :: (v ++ q :: after)) := by rw [htail]
      simpa using congrArg (name ++ ·) hbehind
    · cases h

/-- White space before a token, which ends before the `>`. -/
theorem exists_spaces {c : Char} {text ds : List Char}
    (hhead : (text ++ '>' :: cs).head?.any isSpace = true)
    (hds : (text ++ '>' :: cs).dropWhile isSpace = c :: ds) :
    ∃ lead s more, isSpace s = true ∧ (∀ d ∈ lead ++ [s], isQuote d = false) ∧
      text = lead ++ [s] ++ more ∧ c :: ds = more ++ '>' :: cs := by
  have hsplit := List.takeWhile_append_dropWhile (p := isSpace) (l := text ++ '>' :: cs)
  have hspaces : ∀ d ∈ (text ++ '>' :: cs).takeWhile isSpace, isSpace d = true :=
    fun d => List.mem_takeWhile_imp
  rw [hds] at hsplit
  rcases List.eq_nil_or_concat ((text ++ '>' :: cs).takeWhile isSpace) with hnil | ⟨lead, s, heq⟩
  · -- the first character is white space
    rw [hnil] at hsplit
    rw [← hsplit] at hhead hnil
    rw [List.nil_append, List.takeWhile_cons_of_pos (by simpa using hhead)] at hnil
    cases hnil
  · rw [heq, List.concat_eq_append] at hsplit hspaces
    have hplain d (hd : d ∈ lead ++ [s]) := plain_of_isSpace (hspaces d hd)
    obtain ⟨more, htext, hmore⟩ := exists_append_of_not_mem hsplit.symm
      fun hmem => (hplain _ hmem).1 rfl
    exact ⟨lead, s, more, hspaces s (by simp), fun d hd => (hplain d hd).2, htext, hmore⟩

/-- Each attribute of a tag stands before every `>` at which no quote is open. -/
theorem stands_of_tagRest {limit : Nat} {text : List Char} {a : WrittenAttribute}
    {as : List WrittenAttribute} {closed : Bool}
    (h : tagRest form limit (text ++ '>' :: cs) = .ok ((as, closed), rest))
    (hquote : openQuote text = none) (ha : a ∈ as) : Stands a.name text := by
  induction limit generalizing text as closed with
  | zero => cases h
  | succ limit ih =>
    rw [tagRest] at h
    split at h
    · cases h
    · cases h; cases ha
    · obtain ⟨_, -, hret⟩ := bind_eq_ok.mp h
      cases hret
      cases ha
    · rename_i c ds _ _ hds
      split at h
      · rename_i hhead
        obtain ⟨⟨first, after⟩, hfirst, h⟩ := bind_eq_ok.mp h
        obtain ⟨⟨⟨more, closed'⟩, left⟩, hmore, hret⟩ := bind_eq_ok.mp h
        cases hret
        obtain ⟨lead, s, t₁, hs, hspaces, rfl, ht₁⟩ := exists_spaces hhead hds
        obtain ⟨blank, space, q, after, hblank, hspace, hname, hq, hvalue, rfl, hcs⟩ :=
          writtenAttribute_eq_ok hfirst
        -- neither the white space nor what stands before the value holds a quote or the `>`
        have hplain : ∀ d ∈ first.name ++ blank ++ '=' :: space, d ≠ '>' ∧ isQuote d = false := by
          simp only [List.mem_append, List.mem_cons]
          rintro d ((hd | hd) | rfl | hd)
          · exact Form.plain_of_wordChar (hname d hd)
          · exact plain_of_isSpace (hblank d hd)
          · decide
          · exact plain_of_isSpace (hspace d hd)
        obtain ⟨t₂, rfl, ht₂⟩ := exists_append_of_not_mem (ht₁.symm.trans hcs)
          fun hmem => (hplain _ hmem).1 rfl
        rw [openQuote_append (openQuote_of_unquoted hspaces),
          openQuote_append (openQuote_of_unquoted fun d hd => (hplain d hd).2)] at hquote
        rcases List.mem_cons.mp ha with rfl | ha
        · exact ⟨lead, s, blank, space ++ t₂, by simp, hs, hblank⟩
        · obtain ⟨t₃, rfl, hquote₃, rfl⟩ := exists_append_of_quoted hq hquote ht₂.symm hvalue
          have hlater := (ih hmore hquote₃ ha).append (lead ++ [s] ++
            (first.name ++ blank ++ '=' :: space) ++ q :: first.value ++ [q])
          simpa using hlater
      · cases h

/-- The name of a tag whose first characters are `m:`, and its attributes. -/
theorem stands_of_startTag {limit : Nat} {text : List Char} {tag : StartTag}
    (h : startTag form limit ('m' :: ':' :: (text ++ '>' :: cs)) = .ok (tag, rest))
    (hquote : openQuote text = none) :
    (∃ base, tag.name = 'm' :: ':' :: base) ∧ ∀ a ∈ tag.attributes, Stands a.name text := by
  obtain ⟨⟨name, behind⟩, hname, h⟩ := bind_eq_ok.mp h
  obtain ⟨⟨⟨as, closed⟩, left⟩, htag, hret⟩ := bind_eq_ok.mp h
  cases hret
  -- the name of the tag is read up to its colon, and then on
  obtain ⟨⟨first, after⟩, hfirst, hname⟩ := bind_eq_ok.mp hname
  obtain ⟨d, ds, hds, -, rfl, rfl⟩ := name_eq_ok hfirst
  obtain ⟨rfl, rfl⟩ := List.cons.inj hds
  have hcolon : ¬ form.isNameChar ':' = true := by
    rw [Form.isNameChar_of_ascii (by decide) (by decide)]
    simp
  simp only [List.takeWhile_cons_of_neg hcolon, List.dropWhile_cons_of_neg hcolon] at hname
  obtain ⟨⟨base, left⟩, hbase, hret⟩ := bind_eq_ok.mp hname
  cases hret
  have hplain c (hc : c ∈ base) := Form.plain_of_wordChar (.inl (mem_name hbase hc))
  obtain ⟨more, rfl, rfl⟩ := exists_append_of_not_mem (append_of_name hbase)
    fun hmem => (hplain _ hmem).1 rfl
  rw [openQuote_append (openQuote_of_unquoted fun c hc => (hplain c hc).2)] at hquote
  exact ⟨⟨base, rfl⟩, fun a ha => (stands_of_tagRest htag hquote ha).append base⟩

end Scan

/-! ## Namespaces -/

theorem Expanding.bind_eq_ok {ε α β : Type} {x : Expanding ε α} {f : α → Expanding ε β} {n : Nat}
    {r : β × Nat} : (x >>= f) n = .ok r ↔ ∃ a m, x n = .ok (a, m) ∧ f a m = .ok r := by
  constructor
  · intro h
    obtain ⟨⟨a, m⟩, hx, hf⟩ := Xml.bind_eq_ok.mp h
    exact ⟨a, m, hx, hf⟩
  · rintro ⟨a, m, hx, hf⟩
    exact Xml.bind_eq_ok.mpr ⟨(a, m), hx, hf⟩

namespace Scope

variable {scope scope' : Scope} {short name value : List Char} {g g' : Given}

theorem splitPrefix_eq_some {base : List Char} (h : splitPrefix name = (some short, base)) :
    name = short ++ ':' :: base := by
  unfold splitPrefix at h
  split at h
  · cases h
  · rename_i c base' hdrop
    cases h
    have hsplit := List.takeWhile_append_dropWhile (p := (· != ':')) (l := name)
    have hc : c = ':' := by
      have hhead := List.head?_dropWhile_not (· != ':') name
      rw [hdrop] at hhead
      simpa using hhead
    rw [hdrop, hc] at hsplit
    exact hsplit.symm

/-- The attribute that declares a prefix. -/
theorem eq_of_declared? (h : declared? name = some short) (hshort : short ≠ []) :
    name = "xmlns".toList ++ ':' :: short := by
  unfold declared? at h
  split at h
  · split at h
    · cases h
      exact absurd rfl hshort
    · cases h
  · rename_i first base hsplit
    split at h
    · rename_i hfirst
      cases h
      rw [splitPrefix_eq_some hsplit, hfirst]
    · cases h

theorem declare_eq_ok (h : scope.declare short value = .ok scope') :
    scope' = scope ∨ scope' = (short, value) :: scope := by
  unfold declare at h
  split at h
  · cases h
  · split at h
    · cases h
    · split at h
      · cases h
      · split at h
        · split at h
          · cases h
            exact .inl rfl
          · cases h
        · split at h
          · cases h
          · cases h
            exact .inr rfl

/-- An attribute adds no prefix but the one that it declares. -/
theorem mem_of_give {k : List Char} (h : give g name value = .ok g')
    (hk : k ∈ g'.1.map Prod.fst) : k ∈ g.1.map Prod.fst ∨ declared? name = some k := by
  unfold give at h
  split at h
  · rename_i short hshort
    obtain ⟨scope, hdeclare, hret⟩ := bind_eq_ok.mp h
    cases hret
    rcases declare_eq_ok hdeclare with rfl | rfl
    · exact .inl hk
    · rcases List.mem_cons.mp hk with rfl | hk
      · exact .inr hshort
      · exact .inl hk
  · cases h
    exact .inl hk

/-- Written attributes add no prefixes but those that they declare. -/
theorem mem_of_giveWritten {d : Doctype} {opened known : List (List Char)}
    {element here : List Char} {as : List WrittenAttribute} {n m : Nat} {k : List Char}
    (h : giveWritten d opened element here known g as n = .ok (g', m))
    (hk : k ∈ g'.1.map Prod.fst) :
    k ∈ g.1.map Prod.fst ∨ ∃ a ∈ as, declared? a.name = some k := by
  induction as generalizing g known n with
  | nil =>
    cases h
    exact .inl hk
  | cons a as ih =>
    rw [giveWritten] at h
    split at h
    · cases h
    · obtain ⟨value, m', -, h⟩ := Expanding.bind_eq_ok.mp h
      cases hgive : give g a.name value with
      | error cause =>
        rw [hgive] at h
        cases h
      | ok g₁ =>
        rw [hgive] at h
        rcases ih h with hk | ⟨b, hb, hdeclared⟩
        · rcases mem_of_give hgive hk with hk | hdeclared
          · exact .inl hk
          · exact .inr ⟨a, List.mem_cons_self, hdeclared⟩
        · exact .inr ⟨b, List.mem_cons_of_mem a hb, hdeclared⟩

theorem namespace?_of_not_mem (h : short ∉ scope.map Prod.fst) :
    scope.namespace? short = none := by
  have hlookup : scope.lookup short = none := by
    rw [List.lookup_eq_none_iff]
    intro x hx
    rw [bne_iff_ne]
    rintro rfl
    exact h (List.mem_map_of_mem hx)
  rw [namespace?, hlookup, Option.filter_none]

/-- Where no attributes have defaults, the prefix of an element is declared around it or by an
attribute of its tag. -/
theorem exists_declared_of_enter {d : Doctype} {opened : List (List Char)} {tag : StartTag}
    {here base : List Char} {n : Nat} {r : (Scope × Element) × Nat} (hd : d.attributes = [])
    (h : scope.enter d opened tag here n = .ok r)
    (hname : splitPrefix tag.name = (some short, base)) (hshort : short ∉ scope.map Prod.fst) :
    ∃ a ∈ tag.attributes, declared? a.name = some short := by
  obtain ⟨g, m, hgive, h⟩ := Expanding.bind_eq_ok.mp h
  by_cases hmem : short ∈ g.1.map Prod.fst
  · exact (mem_of_giveWritten hgive hmem).resolve_left hshort
  · have hunbound : nameElement g.1 tag.name = .error .unboundPrefix := by
      simp only [nameElement, hname, namespace?_of_not_mem hmem]
    simp only [hd, List.filter_nil, giveDefaults] at h
    cases hattributes : nameAttributes g.1 [] g.2 with
    | error cause =>
      simp only [hattributes, bind, Except.bind] at h
      cases h
    | ok attributes =>
      simp only [hattributes, hunbound, bind, Except.bind] at h
      cases h

end Scope

end MathLint.Xml

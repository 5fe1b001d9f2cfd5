import MathLint.Proofs.Xml.Prolog
import MathLint.Proofs.Xml.StartTag

/-!
# Names without quotation marks

A name holds no quotation mark, whether it is written in a tag or in a document type declaration.

* `Unquoted`: a text without quotation marks.
* `Markup.unquotedNames_of_scan`: the attributes that are written in a tag.
* `Prolog.attribute?_of_next?`: a token names the attribute whose declaration is being read.
* `Doctype.unquotedNames_of_readProlog`: the attributes that declarations give defaults to.
-/

namespace MathLint.Xml

/-- A text has no quotation marks. -/
def Unquoted (text : List Char) : Prop := '"' ∉ text

theorem unquoted_of_word {form : Form} {text : List Char}
    (h : ∀ c ∈ text, form.isNameChar c = true ∨ c = ':') : Unquoted text := by
  intro hmem
  have hplain := (Form.plain_of_wordChar (h _ hmem)).2
  exact absurd hplain (by decide)

/-! ## Start tags as written -/

namespace Scan

variable {form : Form} {cs rest : List Char}

theorem unquoted_of_tagRest {limit : Nat} {as : List WrittenAttribute} {closed : Bool}
    (h : tagRest form limit cs = .ok ((as, closed), rest)) : ∀ a ∈ as, Unquoted a.name := by
  induction limit generalizing cs as closed with
  | zero => cases h
  | succ limit ih =>
    rw [tagRest] at h
    split at h
    · cases h
    · cases h
      simp
    · obtain ⟨_, -, hret⟩ := bind_eq_ok.mp h
      cases hret
      simp
    · split at h
      · obtain ⟨⟨first, after⟩, hfirst, h⟩ := bind_eq_ok.mp h
        obtain ⟨⟨⟨more, closed'⟩, left⟩, hmore, hret⟩ := bind_eq_ok.mp h
        cases hret
        obtain ⟨-, -, -, -, -, -, hname, -⟩ := writtenAttribute_eq_ok hfirst
        intro a ha
        rcases List.mem_cons.mp ha with rfl | ha
        · exact unquoted_of_word hname
        · exact ih hmore a ha
      · cases h

theorem unquoted_of_startTag {limit : Nat} {tag : StartTag}
    (h : startTag form limit cs = .ok (tag, rest)) : ∀ a ∈ tag.attributes, Unquoted a.name := by
  obtain ⟨⟨name, behind⟩, -, h⟩ := bind_eq_ok.mp h
  obtain ⟨⟨⟨as, closed⟩, left⟩, htag, hret⟩ := bind_eq_ok.mp h
  cases hret
  exact unquoted_of_tagRest htag

end Scan

/-- Markup has no quotation marks in the names of attributes. -/
def Markup.UnquotedNames : Markup → Prop
  | .start tag => ∀ a ∈ tag.attributes, Unquoted a.name
  | _ => True

theorem Markup.unquotedNames_of_ofScan {α : Type} {source rest : List Char} {f : α → Markup}
    {read : Except Stop (Read α)} {m : Markup}
    (hf : ∀ a left, read = .ok (a, left) → (f a).UnquotedNames)
    (h : ofScan source f read = .ok (m, rest)) : m.UnquotedNames := by
  unfold ofScan at h
  split at h
  · rename_i a left
    cases h
    exact hf a rest rfl
  · cases h

theorem Markup.unquotedNames_of_scan {form : Form} {limit : Nat} {cs rest : List Char} {m : Markup}
    (h : Markup.scan form limit cs = .ok (m, rest)) : m.UnquotedNames := by
  have hinstruction (i : Scan.Instruction) : (ofInstruction i).UnquotedNames := by
    unfold ofInstruction
    split <;> trivial
  revert h
  fun_cases Markup.scan form limit cs with
  | case1 | case2 | case3 | case4 =>
    rintro ⟨⟩
    trivial
  | case6 =>
    intro h
    obtain ⟨_, -, hret⟩ := bind_eq_ok.mp h
    cases hret
    trivial
  | case7 | case8 | case13 => rintro ⟨⟩
  | case9 => exact unquotedNames_of_ofScan fun i _ _ => hinstruction i
  | case11 => exact unquotedNames_of_ofScan fun _ _ => Scan.unquoted_of_startTag
  | case5 | case10 | case12 | case14 => exact unquotedNames_of_ofScan fun _ _ _ => trivial

/-! ## Declared attributes -/

/-- The attribute whose declaration is being read. -/
def Prolog.attribute? : Prolog → Option (List Char)
  | attributeType _ a | choice _ a | choiceNext _ a | notations _ a | notationChoice _ a
  | notationNext _ a | attributeDefault _ a _ | attributeFixed _ a _ => some a
  | _ => none

namespace Prolog

variable {p q : Prolog} {t : Token} {a : List Char}

theorem attribute?_of_ofKeyword? {word : List Char} (h : ofKeyword? word = some q) :
    q.attribute? = none := by
  unfold ofKeyword? at h
  split at h <;> cases h <;> rfl

theorem attribute?_of_afterConnective {groups : List (Option Token)}
    (h : afterConnective t groups = some q) : q.attribute? = none := by
  unfold afterConnective at h
  split at h
  · cases h
  · split at h <;> cases h
    rfl

theorem attribute?_afterGroup (groups : List (Option Token)) :
    (afterGroup groups).attribute? = none := by
  unfold afterGroup
  split <;> rfl

/-- The attribute whose declaration is being read was named by a token. -/
theorem attribute?_of_next? (h : p.next? t = some q) (ha : q.attribute? = some a) :
    p.attribute? = some a ∨ t = .name a ∨ t = .qualified a := by
  cases p <;> cases t
  -- the name of an attribute starts its declaration
  case attributeName.name | attributeName.qualified =>
    cases h
    cases ha
    simp
  -- up to the default the attribute stays the same
  case attributeType.name word =>
    unfold next? at h
    dsimp only at h
    split at h
    · cases h; exact .inl ha
    · split at h
      · cases h; exact .inl ha
      · obtain ⟨-, hq⟩ := Option.ite_none_right_eq_some.mp h
        cases hq; exact .inl ha
  case attributeDefault.keyword word =>
    unfold next? at h
    dsimp only at h
    split at h
    · cases h; cases ha
    · cases h; cases ha
    · cases h; exact .inl ha
    · cases h
  case attributeType.openGroup | choice.name | choice.qualified | choice.word | choiceNext.bar |
      choiceNext.closeGroup | notations.openGroup | notationChoice.name | notationNext.bar |
      notationNext.closeGroup =>
    cases h
    exact .inl ha
  -- no other declaration names an attribute
  case subset.declare =>
    rw [attribute?_of_ofKeyword? h] at ha
    cases ha
  case itemNext.comma | itemNext.bar =>
    rw [attribute?_of_afterConnective h] at ha
    cases ha
  case itemNext.closeGroup | itemNext.closeRepeated =>
    cases h
    rw [attribute?_afterGroup] at ha
    cases ha
  case doctypeBody.name | entityValue.name | notationId.name =>
    unfold next? at h
    dsimp only at h
    split at h <;> cases h <;> cases ha
  case entityEnd.name s word =>
    cases s with
    | general name =>
      obtain ⟨-, hq⟩ := Option.ite_none_right_eq_some.mp h
      cases hq; cases ha
    | parameter => cases h
  case opening.declare | beforeDoctype.declare | elementModel.name | modelStart.keyword |
      mixedNext.closeRepeated | mixedMore.closeRepeated =>
    obtain ⟨-, hq⟩ := Option.ite_none_right_eq_some.mp h
    cases hq; cases ha
  all_goals cases h <;> cases ha

end Prolog

namespace Doctype

variable {d d' : Doctype} {p q : Prolog} {t : Token} {cs rest : List Char}

/-- A document type has no quotation marks in the names of attributes. -/
def UnquotedNames (d : Doctype) : Prop := ∀ a ∈ d.attributes, Unquoted a.name

theorem UnquotedNames.withAttribute {a : Declared} (hd : d.UnquotedNames) (ha : Unquoted a.name) :
    (d.withAttribute a).UnquotedNames := by
  unfold Doctype.withAttribute
  split
  · intro b hb
    rcases List.mem_append.mp hb with hb | hb
    · exact hd b hb
    · rw [List.mem_singleton.mp hb]
      exact ha
  · exact hd

theorem UnquotedNames.withEntity {e : Entity} {name : List Char} (hd : d.UnquotedNames) :
    (d.withEntity name e).UnquotedNames := by
  unfold Doctype.withEntity
  split
  · exact hd
  · exact hd

theorem unquotedNames_of_withDefault {element name here text after : List Char} {plain : Bool}
    (hd : d.UnquotedNames) (hname : Unquoted name)
    (h : d.withDefault element name plain here text after = .ok d') : d'.UnquotedNames := by
  unfold withDefault at h
  split at h
  · cases h
    exact hd
  · split at h
    · obtain ⟨_, -, hret⟩ := bind_eq_ok.mp h
      cases hret
      exact UnquotedNames.withAttribute hd hname
    · cases h

/-- Only the attribute whose declaration is being read is added. -/
theorem unquotedNames_of_heed (hd : d.UnquotedNames) (hp : ∀ a ∈ p.attribute?, Unquoted a)
    (h : d.heed cs p t = .ok d') : d'.UnquotedNames := by
  revert h
  fun_cases heed d cs p t with
  | case1 | case4 | case5 | case8 | case15 =>
    rintro ⟨⟩
    exact hd
  | case2 => rintro ⟨⟩
  | case3 | case6 | case7 =>
    intro h
    obtain ⟨_, -, hret⟩ := bind_eq_ok.mp h
    cases hret
    exact hd
  | case9 s =>
    intro h
    obtain ⟨_, -, h⟩ := bind_eq_ok.mp h
    obtain ⟨_, -, hret⟩ := bind_eq_ok.mp h
    cases s with
    | general name =>
      cases hret
      exact hd.withEntity
    | parameter =>
      cases hret
      exact hd
  | case10 | case11 =>
    rintro ⟨⟩
    exact hd.withEntity
  | case12 e a plain word =>
    rintro ⟨⟩
    split
    · exact hd
    · exact hd.withAttribute (hp a rfl)
  | case13 e a | case14 e a => exact unquotedNames_of_withDefault hd (hp a rfl)

end Doctype

namespace Token

variable {t : Token} {a : List Char}

/-- The names that a token gives have no quotation marks. -/
def UnquotedNames (t : Token) : Prop := ∀ a, t = name a ∨ t = qualified a → Unquoted a

theorem unquotedNames_of_scan {form : Form} {cs rest : List Char}
    (h : scan form cs = .ok (t, rest)) : t.UnquotedNames := by
  intro a ha
  have hspelled := spelled_of_scan h
  rcases ha with rfl | rfl
  · exact unquoted_of_word hspelled.2
  · exact unquoted_of_word hspelled.2

theorem UnquotedNames.extended (h : t.UnquotedNames) : t.extended.UnquotedNames := by
  unfold Token.extended
  split
  · rename_i text
    have htext : Unquoted text := h text (.inl rfl)
    intro a ha
    obtain rfl : text ++ [Characters.invalid] = a := by simpa using ha
    unfold Unquoted at htext ⊢
    simp [htext]
    decide
  · intro a ha
    simp at ha
  · exact h

end Token

namespace Doctype

variable {d d' : Doctype} {p : Prolog} {cs rest : List Char}

/-- What is read before the root gives defaults to attributes with unquoted names only. -/
theorem unquotedNames_of_readProlog {limit : Nat} (hd : d.UnquotedNames)
    (hp : ∀ a ∈ p.attribute?, Unquoted a) (h : readProlog limit d p cs = .ok (d', rest)) :
    d'.UnquotedNames := by
  revert h
  fun_induction readProlog limit d p cs with
  | case1 | case2 | case3 | case9 => rintro ⟨⟩
  | case4 n d cs hcs rest hscan ih => exact ih hd fun a ha => by cases ha
  | case5 n d cs hcs rest p hne hscan ih => exact ih hd hp
  | case6 | case7 | case8 =>
    rintro ⟨⟩
    exact hd
  | case10 n d cs _ t rest p _ _ _ _ _ hscan u q hnext ih =>
    have hscanned := Token.unquotedNames_of_scan hscan
    have hu : u.UnquotedNames := by
      unfold u
      split
      · exact hscanned.extended
      · exact hscanned
    have hq : ∀ a ∈ q.attribute?, Unquoted a := by
      intro a ha
      rcases Prolog.attribute?_of_next? hnext ha with hold | hnamed
      · exact hp a hold
      · exact hu a hnamed
    intro h
    obtain ⟨d₁, hheed, h⟩ := bind_eq_ok.mp h
    split at h
    · cases h
    · exact ih d₁ (unquotedNames_of_heed hd hp hheed) hq h

end Doctype

end MathLint.Xml

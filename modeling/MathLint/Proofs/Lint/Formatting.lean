import Mathlib.Logic.Relation
import MathLint.Proofs.Check.Alike

/-!
# Formatting

White space at the ends of attribute values and of texts can be added to a document without any
effect on what checks report about it. In a `mi`, `mn` or `mo` this goes for the ends of all its
text only.

* `Xml.Content.Pad`, `Xml.Element.Pad`: white space added at one place.
* `Xml.Element.Pad.alike`: a document looks the same before and after.
* `Check.sweep_pad`: what sweeps give after any number of such changes.
-/

namespace MathLint

/-! ## White space added at one place -/

namespace Xml

/-- White space added to a content at one place. The content is inside a `mi`, `mn` or `mo` or not;
if it is, only its attribute values can be changed. -/
inductive Content.Pad : (inside : Bool) → Content → Content → Prop
  /-- A run of text. -/
  | run {before after : String} (run : String) (rest : Content) :
    Text.isBlankText before = true → Text.isBlankText after = true →
      Pad false (.chars run rest) (.chars (before ++ run ++ after) rest)
  /-- White space where there was no text. -/
  | fresh {run : String} (rest : Content) :
    Text.isBlankText run = true → Pad false rest (.chars run rest)
  /-- The text of a remark. -/
  | remark {before after : String} (body : String) (rest : Content) :
    Text.isBlankText before = true → Text.isBlankText after = true →
      Pad false (.remark body rest) (.remark (before ++ body ++ after) rest)
  /-- The value of an attribute. -/
  | value {inside : Bool} {before after : String} (name key : Name) (value : String)
    (as bs : List (Name × String)) (inner rest : Content) :
    Text.isBlankText before = true → Text.isBlankText after = true →
      Pad inside (.element name (as ++ (key, value) :: bs) inner rest)
        (.element name (as ++ (key, before ++ value ++ after) :: bs) inner rest)
  /-- The text of a `mi`, `mn` or `mo` without elements in it. -/
  | token {name : Name} {inner inner' : Content} {before after : String}
    (as : List (Name × String)) (rest : Content) :
    name.isToken = true → inner.elements = [] → inner'.elements = [] →
    Text.isBlankText before = true → Text.isBlankText after = true →
    inner'.text = before ++ inner.text ++ after →
      Pad false (.element name as inner rest) (.element name as inner' rest)
  /-- Inside an element. -/
  | inner {inside : Bool} {name : Name} {inner inner' : Content} (as : List (Name × String))
    (rest : Content) : Pad (inside || name.isToken) inner inner' →
      Pad inside (.element name as inner rest) (.element name as inner' rest)
  | behindRun {inside : Bool} {rest rest' : Content} (run : String) :
    Pad inside rest rest' → Pad inside (.chars run rest) (.chars run rest')
  | behindRemark {inside : Bool} {rest rest' : Content} (body : String) :
    Pad inside rest rest' → Pad inside (.remark body rest) (.remark body rest')
  | behindElement {inside : Bool} {rest rest' : Content} (name : Name)
    (as : List (Name × String)) (inner : Content) :
    Pad inside rest rest' → Pad inside (.element name as inner rest) (.element name as inner rest')

/-- White space added to a document at one place. -/
def Element.Pad (e e' : Element) : Prop :=
  Content.Pad false (.element e.name e.attributes e.content .nil)
    (.element e'.name e'.attributes e'.content .nil)

namespace Content

variable {inside : Bool} {c d : Content}

theorem isBlankText_pad {before after : String} (hbefore : Text.isBlankText before = true)
    (hafter : Text.isBlankText after = true) (s : String) :
    Text.isBlankText (before ++ s ++ after) = Text.isBlankText s := by
  rw [Text.isBlankText_append, Text.isBlankText_append, hbefore, hafter, Bool.true_and,
    Bool.and_true]

/-- Inside a `mi`, `mn` or `mo` the text stays as it is. -/
theorem Pad.text_eq (h : Pad inside c d) (hinside : inside = true) : c.text = d.text := by
  induction h with
  | run _ _ _ _ => cases hinside
  | fresh _ _ => cases hinside
  | remark _ _ _ _ => cases hinside
  | value _ _ _ _ _ _ _ _ _ => rfl
  | token _ _ _ _ _ _ _ _ => cases hinside
  | inner _ _ _ ih => rw [text, text, ih (by rw [hinside, Bool.true_or])]
  | behindRun _ _ ih => rw [text, text, ih hinside]
  | behindRemark _ _ ih => rw [text, text, ih hinside]
  | behindElement _ _ _ _ ih => rw [text, text, ih hinside]

/-- A text that is not blank stays so, and a blank one does, too. -/
theorem Pad.isBlankText_eq (h : Pad inside c d) :
    Text.isBlankText c.text = Text.isBlankText d.text := by
  induction h with
  | run run rest hbefore hafter =>
    rw [text, text, Text.isBlankText_append, Text.isBlankText_append,
      isBlankText_pad hbefore hafter]
  | fresh rest hrun => rw [text, Text.isBlankText_append, hrun, Bool.true_and]
  | remark body rest hbefore hafter =>
    rw [text, text, Text.isBlankText_append, Text.isBlankText_append,
      isBlankText_pad hbefore hafter]
  | value _ _ _ _ _ _ _ _ _ => rfl
  | token _ rest _ _ _ hbefore hafter htext =>
    rw [text, text, htext, Text.isBlankText_append, Text.isBlankText_append,
      isBlankText_pad hbefore hafter]
  | inner _ _ _ ih => rw [text, text, Text.isBlankText_append, Text.isBlankText_append, ih]
  | behindRun _ _ ih => rw [text, text, Text.isBlankText_append, Text.isBlankText_append, ih]
  | behindRemark _ _ ih => rw [text, text, Text.isBlankText_append, Text.isBlankText_append, ih]
  | behindElement _ _ _ _ ih =>
    rw [text, text, Text.isBlankText_append, Text.isBlankText_append, ih]

theorem alike_of_elements_eq_nil {padded : Bool} (hc : c.elements = []) (hd : d.elements = []) :
    c.Alike padded d := by
  induction c with
  | nil =>
    induction d with
    | nil => exact .nil
    | chars run rest ih => exact .chars_right (ih hd)
    | remark body rest ih => exact .remark_right (ih hd)
    | element name as inner rest _ _ => cases hd
  | chars run rest ih => exact .chars_left (ih hc)
  | remark body rest ih => exact .remark_left (ih hc)
  | element name as inner rest _ _ => cases hc

theorem Pad.alike (h : Pad inside c d) (padded : Bool) : c.Alike padded d := by
  induction h generalizing padded with
  | run run rest _ _ => exact .chars_left (.chars_right (.refl padded rest))
  | fresh rest _ => exact .chars_right (.refl padded rest)
  | remark body rest _ _ => exact .remark_left (.remark_right (.refl padded rest))
  | value name key value as bs inner rest hbefore hafter =>
    refine .element (fun _ => ?_) (.refl _ _) (.refl _ inner) (.refl padded rest)
    simp only [List.map_append, List.map_cons, settle, Text.trim_pad hbefore hafter]
  | token as rest _ hinner hinner' hbefore hafter htext =>
    refine .element (fun _ => rfl) ⟨?_, fun _ => ?_⟩ (alike_of_elements_eq_nil hinner hinner')
      (.refl padded rest)
    · rw [htext, isBlankText_pad hbefore hafter]
    · rw [htext, Text.trim_pad hbefore hafter]
  | inner as rest hpad ih =>
    refine .element (fun _ => rfl) ⟨hpad.isBlankText_eq, fun htoken => ?_⟩ (ih _)
      (.refl padded rest)
    rw [hpad.text_eq (by rw [htoken, Bool.or_true])]
  | behindRun run _ ih => exact .chars_left (.chars_right (ih padded))
  | behindRemark body _ ih => exact .remark_left (.remark_right (ih padded))
  | behindElement name as inner _ ih =>
    exact .element (fun _ => rfl) (.refl _ _) (.refl _ inner) (ih padded)

end Content

/-- A document looks the same before and after. -/
theorem Element.Pad.alike {e e' : Element} (h : e.Pad e') : e.Alike false e' := by
  have halike := Content.Pad.alike h false
  obtain ⟨name, attributes, content⟩ := e
  obtain ⟨name', attributes', content'⟩ := e'
  cases halike with
  | element hattributes htext hcontent _ => exact ⟨rfl, hattributes, htext, hcontent⟩

end Xml

/-! ## Sweeps -/

namespace Check

open Xml

/-- Formatting does not matter: however often white space is added to a document at a place that
admits it, sweeps over the document give the same, or fail with the same fault. -/
theorem sweep_pad (c : Context) (checks : List Check) {e e' : Element}
    (h : Relation.ReflTransGen Element.Pad e e') :
    sweep c checks (Node.root e').lintable = sweep c checks (Node.root e).lintable := by
  induction h with
  | refl => rfl
  | tail _ hpad ih => rw [← ih, sweep_of_alike (.root hpad.alike) checks]

/-- A formula of one row. -/
def rowOf (content : Content) : Element :=
  ⟨⟨mathNamespace, "math"⟩, [], .element ⟨mathNamespace, "mrow"⟩ [] content .nil⟩

/-- A function name and space, with a gap before them. -/
def spacedName (gap name width : String) : Content :=
  .chars gap <|
  .element ⟨mathNamespace, "mi"⟩ [] (.chars name .nil) <|
  .element ⟨mathNamespace, "mspace"⟩ [(⟨"", "width"⟩, width)] .nil .nil

/-- The law on a row with negative space, with white space added at three places. -/
theorem sweep_pad_spacedName :
    let c : Context := { profile := Profile.default, rules := RuleSet.mathml3 }
    let plain := rowOf (spacedName "" "sin" "-1em")
    let padded := rowOf
      (spacedName ("\n  " ++ "" ++ "\n") (" " ++ "sin" ++ "\t") ("" ++ "-1em" ++ " "))
    Relation.ReflTransGen Element.Pad plain padded ∧
    sweep c Check.all (Node.root padded).lintable = sweep c Check.all (Node.root plain).lintable ∧
    (swept c ambiguity (Node.root padded).lintable).map (·.code) = ["L031", "L061", "L034"] := by
  intro c plain padded
  have hrow : ∀ d d' : Content, Content.Pad false d d' → (rowOf d).Pad (rowOf d') := by
    intro d d' h
    have houter : (false || Name.isToken ⟨mathNamespace, "math"⟩ ||
      Name.isToken ⟨mathNamespace, "mrow"⟩) = false := by decide
    exact .inner _ _ (.inner _ _ (houter ▸ h))
  have hgap : Content.Pad false (spacedName "" "sin" "-1em")
      (spacedName ("\n  " ++ "" ++ "\n") "sin" "-1em") :=
    .run _ _ (by decide) (by decide)
  have hname (gap : String) : Content.Pad false (spacedName gap "sin" "-1em")
      (spacedName gap (" " ++ "sin" ++ "\t") "-1em") :=
    .behindRun gap (@Content.Pad.token _ _ _ " " "\t" [] _ (by decide) rfl rfl (by decide)
      (by decide) (by decide))
  have hwidth (gap name : String) : Content.Pad false (spacedName gap name "-1em")
      (spacedName gap name ("" ++ "-1em" ++ " ")) :=
    .behindRun gap (.behindElement _ _ _ (.value _ _ _ [] [] _ _ (by decide) (by decide)))
  have hsteps : Relation.ReflTransGen Element.Pad plain padded :=
    ((Relation.ReflTransGen.single (hrow _ _ hgap)).tail (hrow _ _ (hname _))).tail
      (hrow _ _ (hwidth _ _))
  exact ⟨hsteps, sweep_pad c Check.all hsteps, by decide +kernel⟩

end Check

end MathLint

import MathLint.Proofs.Text.Integer
import MathLint.Schema.Loose

/-!
# Values as text

A loosely typed value is put into text, and so is each integer in it, at any depth. That fails
exactly if one of them has too many digits.

* `Value.IsWritable`: the values without such an integer.
* `Value.writes_quoted`: a value has a text unless an integer in it is too long.
* `Loose.exists_label`, `Loose.label_of_not_isWritable`: the names that values give.
-/

namespace MathLint

open Text.Integer

/-! ## Results that an integer can spoil -/

/-- A result fails exactly if one of some integers is too long to be written. -/
structure Writes {α : Type} (ns : List Int) (r : Except Text.Integer.Fault α) : Prop where
  ok : (∀ n ∈ ns, IsShort n) → ∃ a, r = .ok a
  error : ¬ (∀ n ∈ ns, IsShort n) → r = .error .unwritable

namespace Writes

variable {α β γ : Type} {ns ms : List Int} {r : Except Text.Integer.Fault α}
  {s : Except Text.Integer.Fault β}

theorem pure (a : α) : Writes [] (.ok a) :=
  ⟨fun _ => ⟨a, rfl⟩, fun h => absurd (fun _ hn => nomatch hn) h⟩

theorem map (h : Writes ns r) (f : α → β) : Writes ns (do return f (← r)) where
  ok hns := by
    obtain ⟨a, rfl⟩ := h.ok hns
    exact ⟨f a, rfl⟩
  error hns := by
    rw [h.error hns]
    rfl

theorem append (h : Writes ns r) (h' : Writes ms s) (f : α → β → γ) :
    Writes (ns ++ ms) (do return f (← r) (← s)) where
  ok hall := by
    obtain ⟨a, rfl⟩ := h.ok fun n hn => hall n (List.mem_append_left _ hn)
    obtain ⟨b, rfl⟩ := h'.ok fun n hn => hall n (List.mem_append_right _ hn)
    exact ⟨f a b, rfl⟩
  error hall := by
    rw [List.forall_mem_append, not_and_or] at hall
    by_cases hns : ∀ n ∈ ns, IsShort n
    · obtain ⟨a, rfl⟩ := h.ok hns
      rw [h'.error (hall.resolve_left (not_not_intro hns))]
      rfl
    · rw [h.error hns]
      rfl

end Writes

theorem writes_write (n : Int) : Writes [n] (write n) where
  ok h := ⟨_, write_of_isShort (h n List.mem_cons_self)⟩
  error h := write_of_not_isShort fun hn => h (List.forall_mem_singleton.mpr hn)

/-! ## The integers in a value -/

namespace Value

mutual

/-- The integers in a value. -/
def integers : Value → List Int
  | int n => [n]
  | list items => integersOfItems items
  | object fields => integersOfFields fields
  | null | bool _ | fraction _ _ | str _ => []

/-- The integers in the items of a list. -/
def integersOfItems : List Value → List Int
  | [] => []
  | v :: vs => integers v ++ integersOfItems vs

/-- The integers in the fields of an object. -/
def integersOfFields : List (String × Value) → List Int
  | [] => []
  | (_, v) :: fields => integers v ++ integersOfFields fields

end

/-- A value has a text: no integer in it is too long. -/
def IsWritable (v : Value) : Prop := ∀ n ∈ v.integers, IsShort n

instance (v : Value) : Decidable v.IsWritable :=
  inferInstanceAs (Decidable (∀ n ∈ v.integers, IsShort n))

-- the induction follows the three functions that quote a value
mutual

theorem writes_quoted : ∀ v : Value, Writes v.integers v.quoted
  | null => .pure _
  | bool _ => .pure _
  | int n => writes_write n
  | fraction _ _ => .pure _
  | str _ => .pure _
  | list items => (writes_quotedItems items).map _
  | object fields => (writes_quotedFields fields).map _

theorem writes_quotedItems : ∀ vs : List Value, Writes (integersOfItems vs) (quotedItems vs)
  | [] => .pure _
  | v :: vs => (writes_quoted v).append (writes_quotedItems vs) _

theorem writes_quotedFields :
    ∀ fields : List (String × Value), Writes (integersOfFields fields) (quotedFields fields)
  | [] => .pure _
  | (name, v) :: fields =>
    (writes_quoted v).append (writes_quotedFields fields) fun text texts =>
      (Text.quoted name ++ ": " ++ text) :: texts

end

variable {v : Value}

theorem exists_shown (h : v.IsWritable) : ∃ s, v.shown = .ok s := by
  obtain ⟨s, hs⟩ := (writes_quoted v).ok h
  exact ⟨s, by rw [shown, hs]; rfl⟩

theorem shown_of_not_isWritable (h : ¬ v.IsWritable) :
    v.shown = .error (.integer .unwritable) := by
  rw [shown, (writes_quoted v).error h]
  rfl

theorem isWritable_str (s : String) : (str s).IsWritable := fun _ hn => nomatch hn

/-- A value that cannot be written is no text, and counts as true. -/
theorem text_of_not_isWritable (h : ¬ v.IsWritable) :
    v.text = .error (.integer .unwritable) ∧ v.truthy = true := by
  have hshown := shown_of_not_isWritable h
  cases v with
  | null | bool _ | fraction _ _ | str _ => exact absurd (fun _ hn => nomatch hn) h
  | int n =>
    refine ⟨hshown, bne_iff_ne.mpr ?_⟩
    rintro rfl
    exact h (List.forall_mem_singleton.mpr (Nat.pow_pos (by decide)))
  | list items =>
    cases items with
    | nil => exact absurd (fun _ hn => nomatch hn) h
    | cons item items => exact ⟨hshown, rfl⟩
  | object fields =>
    cases fields with
    | nil => exact absurd (fun _ hn => nomatch hn) h
    | cons field fields => exact ⟨hshown, rfl⟩

end Value

/-! ## Names -/

namespace Loose

variable {v : Value}

theorem label_str (s : String) : label (.str s) = .ok s := by
  by_cases h : s = ""
  · rw [h]
    rfl
  · simp [label, Value.truthy, Value.text, h]

theorem exists_label (h : v.IsWritable) : ∃ s, label v = .ok s := by
  unfold label
  split
  · cases v with
    | str s => exact ⟨s, rfl⟩
    | null | bool _ | int _ | fraction _ _ | list _ | object _ => exact Value.exists_shown h
  · exact ⟨"", rfl⟩

theorem label_of_not_isWritable (h : ¬ v.IsWritable) :
    label v = .error (.integer .unwritable) := by
  obtain ⟨htext, htruthy⟩ := Value.text_of_not_isWritable h
  rw [label, if_pos htruthy, htext]

end Loose

end MathLint

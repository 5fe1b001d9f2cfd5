/-!
# Regular patterns

A `Pattern` describes a set of texts. `Matches` is the set itself; `Pattern.accepts` decides it, by
taking the derivative of the pattern at each character in turn.

* `accepts_iff`: a pattern accepts exactly the texts that match it.
-/

namespace MathLint.Text

/-- A regular pattern over characters. -/
inductive Pattern where
  /-- No text. -/
  | nothing
  /-- The empty text. -/
  | empty
  /-- One character of a class. -/
  | char (accepts : Char → Bool)
  /-- A text of the first pattern, then one of the second. -/
  | append (p q : Pattern)
  /-- A text of either pattern. -/
  | either (p q : Pattern)
  /-- Any number of texts of the pattern, one after another. -/
  | many (p : Pattern)

namespace Pattern

/-- The texts that a pattern describes. -/
inductive Matches : Pattern → List Char → Prop where
  | empty : Matches .empty []
  | char {f : Char → Bool} {c : Char} : f c = true → Matches (.char f) [c]
  | append {p q : Pattern} {s t : List Char} :
      Matches p s → Matches q t → Matches (.append p q) (s ++ t)
  | left {p q : Pattern} {s : List Char} : Matches p s → Matches (.either p q) s
  | right {p q : Pattern} {s : List Char} : Matches q s → Matches (.either p q) s
  | manyNil {p : Pattern} : Matches (.many p) []
  | manyCons {p : Pattern} {c : Char} {s t : List Char} :
      Matches p (c :: s) → Matches (.many p) t → Matches (.many p) (c :: s ++ t)

/-- Whether a pattern describes the empty text. -/
def nullable : Pattern → Bool
  | nothing => false
  | empty => true
  | char _ => false
  | append p q => p.nullable && q.nullable
  | either p q => p.nullable || q.nullable
  | many _ => true

/-- `append` without parts that describe nothing or only the empty text. -/
def join : Pattern → Pattern → Pattern
  | nothing, _ => nothing
  | empty, q => q
  | p, q => append p q

/-- `either` without parts that describe nothing. -/
def choose : Pattern → Pattern → Pattern
  | nothing, q => q
  | p, nothing => p
  | p, q => either p q

/-- What may follow the character `c` in a text of the pattern. -/
def derivative (c : Char) : Pattern → Pattern
  | nothing => nothing
  | empty => nothing
  | char f => if f c then empty else nothing
  | append p q =>
    if p.nullable then choose (join (p.derivative c) q) (q.derivative c)
    else join (p.derivative c) q
  | either p q => choose (p.derivative c) (q.derivative c)
  | many p => join (p.derivative c) (many p)

/-- Whether a text is one of those that the pattern describes. -/
def accepts (p : Pattern) (s : List Char) : Bool := (s.foldl (fun q c => q.derivative c) p).nullable

/-! ## Building patterns -/

/-- Nothing, or a text of the pattern. -/
def optional (p : Pattern) : Pattern := either empty p

/-- One or more texts of the pattern, one after another. -/
def oneOrMore (p : Pattern) : Pattern := append p (many p)

/-- Patterns one after another. -/
def sequence : List Pattern → Pattern
  | [] => empty
  | [p] => p
  | p :: ps => append p (sequence ps)

/-- One of several patterns. -/
def anyOf : List Pattern → Pattern
  | [] => nothing
  | [p] => p
  | p :: ps => either p (anyOf ps)

/-- From `least` to `least + extra` texts of the pattern, one after another. -/
def between (p : Pattern) : (least extra : Nat) → Pattern
  | least + 1, extra => append p (between p least extra)
  | 0, extra + 1 => optional (append p (between p 0 extra))
  | 0, 0 => empty

/-- One given character. -/
def exactly (c : Char) : Pattern := char (· == c)

/-- One given text. -/
def word (s : String) : Pattern := sequence (s.toList.map exactly)

/-- Whether a character is the small letter `letter` but for its case. Beyond ASCII, the Kelvin sign
is a `k`, the long s an `s`, and the dotted capital and the dotless small i are an `i`. -/
def foldsTo (letter c : Char) : Bool :=
  c.toLower == letter || (letter == 'k' && c.toNat == 0x212A) ||
    (letter == 's' && c.toNat == 0x17F) ||
    (letter == 'i' && (c.toNat == 0x130 || c.toNat == 0x131))

/-- One given text of small letters, in any case. -/
def anyCase (s : String) : Pattern := sequence (s.toList.map fun letter => char (foldsTo letter))

/-- A text of the pattern, with or without a line feed after it. -/
def line (p : Pattern) : Pattern := append p (optional (exactly '\n'))

/-! ## Correctness of `accepts` -/

theorem not_matches_nothing {s : List Char} : ¬ Matches nothing s := nofun

theorem matches_empty_iff {s : List Char} : Matches empty s ↔ s = [] :=
  ⟨fun | .empty => rfl, fun h => h ▸ .empty⟩

theorem matches_char_iff {f : Char → Bool} {s : List Char} :
    Matches (char f) s ↔ ∃ c, f c = true ∧ s = [c] :=
  ⟨fun | .char h => ⟨_, h, rfl⟩, fun ⟨_, h, e⟩ => e ▸ .char h⟩

theorem matches_append_iff {p q : Pattern} {s : List Char} :
    Matches (append p q) s ↔ ∃ a b, Matches p a ∧ Matches q b ∧ s = a ++ b :=
  ⟨fun | .append ha hb => ⟨_, _, ha, hb, rfl⟩, fun ⟨_, _, ha, hb, e⟩ => e ▸ .append ha hb⟩

theorem matches_either_iff {p q : Pattern} {s : List Char} :
    Matches (either p q) s ↔ Matches p s ∨ Matches q s :=
  ⟨fun | .left h => .inl h | .right h => .inr h, fun | .inl h => .left h | .inr h => .right h⟩

theorem nullable_iff {p : Pattern} : p.nullable = true ↔ Matches p [] := by
  induction p with
  | nothing => simp [nullable, not_matches_nothing]
  | empty => simp [nullable, matches_empty_iff]
  | char f => simp [nullable, matches_char_iff]
  | append p q ihp ihq => simp [nullable, matches_append_iff, ihp, ihq]
  | either p q ihp ihq => simp [nullable, matches_either_iff, ihp, ihq]
  | many p _ => exact ⟨fun _ => .manyNil, fun _ => rfl⟩

theorem matches_join_iff {p q : Pattern} {s : List Char} :
    Matches (join p q) s ↔ Matches (append p q) s := by
  unfold join
  split
  · simp [matches_append_iff, not_matches_nothing]
  · simp [matches_append_iff, matches_empty_iff]
  · rfl

theorem matches_choose_iff {p q : Pattern} {s : List Char} :
    Matches (choose p q) s ↔ Matches (either p q) s := by
  unfold choose
  split
  · simp [matches_either_iff, not_matches_nothing]
  · simp [matches_either_iff, not_matches_nothing]
  · rfl

theorem matches_many_cons_iff {p : Pattern} {c : Char} {s : List Char} :
    Matches (many p) (c :: s) ↔ ∃ a b, Matches p (c :: a) ∧ Matches (many p) b ∧ s = a ++ b := by
  constructor
  · intro h
    cases h with
    | manyCons ha hb => exact ⟨_, _, ha, hb, rfl⟩
  · rintro ⟨a, b, ha, hb, rfl⟩
    exact .manyCons ha hb

theorem matches_derivative_iff {p : Pattern} {c : Char} {s : List Char} :
    Matches (p.derivative c) s ↔ Matches p (c :: s) := by
  induction p generalizing s with
  | nothing => simp [derivative, not_matches_nothing]
  | empty => simp [derivative, not_matches_nothing, matches_empty_iff]
  | char f =>
    rw [matches_char_iff, derivative]
    split
    · next h =>
      exact matches_empty_iff.trans
        ⟨fun e => ⟨c, h, e ▸ rfl⟩, fun ⟨_, _, e⟩ => (List.cons.inj e).2⟩
    · next h =>
      refine ⟨fun hm => absurd hm not_matches_nothing, fun ⟨d, hd, e⟩ => absurd hd ?_⟩
      exact (List.cons.inj e).1 ▸ h
  | append p q ihp ihq =>
    have step : Matches (append p q) (c :: s) ↔
        (∃ a b, Matches p (c :: a) ∧ Matches q b ∧ s = a ++ b) ∨
          (Matches p [] ∧ Matches q (c :: s)) := by
      rw [matches_append_iff]
      constructor
      · rintro ⟨a, b, ha, hb, e⟩
        cases a with
        | nil => exact .inr ⟨ha, by simpa using e ▸ hb⟩
        | cons d a =>
          simp only [List.cons_append, List.cons.injEq] at e
          obtain ⟨rfl, rfl⟩ := e
          exact .inl ⟨a, b, ha, hb, rfl⟩
      · rintro (⟨a, b, ha, hb, rfl⟩ | ⟨ha, hb⟩)
        · exact ⟨c :: a, b, ha, hb, rfl⟩
        · exact ⟨[], _, ha, hb, rfl⟩
    rw [step]
    rw [derivative]
    split
    · next h =>
      simp only [matches_choose_iff, matches_either_iff, matches_join_iff, matches_append_iff, ihp,
        ihq, nullable_iff.1 h, true_and]
    · next h =>
      have hn : ¬ Matches p [] := fun hm => h (nullable_iff.2 hm)
      simp only [matches_join_iff, matches_append_iff, ihp, hn, false_and, or_false]
  | either p q ihp ihq =>
    simp [derivative, matches_choose_iff, matches_either_iff, ihp, ihq]
  | many p ih =>
    simp only [derivative, matches_join_iff, matches_append_iff, ih, matches_many_cons_iff]

/-- A pattern accepts exactly the texts that match it. -/
theorem accepts_iff {p : Pattern} {s : List Char} : p.accepts s = true ↔ Matches p s := by
  induction s generalizing p with
  | nil => exact nullable_iff
  | cons c s ih => exact Iff.trans ih matches_derivative_iff

end Pattern

end MathLint.Text

import Retag.Regex.Syntax

/-!
# What regular expressions match

The meaning of an expression is a relation between what it takes and what stands around it, with no
order of preference and no program. A search finds something if the expression takes some part of
the text.
-/

namespace Retag.Regex.Pattern

/-- Standing between `before` and `after`, the expression takes `taken`. -/
inductive Takes : Pattern → (before taken after : List Char) → Prop
  | empty {before after : List Char} : Takes .empty before [] after
  | char {s : CharClass} {c : Char} {before after : List Char} :
      s.mem c = true → Takes (.char s) before [c] after
  | look {l : Look} {before after : List Char} :
      l.holds before.getLast? after.head? = true → Takes (.look l) before [] after
  | seq {a b : Pattern} {before first second after : List Char} :
      Takes a before first (second ++ after) → Takes b (before ++ first) second after →
      Takes (.seq a b) before (first ++ second) after
  | left {a b : Pattern} {before taken after : List Char} :
      Takes a before taken after → Takes (.alt a b) before taken after
  | right {a b : Pattern} {before taken after : List Char} :
      Takes b before taken after → Takes (.alt a b) before taken after
  | stop {body : Pattern} {max : Option Nat} {greedy : Bool} {before after : List Char} :
      Takes (.repeat body 0 max greedy) before [] after
  | again {body : Pattern} {min : Nat} {max : Option Nat} {greedy : Bool}
      {before first others after : List Char} :
      max ≠ some 0 → Takes body before first (others ++ after) →
      Takes (.repeat body (min - 1) (max.map (· - 1)) greedy) (before ++ first) others after →
      Takes (.repeat body min max greedy) before (first ++ others) after
  | capture {i : Nat} {body : Pattern} {before taken after : List Char} :
      Takes body before taken after → Takes (.capture i body) before taken after

/-- The expression takes some part of the text. -/
def Occurs (r : Pattern) (text : List Char) : Prop :=
  ∃ before taken after, text = before ++ taken ++ after ∧ r.Takes before taken after

variable {before taken after : List Char}

theorem takes_empty_iff : Takes .empty before taken after ↔ taken = [] := by
  constructor
  · rintro ⟨⟩
    rfl
  · rintro rfl
    exact .empty

theorem takes_char_iff {s : CharClass} :
    Takes (.char s) before taken after ↔ ∃ c, taken = [c] ∧ s.mem c = true := by
  constructor
  · rintro (_ | h)
    exact ⟨_, rfl, h⟩
  · rintro ⟨c, rfl, h⟩
    exact .char h

theorem takes_look_iff {l : Look} : Takes (.look l) before taken after ↔
    taken = [] ∧ l.holds before.getLast? after.head? = true := by
  constructor
  · rintro (_ | _ | h)
    exact ⟨rfl, h⟩
  · rintro ⟨rfl, h⟩
    exact .look h

theorem takes_seq_iff {a b : Pattern} : Takes (.seq a b) before taken after ↔
    ∃ first second, taken = first ++ second ∧ Takes a before first (second ++ after) ∧
      Takes b (before ++ first) second after := by
  constructor
  · rintro (_ | _ | _ | ⟨ha, hb⟩)
    exact ⟨_, _, rfl, ha, hb⟩
  · rintro ⟨first, second, rfl, ha, hb⟩
    exact .seq ha hb

theorem takes_alt_iff {a b : Pattern} : Takes (.alt a b) before taken after ↔
    Takes a before taken after ∨ Takes b before taken after := by
  constructor
  · rintro (_ | _ | _ | _ | h | h)
    · exact .inl h
    · exact .inr h
  · rintro (h | h)
    · exact .left h
    · exact .right h

theorem takes_repeat_iff {body : Pattern} {min : Nat} {max : Option Nat} {greedy : Bool} :
    Takes (.repeat body min max greedy) before taken after ↔
      min = 0 ∧ taken = [] ∨ max ≠ some 0 ∧ ∃ first others, taken = first ++ others ∧
        Takes body before first (others ++ after) ∧
        Takes (.repeat body (min - 1) (max.map (· - 1)) greedy) (before ++ first) others after := by
  constructor
  · intro h
    cases h with
    | stop => exact .inl ⟨rfl, rfl⟩
    | again hmax hfirst hothers => exact .inr ⟨hmax, _, _, rfl, hfirst, hothers⟩
  · rintro (⟨rfl, rfl⟩ | ⟨hmax, first, others, rfl, hfirst, hothers⟩)
    · exact .stop
    · exact .again hmax hfirst hothers

theorem takes_capture_iff {i : Nat} {body : Pattern} :
    Takes (.capture i body) before taken after ↔ Takes body before taken after := by
  constructor
  · intro h
    cases h with
    | capture h => exact h
  · exact .capture

/-- Any number of any characters. -/
theorem takes_repeat_any (greedy : Bool) :
    Takes (.repeat (.char .any) 0 none greedy) before taken after := by
  induction taken generalizing before with
  | nil => exact .stop
  | cons c taken ih =>
    have hbound : (none : Option Nat) ≠ some 0 := Option.some_ne_none 0 |>.symm
    exact .again hbound (.char rfl) ih

end Retag.Regex.Pattern

import Retag.Proofs.Glob.Spelling

/-!
# What globs match

The meaning of a glob is stated on its items, and does not say how a text is gone through. The rows
that matching keeps say, for every rest of a glob, whether it fits what has been seen of the text.
-/

namespace Retag.Glob

open Unicode

/-- The characters are equal up to case. -/
def SameCase (c d : Char) : Prop := d ∈ caseVariants c

/-- A character, or one between the ends of a range. No character is between reversed ends. -/
inductive Member.Has : Member → Char → Prop
  | one (c : Char) : Has (.one c) c
  | range {a b c : Char} : a ≤ c → c ≤ b → Has (.range a b) c

/-- Some member has the character or another case of it. -/
def InClass (members : List Member) (c : Char) : Prop :=
  ∃ d, SameCase c d ∧ ∃ m ∈ members, m.Has d

/-- The items that stand for one character, and the characters. -/
inductive Item.Admits : Item → Char → Prop
  | any (c : Char) : Admits .any c
  | char {c d : Char} : SameCase c d → Admits (.char d) c
  | inside {members : List Member} {c : Char} : InClass members c → Admits (.cls false members) c
  | outside {members : List Member} {c : Char} : ¬ InClass members c → Admits (.cls true members) c

/-- The items, one after the other, stand for the whole text. -/
inductive Fits : List Item → List Char → Prop
  | nil : Fits [] []
  | anything {rest : List Item} {text : List Char} (taken : List Char) :
      Fits rest text → Fits (.anything :: rest) (taken ++ text)
  | one {item : Item} {rest : List Item} {c : Char} {text : List Char} :
      item.Admits c → Fits rest text → Fits (item :: rest) (c :: text)

/-- The whole text matches the glob. -/
def Matches (glob text : List Char) : Prop := ∃ items, Spells glob items ∧ Fits items text

variable {item : Item} {rest items : List Item} {c : Char} {text : List Char}

/-! ## Single items -/

theorem Member.holds_iff (m : Member) (c : Char) : m.holds c = true ↔ m.Has c := by
  cases m with
  | one d =>
    rw [holds, beq_iff_eq]
    refine ⟨?_, ?_⟩
    · rintro rfl
      exact .one c
    · rintro ⟨⟩
      rfl
  | range a b =>
    rw [holds, Bool.and_eq_true, decide_eq_true_iff, decide_eq_true_iff]
    refine ⟨fun ⟨ha, hb⟩ => .range ha hb, ?_⟩
    rintro (_ | ⟨ha, hb⟩)
    exact ⟨ha, hb⟩

theorem any_holds_iff (members : List Member) (c : Char) :
    ((caseVariants c).any fun d => members.any (·.holds d)) = true ↔ InClass members c := by
  simp only [List.any_eq_true, Member.holds_iff]
  rfl

theorem takes_iff (h : item ≠ .anything) : item.takes c = true ↔ item.Admits c := by
  cases item with
  | anything => exact absurd rfl h
  | any => exact ⟨fun _ => .any c, fun _ => rfl⟩
  | char d =>
    rw [Item.takes, List.contains_iff_mem]
    refine ⟨.char, ?_⟩
    rintro (_ | h)
    exact h
  | cls negated members =>
    rw [Item.takes, bne_iff_ne, ne_eq]
    cases negated with
    | false =>
      rw [Bool.not_eq_false, any_holds_iff]
      refine ⟨.inside, ?_⟩
      rintro (_ | _ | h)
      exact h
    | true =>
      rw [any_holds_iff]
      refine ⟨.outside, ?_⟩
      rintro (_ | _ | _ | h)
      exact h

/-! ## Rows -/

theorem fits_anything_nil : Fits (.anything :: rest) [] ↔ Fits rest [] := by
  refine ⟨fun h => ?_, .anything []⟩
  generalize ht : ([] : List Char) = text at h
  cases h with
  | anything taken h =>
    obtain ⟨rfl, rfl⟩ := List.append_eq_nil_iff.mp ht.symm
    exact h
  | one _ _ => cases ht

theorem fits_anything_cons :
    Fits (.anything :: rest) (c :: text)
      ↔ Fits rest (c :: text) ∨ Fits (.anything :: rest) text := by
  constructor
  · intro h
    generalize ht : c :: text = whole at h
    cases h with
    | anything taken h =>
      rcases taken with _ | ⟨d, taken⟩
      · rw [List.nil_append] at ht
        exact .inl (ht ▸ h)
      · obtain ⟨-, rfl⟩ := List.cons.inj ht
        exact .inr (.anything taken h)
    | one h _ => cases h
  · rintro (h | h)
    · exact .anything [] h
    · generalize hi : Item.anything :: rest = items at h
      cases h with
      | nil => cases hi
      | anything taken h =>
        obtain ⟨-, rfl⟩ := List.cons.inj hi
        exact .anything (c :: taken) h
      | one h _ =>
        obtain ⟨rfl, -⟩ := List.cons.inj hi
        cases h

theorem fits_cons_nil (h : item ≠ .anything) : ¬ Fits (item :: rest) [] := by
  intro hf
  generalize ht : ([] : List Char) = text at hf
  cases hf with
  | anything taken hf => exact h rfl
  | one _ _ => cases ht

theorem fits_cons_cons (h : item ≠ .anything) :
    Fits (item :: rest) (c :: text) ↔ item.Admits c ∧ Fits rest text := by
  refine ⟨fun hf => ?_, fun ⟨hi, hf⟩ => .one hi hf⟩
  generalize ht : c :: text = whole at hf
  cases hf with
  | anything taken hf => exact absurd rfl h
  | one hi hf =>
    obtain ⟨rfl, rfl⟩ := List.cons.inj ht
    exact ⟨hi, hf⟩

/-- For each rest of the items, longest first, whether it fits the text. -/
inductive Row (text : List Char) : List Item → List Bool → Prop
  | nil {fits : Bool} : (fits = true ↔ Fits [] text) → Row text [] [fits]
  | cons {fits : Bool} {item : Item} {rest : List Item} {row : List Bool} :
      (fits = true ↔ Fits (item :: rest) text) → Row text rest row →
      Row text (item :: rest) (fits :: row)

theorem Row.head {row : List Bool} (h : Row text items row) :
    row.head?.getD false = true ↔ Fits items text := by
  cases h with
  | nil h => exact h
  | cons h _ => exact h

theorem row_emptyRow (items : List Item) : Row [] items (emptyRow items) := by
  induction items with
  | nil => exact .nil ⟨fun _ => .nil, fun _ => rfl⟩
  | cons item rest ih =>
    by_cases h : item = .anything
    · subst h
      exact .cons (ih.head.trans fits_anything_nil.symm) ih
    · rw [emptyRow]
      · exact .cons (iff_of_false Bool.false_ne_true (fits_cons_nil h)) ih
      · exact h

theorem Row.extend {row : List Bool} (h : Row text items row) (c : Char) :
    Row (c :: text) items (extendRow c items row) := by
  induction h with
  | nil _ => exact .nil (iff_of_false Bool.false_ne_true nofun)
  | @cons fits item rest row hfits hrow ih =>
    by_cases h : item = .anything
    · subst h
      refine .cons ?_ ih
      rw [Bool.or_eq_true, fits_anything_cons]
      exact or_congr ih.head hfits
    · rw [extendRow]
      · refine .cons ?_ ih
        rw [Bool.and_eq_true, fits_cons_cons h]
        exact and_congr (takes_iff h) hrow.head
      · exact h

/-- Matching from the end of the text on finds whether the items fit it. -/
theorem accepts_iff (items : List Item) (text : List Char) :
    accepts items text = true ↔ Fits items text := by
  have hrow :
      Row text items (text.foldr (fun c row => extendRow c items row) (emptyRow items)) := by
    induction text with
    | nil => exact row_emptyRow items
    | cons c text ih => exact ih.extend c
  exact hrow.head

end Retag.Glob

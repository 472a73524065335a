import Mathlib.Data.List.Infix
import Mathlib.Data.Nat.Find
import Retag.Proofs.Text.Bounds

/-!
# Occurrences

A search finds the first place at which a text goes on with what is searched for. Bytes can be
searched instead of characters: no character starts inside another, so where the bytes of a text
occur in those of another, its characters do.
-/

namespace Retag.Text

/-! ## First places -/

section FirstAt

variable {α : Type} {needle text : List α} {k : Nat}

/-- At this place and at none before it, `text` goes on with `needle`. -/
def FirstAt (needle text : List α) (k : Nat) : Prop :=
  needle <+: text.drop k ∧ ∀ j < k, ¬ needle <+: text.drop j

theorem firstAt_zero : FirstAt needle text 0 ↔ needle <+: text :=
  and_iff_left fun _ hj => absurd hj (Nat.not_lt_zero _)

theorem firstAt_succ {a : α} :
    FirstAt needle (a :: text) (k + 1) ↔ ¬ needle <+: a :: text ∧ FirstAt needle text k := by
  constructor
  · rintro ⟨hhere, hbefore⟩
    exact ⟨hbefore 0 k.succ_pos, hhere, fun j hj => hbefore (j + 1) (Nat.succ_lt_succ hj)⟩
  · rintro ⟨hfirst, hhere, hbefore⟩
    refine ⟨hhere, fun j hj => ?_⟩
    cases j with
    | zero => exact hfirst
    | succ j => exact hbefore j (Nat.lt_of_succ_lt_succ hj)

theorem FirstAt.unique {j : Nat} (hk : FirstAt needle text k) (hj : FirstAt needle text j) :
    k = j := by
  rcases Nat.lt_trichotomy k j with hlt | heq | hgt
  · exact absurd hk.1 (hj.2 k hlt)
  · exact heq
  · exact absurd hj.1 (hk.2 j hgt)

/-- What occurs fits in behind the place at which it does. -/
theorem FirstAt.le (h : FirstAt needle text k) : k + needle.length ≤ text.length := by
  have hlength := h.1.length_le
  rw [List.length_drop] at hlength
  rcases Nat.lt_or_ge text.length k with hk | hk
  · -- Behind the end only nothing occurs, and that occurs at the end before.
    have hnil : needle = [] := List.length_eq_zero_iff.mp (by omega)
    exact absurd (hnil ▸ List.nil_prefix) (h.2 0 (by omega))
  · omega

theorem exists_firstAt_iff : (∃ k, FirstAt needle text k) ↔ needle <:+: text := by
  constructor
  · rintro ⟨k, hk, -⟩
    exact hk.isInfix.trans (List.drop_suffix k text).isInfix
  · rintro ⟨before, after, rfl⟩
    have hplace : ∃ k, needle <+: (before ++ needle ++ after).drop k :=
      ⟨before.length, by simp⟩
    classical
    exact ⟨Nat.find hplace, Nat.find_spec hplace, fun j hj => Nat.find_min hplace hj⟩

end FirstAt

variable {needle text : List Char}

theorem indexOf?_eq_some_iff {k : Nat} :
    indexOf? needle text = some k ↔ FirstAt needle text k := by
  induction text generalizing k with
  | nil =>
    simp only [indexOf?, List.isEmpty_iff]
    constructor
    · intro h
      split at h
      · next hnil => exact Option.some.inj h ▸ firstAt_zero.mpr (hnil ▸ List.nil_prefix)
      · cases h
    · intro h
      have hle := h.le
      simp only [List.length_nil, Nat.le_zero, Nat.add_eq_zero_iff, List.length_eq_zero_iff] at hle
      rw [if_pos hle.2, hle.1]
  | cons c rest ih =>
    simp only [indexOf?, List.isPrefixOf_iff_prefix]
    by_cases hhere : needle <+: c :: rest
    · rw [if_pos hhere, Option.some.injEq]
      constructor
      · rintro rfl
        exact firstAt_zero.mpr hhere
      · exact (firstAt_zero.mpr hhere).unique
    · rw [if_neg hhere, Option.map_eq_some_iff]
      constructor
      · rintro ⟨k, hk, rfl⟩
        exact firstAt_succ.mpr ⟨hhere, ih.mp hk⟩
      · intro h
        cases k with
        | zero => exact absurd (firstAt_zero.mp h) hhere
        | succ k => exact ⟨k, ih.mpr (firstAt_succ.mp h).2, rfl⟩

theorem indexOf?_isSome_iff : (indexOf? needle text).isSome ↔ needle <:+: text := by
  rw [← exists_firstAt_iff, Option.isSome_iff_exists]
  exact exists_congr fun k => indexOf?_eq_some_iff

/-! ## Bytes -/

/-- The bytes of characters. -/
def utf8 (text : List Char) : List UInt8 := text.flatMap String.utf8EncodeChar

theorem utf8_cons (c : Char) (text : List Char) :
    utf8 (c :: text) = String.utf8EncodeChar c ++ utf8 text := List.flatMap_cons

theorem utf8_append (before after : List Char) :
    utf8 (before ++ after) = utf8 before ++ utf8 after := List.flatMap_append

theorem length_utf8 (text : List Char) : (utf8 text).length = bytes text := by
  induction text with
  | nil => rfl
  | cons c rest ih => rw [utf8_cons, List.length_append, String.length_utf8EncodeChar, ih, bytes]

theorem bytes_take_le {j k : Nat} (h : j ≤ k) : bytes (text.take j) ≤ bytes (text.take k) := by
  obtain ⟨after, hafter⟩ := List.take_prefix_take_left (l := text) h
  rw [← hafter, ← length_utf8, ← length_utf8, utf8_append, List.length_append]
  exact Nat.le_add_right _ _

/-- Bytes start with those of one character at most. -/
theorem eq_of_utf8EncodeChar_append {c d : Char} {before after : List UInt8}
    (h : String.utf8EncodeChar c ++ before = String.utf8EncodeChar d ++ after) : c = d := by
  have hdecode (c : Char) (rest : List UInt8) :
      (String.utf8EncodeChar c ++ rest).toByteArray.utf8DecodeChar? 0 = some c := by
    rw [List.toByteArray_append]
    exact ByteArray.utf8DecodeChar?_utf8EncodeChar_append
  exact Option.some.inj ((hdecode c before).symm.trans (h ▸ hdecode d after))

/-- A text starts with another exactly if its bytes do. -/
theorem utf8_prefix_iff : utf8 needle <+: utf8 text ↔ needle <+: text := by
  constructor
  · intro h
    induction needle generalizing text with
    | nil => exact List.nil_prefix
    | cons d needle ih =>
      obtain ⟨after, hafter⟩ := h
      rw [utf8_cons, List.append_assoc] at hafter
      cases text with
      | nil => simp [utf8, String.utf8EncodeChar_ne_nil] at hafter
      | cons c rest =>
        rw [utf8_cons] at hafter
        obtain rfl := eq_of_utf8EncodeChar_append hafter
        exact List.cons_prefix_cons.mpr ⟨rfl, ih ⟨after, List.append_cancel_left hafter⟩⟩
  · rintro ⟨after, rfl⟩
    exact ⟨utf8 after, (utf8_append needle after).symm⟩

/-- Inside the bytes of a character no text starts. -/
theorem not_prefix_drop_utf8EncodeChar {c : Char} {b : Nat} (hb : 0 < b) (hc : b < c.utf8Size)
    (hneedle : needle ≠ []) (after : List UInt8) :
    ¬ utf8 needle <+: (String.utf8EncodeChar c).drop b ++ after := by
  intro hprefix
  obtain ⟨d, needle, rfl⟩ := List.exists_cons_of_ne_nil hneedle
  have hlength : b < (String.utf8EncodeChar c).length := by rwa [String.length_utf8EncodeChar]
  have hpos : 0 < (String.utf8EncodeChar d).length :=
    List.length_pos_iff.mpr String.utf8EncodeChar_ne_nil
  -- The byte that starts the text would start a character, and it is in the middle of one.
  have hsame : (String.utf8EncodeChar d)[0] = (String.utf8EncodeChar c)[b] := by
    rw [utf8_cons, List.drop_eq_getElem_cons hlength, List.cons_append] at hprefix
    have hget := hprefix.getElem (List.length_append ▸ Nat.add_pos_left hpos _)
    rwa [List.getElem_append_left hpos, List.getElem_cons_zero] at hget
  have hstarts : (String.utf8EncodeChar d)[0].IsUTF8FirstByte :=
    UInt8.isUTF8FirstByte_getElem_utf8EncodeChar.mpr rfl
  rw [hsame, UInt8.isUTF8FirstByte_getElem_utf8EncodeChar] at hstarts
  exact Nat.ne_of_gt hb hstarts

/-- Where the bytes of a text go on with those of another, so do its characters. -/
theorem utf8_prefix_drop_iff (hneedle : needle ≠ []) {b : Nat} :
    utf8 needle <+: (utf8 text).drop b ↔
      ∃ k, needle <+: text.drop k ∧ b = bytes (text.take k) := by
  induction text generalizing b with
  | nil =>
    have hbytes : utf8 needle ≠ [] := by
      obtain ⟨d, needle, rfl⟩ := List.exists_cons_of_ne_nil hneedle
      simp [utf8_cons, String.utf8EncodeChar_ne_nil]
    simp only [utf8, List.flatMap_nil, List.drop_nil, List.prefix_nil, hneedle, false_and,
      exists_false, iff_false]
    exact hbytes
  | cons c rest ih =>
    have hsize := c.utf8Size_pos
    rw [← Nat.or_exists_add_one, utf8_cons]
    simp only [List.drop_zero, List.take_zero, List.drop_succ_cons, List.take_succ_cons, bytes]
    rcases Nat.eq_zero_or_pos b with rfl | hb
    · rw [List.drop_zero, ← utf8_cons, utf8_prefix_iff]
      constructor
      · exact fun h => .inl ⟨h, rfl⟩
      · rintro (⟨h, -⟩ | ⟨k, -, hk⟩)
        · exact h
        · omega
    rcases Nat.lt_or_ge b c.utf8Size with hc | hc
    · rw [List.drop_append_of_le_length (by rw [String.length_utf8EncodeChar]; omega)]
      constructor
      · exact fun h => absurd h (not_prefix_drop_utf8EncodeChar hb hc hneedle _)
      · rintro (⟨-, h⟩ | ⟨k, -, hk⟩) <;> omega
    · obtain ⟨b, rfl⟩ := Nat.exists_eq_add_of_le hc
      have hdrop : (String.utf8EncodeChar c ++ utf8 rest).drop (c.utf8Size + b)
          = (utf8 rest).drop b := by
        rw [← String.length_utf8EncodeChar, List.drop_length_add_append]
      rw [hdrop, ih]
      constructor
      · rintro ⟨k, h, rfl⟩
        exact .inr ⟨k, h, rfl⟩
      · rintro (⟨-, h⟩ | ⟨k, h, hk⟩)
        · omega
        · exact ⟨k, h, Nat.add_left_cancel hk⟩

theorem utf8_infix_iff : utf8 needle <:+: utf8 text ↔ needle <:+: text := by
  constructor
  · rintro ⟨before, after, h⟩
    by_cases hneedle : needle = []
    · exact hneedle ▸ List.nil_infix
    · have hplace : utf8 needle <+: (utf8 text).drop before.length := by
        rw [← h, List.append_assoc, List.drop_left]
        exact List.prefix_append _ after
      obtain ⟨k, hk, -⟩ := (utf8_prefix_drop_iff hneedle).mp hplace
      exact hk.isInfix.trans (List.drop_suffix k text).isInfix
  · rintro ⟨before, after, rfl⟩
    exact ⟨utf8 before, utf8 after, by rw [utf8_append, utf8_append]⟩

theorem utf8_suffix_iff : utf8 needle <:+ utf8 text ↔ needle <:+ text := by
  constructor
  · rintro ⟨before, h⟩
    by_cases hneedle : needle = []
    · exact hneedle ▸ List.nil_suffix
    · have hplace : utf8 needle <+: (utf8 text).drop before.length := by
        rw [← h, List.drop_left]
      obtain ⟨k, ⟨after, hafter⟩, hk⟩ := (utf8_prefix_drop_iff hneedle).mp hplace
      -- What follows would take bytes, and there are none left.
      have hbytes : bytes after = 0 := by
        have htext : text.take k ++ (needle ++ after) = text := by
          rw [hafter, List.take_append_drop]
        have hlength := congrArg List.length h
        rw [← htext, utf8_append, utf8_append] at hlength
        simp only [List.length_append, length_utf8] at hlength
        omega
      have hnil : after = [] := by
        cases after with
        | nil => rfl
        | cons c after =>
          rw [bytes] at hbytes
          exact absurd (Nat.eq_zero_of_add_eq_zero_right hbytes) (Nat.ne_of_gt c.utf8Size_pos)
      rw [hnil, List.append_nil] at hafter
      exact hafter ▸ List.drop_suffix k text
  · rintro ⟨before, rfl⟩
    exact ⟨utf8 before, (utf8_append before needle).symm⟩

/-- The first bytes of a text that are those of another are behind the characters in front of its
first occurrence. -/
theorem firstAt_utf8_iff {b : Nat} :
    FirstAt (utf8 needle) (utf8 text) b ↔
      ∃ k, FirstAt needle text k ∧ b = bytes (text.take k) := by
  have hbytes {k : Nat} (h : FirstAt needle text k) :
      FirstAt (utf8 needle) (utf8 text) (bytes (text.take k)) := by
    by_cases hneedle : needle = []
    · subst hneedle
      rw [h.unique (firstAt_zero.mpr List.nil_prefix)]
      exact firstAt_zero.mpr List.nil_prefix
    · refine ⟨(utf8_prefix_drop_iff hneedle).mpr ⟨k, h.1, rfl⟩, fun b hb hhere => ?_⟩
      obtain ⟨j, hj, rfl⟩ := (utf8_prefix_drop_iff hneedle).mp hhere
      refine h.2 j ?_ hj
      by_contra hle
      exact absurd hb (Nat.not_lt_of_le (bytes_take_le (Nat.le_of_not_lt hle)))
  constructor
  · intro h
    obtain ⟨k, hk⟩ := exists_firstAt_iff.mpr (utf8_infix_iff.mp (exists_firstAt_iff.mp ⟨b, h⟩))
    exact ⟨k, hk, h.unique (hbytes hk)⟩
  · rintro ⟨k, hk, rfl⟩
    exact hbytes hk

end Retag.Text

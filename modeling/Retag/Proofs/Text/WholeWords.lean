import Retag.Proofs.Text.Slicing

/-!
# Whole words

The words that fit are the longest part at the start of a text that ends where a word does: where
nothing is left, or in front of a blank. A text that is cut at a place is cut back to the last blank
up to that place, which gives the words that fit. Only where the place is inside the first word
there is no blank to cut back to, and a piece of that word is left.
-/

namespace Retag.Text

/-- A part at the start of a text ends with a word: it is nothing or everything, or a blank
follows. -/
def EndsAtWord (text part : List Char) : Prop :=
  part = [] ∨ part = text ∨ part ++ [' '] <+: text

instance (text part : List Char) : Decidable (EndsAtWord text part) :=
  inferInstanceAs (Decidable (_ ∨ _ ∨ _))

/-- The longest part of at most `room` characters that ends with a word. -/
structure WordsThatFit (text : List Char) (room : Nat) (part : List Char) : Prop where
  start : part <+: text
  whole : EndsAtWord text part
  fits : part.length ≤ room
  longest : ∀ other, other <+: text → EndsAtWord text other → other.length ≤ room →
    other.length ≤ part.length

/-- A place with characters on both sides, and no blank behind it or anywhere in front. -/
def InFirstWord (text : List Char) (place : Nat) : Prop :=
  0 < place ∧ place < text.length ∧ ' ' ∉ text.take (place + 1)

instance (text : List Char) (place : Nat) : Decidable (InFirstWord text place) :=
  inferInstanceAs (Decidable (_ ∧ _ ∧ _))

/-- The part in front of the last blank that is not behind a place; everything in front of the place
if there is none. -/
def cutAtWord (text : List Char) (room : Nat) : List Char :=
  if text.length ≤ room then text
  else (beforeLast? ' ' (text.take (room + 1))).getD (text.take room)

section Cut

variable {text part before word : List Char} {room : Nat}

theorem wordsThatFit_whole (h : text.length ≤ room) : WordsThatFit text room text :=
  ⟨List.prefix_rfl, .inr (.inl rfl), h, fun _ hother _ _ => hother.length_le⟩

theorem wordsThatFit_nil (text : List Char) : WordsThatFit text 0 [] :=
  ⟨List.nil_prefix, .inl rfl, Nat.le_refl 0, fun _ _ _ hfits => hfits⟩

/-- No part that ends with a word goes further than to the last blank. -/
theorem length_le_of_blank (hword : ' ' ∉ word)
    (h : part ++ [' '] <+: before ++ ' ' :: word) : part.length ≤ before.length := by
  obtain ⟨rest, hrest⟩ := h
  by_contra hlonger
  have hblank : (before ++ ' ' :: word)[part.length]? = some ' ' := by
    rw [← hrest, List.append_assoc, List.getElem?_append_right (Nat.le_refl _), Nat.sub_self]
    rfl
  obtain ⟨k, hk⟩ : ∃ k, part.length - before.length = k + 1 :=
    Nat.exists_eq_succ_of_ne_zero (by omega)
  rw [List.getElem?_append_right (by omega), hk, List.getElem?_cons_succ] at hblank
  exact hword (List.mem_of_getElem? hblank)

theorem wordsThatFit_of_blank (hroom : room < text.length)
    (h : text.take (room + 1) = part ++ ' ' :: word) (hword : ' ' ∉ word) :
    WordsThatFit text room part := by
  have hcut : part ++ [' '] <+: text := by
    refine List.IsPrefix.trans ?_ (List.take_prefix (room + 1) text)
    exact ⟨word, by rw [h, List.append_assoc, List.singleton_append]⟩
  have hlength : part.length + (word.length + 1) = room + 1 := by
    have hboth := congrArg List.length h
    rw [List.length_take_of_le hroom, List.length_append, List.length_cons] at hboth
    exact hboth.symm
  refine ⟨(List.prefix_append part [' ']).trans hcut, .inr (.inr hcut), by omega, ?_⟩
  rintro other - (rfl | rfl | hother) hfits
  · exact Nat.zero_le _
  · omega
  · refine length_le_of_blank hword ?_
    rw [← h]
    exact List.prefix_take_iff.mpr ⟨hother, by simpa using hfits⟩

/-- Inside the first word there is no end of a word but the start of the text. -/
theorem not_endsAtWord_take (h : InFirstWord text room) : ¬ EndsAtWord text (text.take room) := by
  obtain ⟨hpos, hroom, hblank⟩ := h
  have hlength : (text.take room).length = room := List.length_take_of_le (Nat.le_of_lt hroom)
  rintro (hnil | hwhole | hfollows)
  · rw [hnil, List.length_nil] at hlength
    omega
  · rw [hwhole] at hlength
    omega
  · refine hblank ?_
    have hinside : text.take room ++ [' '] <+: text.take (room + 1) :=
      List.prefix_take_iff.mpr ⟨hfollows, by simp⟩
    exact hinside.subset (by simp)

theorem cutAtWord_of_inFirstWord (h : InFirstWord text room) :
    cutAtWord text room = text.take room := by
  obtain ⟨-, hroom, hblank⟩ := h
  rw [cutAtWord, if_neg (by omega), beforeLast?_eq_none hblank, Option.getD_none]

theorem wordsThatFit_cutAtWord (h : ¬ InFirstWord text room) :
    WordsThatFit text room (cutAtWord text room) := by
  rw [cutAtWord]
  split
  case isTrue hwhole => exact wordsThatFit_whole hwhole
  case isFalse hroom =>
    rcases exists_last ' ' (text.take (room + 1)) with hnone | ⟨part, word, hcut, hword⟩
    · -- Without a blank the place is at the start of the text.
      obtain rfl : room = 0 := by
        by_contra hpos
        exact h ⟨Nat.pos_of_ne_zero hpos, by omega, hnone⟩
      rw [beforeLast?_eq_none hnone, Option.getD_none, List.take_zero]
      exact wordsThatFit_nil text
    · rw [hcut, beforeLast?_append_cons hword, Option.getD_some]
      exact wordsThatFit_of_blank (by omega) hcut hword

/-- Inside the first word, and only there, the cut part does not end with a word. -/
theorem endsAtWord_cutAtWord_iff :
    EndsAtWord text (cutAtWord text room) ↔ ¬ InFirstWord text room := by
  refine ⟨fun hends hinside => ?_, fun h => (wordsThatFit_cutAtWord h).whole⟩
  rw [cutAtWord_of_inFirstWord hinside] at hends
  exact not_endsAtWord_take hinside hends

theorem isPrefix_cutAtWord (text : List Char) (room : Nat) : cutAtWord text room <+: text := by
  by_cases h : InFirstWord text room
  · rw [cutAtWord_of_inFirstWord h]
    exact List.take_prefix room text
  · exact (wordsThatFit_cutAtWord h).start

theorem length_cutAtWord_le (text : List Char) (room : Nat) :
    (cutAtWord text room).length ≤ room := by
  by_cases h : InFirstWord text room
  · rw [cutAtWord_of_inFirstWord h]
    exact List.length_take_le room text
  · exact (wordsThatFit_cutAtWord h).fits

theorem cutAtWord_zero (text : List Char) : cutAtWord text 0 = [] :=
  List.eq_nil_of_length_eq_zero (Nat.le_zero.mp (length_cutAtWord_le text 0))

/-- A place behind which a blank follows needs no going back. -/
theorem cutAtWord_eq {next : Char} (hnext : text[room]? = some next) :
    cutAtWord text room = if next = ' ' then text.take room
      else (beforeLast? ' ' (text.take room)).getD (text.take room) := by
  obtain ⟨hroom, rfl⟩ := List.getElem?_eq_some_iff.mp hnext
  rw [cutAtWord, if_neg (by omega), List.take_succ_eq_append_getElem hroom, beforeLast?_concat]
  split <;> rfl

end Cut

/-- An index that stands for an element is the bound in front of it. -/
theorem clampBound_of_resolveIndex {len k : Nat} {n : Int} (h : resolveIndex len n = some k) :
    clampBound len n = k := by
  obtain ⟨hrange, hk⟩ := resolveIndex_eq_some_iff.mp h
  unfold clampBound
  split at hk <;> split <;> omega

/-- Behind no bound that is inside, there is nothing but the start. -/
theorem clampBound_of_none {len : Nat} {n : Int} (hn : n < len) (h : resolveIndex len n = none) :
    clampBound len n = 0 := by
  have houtside : ¬ (-len ≤ n ∧ n < len) := by
    rw [← resolveIndex_isSome_iff, h]
    exact Bool.false_ne_true
  unfold clampBound
  split <;> omega

end Retag.Text

/-! ## Words of texts -/

namespace Retag.Library

open Script Retag.Text

namespace Texts

variable {number : String} {n : Int}

/-- The words of a text are cut off at the bound that the length is. -/
theorem toList_firstWords (h : CountsAs number n) (text : String) :
    (firstWords text number).toList = cutAtWord text.toList (clampBound text.length n) := by
  rw [firstWords, countsAs_iff.mp h]
  dsimp only
  rw [slice_to, String.length_toList]
  split
  case isTrue hfits =>
    have hwhole : clampBound text.length n = text.length := by
      unfold clampBound
      split <;> omega
    rw [hwhole, cutAtWord, String.length_toList, if_pos (Nat.le_refl _)]
  case isFalse hlonger =>
    rcases hplace : resolveIndex text.length n with - | k
    · rw [clampBound_of_none (by omega) hplace, cutAtWord_zero]
      rfl
    · have hk : k < text.toList.length := String.length_toList ▸ resolveIndex_lt hplace
      have hnext : text.toList[k]? = some text.toList[k] := List.getElem?_eq_getElem hk
      rw [clampBound_of_resolveIndex hplace, cutAtWord_eq hnext, Option.bind_some, hnext]
      dsimp only
      split <;> exact String.toList_ofList

end Texts

/-- What is left of a text is a part at its start, which is not longer than a length that is not
below zero. It ends with a word unless the length ends inside the first word: then it is a piece of
that word, and otherwise the longest part that ends with a word and is not longer. A length below
zero is counted from the end, and one that is no integer is zero. -/
theorem words_fit (t a : Tree) (position : Position) (text number : String) (n : Int)
    (hn : CountsAs number n) :
    let part := (Texts.firstWords text number).toList
    let room := clampBound text.length n
    evalTree standard [.call "firstwords" [t, a] position] = (do
      let text ← evalTree standard t
      let number ← evalTree standard a
      return Texts.firstWords text number) ∧
    part <+: text.toList ∧ (0 ≤ n → (part.length : Int) ≤ n) ∧
    (EndsAtWord text.toList part ↔ ¬ InFirstWord text.toList room) ∧
    (¬ InFirstWord text.toList room → WordsThatFit text.toList room part) ∧
    (InFirstWord text.toList room → part = text.toList.take room) := by
  intro part room
  have hpart : part = cutAtWord text.toList room := Texts.toList_firstWords hn text
  rw [hpart]
  refine ⟨evalTree_ofTwo ((find?_standard _).trans rfl) position, isPrefix_cutAtWord _ _,
    fun hpos => ?_, endsAtWord_cutAtWord_iff, wordsThatFit_cutAtWord, cutAtWord_of_inFirstWord⟩
  have hlength := length_cutAtWord_le text.toList room
  have hroom : (room : Int) ≤ n := by
    simp only [room, clampBound]
    split <;> omega
  omega

/-- A length that ends in front of a blank, one inside a later word that is counted from the end,
and one inside the first word. -/
theorem words_fit_later :
    let text := "Once upon a time"
    let words (number : String) := (Texts.firstWords text number).toList
    (CountsAs "9" 9 ∧ (words "9").length ≤ (9 : Int) ∧ ¬ InFirstWord text.toList 9 ∧
      words "9" = "Once upon".toList ∧ WordsThatFit text.toList 9 (words "9")) ∧
    (CountsAs " -2" (-2) ∧ ¬ InFirstWord text.toList 14 ∧
      words " -2" = "Once upon a".toList ∧ WordsThatFit text.toList 14 (words " -2")) ∧
    CountsAs "+3" 3 ∧ InFirstWord text.toList 3 ∧
      words "+3" = "Onc".toList ∧ ¬ EndsAtWord text.toList (words "+3") := by
  intro text words
  have hblank : CountsAs "9" 9 := countsAs_iff.mpr (by decide)
  have hlater : CountsAs " -2" (-2) := countsAs_iff.mpr (by decide)
  have hfirst : CountsAs "+3" 3 := countsAs_iff.mpr (by decide)
  have hnine : clampBound text.length 9 = 9 := by decide
  have hfourteen : clampBound text.length (-2) = 14 := by decide
  have hthree : clampBound text.length 3 = 3 := by decide
  obtain ⟨-, -, hlength, -, hfits, -⟩ := words_fit [] [] .start text "9" 9 hblank
  obtain ⟨-, -, -, -, hfits', -⟩ := words_fit [] [] .start text " -2" (-2) hlater
  obtain ⟨-, -, -, hends, -, hpiece⟩ := words_fit [] [] .start text "+3" 3 hfirst
  rw [hnine] at hfits
  rw [hfourteen] at hfits'
  rw [hthree] at hends hpiece
  have hinside : InFirstWord text.toList 3 := by decide
  refine ⟨⟨hblank, hlength (by decide), by decide, by decide, hfits (by decide)⟩,
    ⟨hlater, by decide, by decide, hfits' (by decide)⟩, hfirst, hinside, ?_, fun hword => ?_⟩
  · exact (hpiece hinside).trans (by decide)
  · exact hends.mp hword hinside

/-- A length inside the first word leaves no whole word. -/
theorem first_word_cut :
    ¬ ∀ text number, EndsAtWord text.toList (Texts.firstWords text number).toList := by
  intro h
  exact absurd (h "abcdef" "3") (by decide)

end Retag.Library

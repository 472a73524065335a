import Retag.Text.Search
import Retag.Text.Slice

/-!
# Places in lists and texts

Whatever the integers, the places that they are turned into are inside the list, and a range of
places is in order and ends with the list at the latest. A search ends inside the text too, and at
the end of a character if its result is counted in bytes.
-/

namespace Retag.Text

variable {α : Type}

/-! ## Indexes and ranges -/

/-- An index denotes an element, if anything. -/
theorem resolveIndex_lt {len place : Nat} {index : Int} (h : resolveIndex len index = some place) :
    place < len := by
  unfold resolveIndex at h
  split at h
  case isTrue hneg =>
    -- A negative index counts back by one at least.
    split at h
    · cases h
      omega
    · cases h
  case isFalse _ =>
    split at h
    · cases h
      assumption
    · cases h

theorem clampBound_le (len : Nat) (bound : Int) : clampBound len bound ≤ len := by
  unfold clampBound
  split
  · exact Nat.sub_le len bound.natAbs
  · exact Nat.min_le_right bound.toNat len

theorem sliceRange_ordered (len : Nat) (start stop : Option Int) :
    (sliceRange len start stop).1 ≤ (sliceRange len start stop).2 :=
  Nat.le_max_left _ _

theorem sliceRange_le (len : Nat) (start stop : Option Int) :
    (sliceRange len start stop).2 ≤ len := by
  refine Nat.max_le.mpr ⟨?_, ?_⟩
  · cases start with
    | none => exact Nat.zero_le len
    | some bound => exact clampBound_le len bound
  · cases stop with
    | none => exact Nat.le_refl len
    | some bound => exact clampBound_le len bound

/-- The elements from the first place of a range up to its last; none if the range is reversed or
ends behind the list. -/
def between? (range : Nat × Nat) (xs : List α) : Option (List α) :=
  if range.1 ≤ range.2 ∧ range.2 ≤ xs.length then
    some ((xs.drop range.1).take (range.2 - range.1))
  else none

theorem between?_sliceRange (start stop : Option Int) (xs : List α) :
    between? (sliceRange xs.length start stop) xs = some (slice start stop xs) :=
  if_pos ⟨sliceRange_ordered _ start stop, sliceRange_le _ start stop⟩

theorem between?_tail (x : α) (xs : List α) :
    between? (1, (x :: xs).length) (x :: xs) = some xs := by
  have hrange : 1 ≤ xs.length + 1 ∧ xs.length + 1 ≤ xs.length + 1 := ⟨by omega, Nat.le_refl _⟩
  rw [between?, List.length_cons, if_pos hrange, List.drop_one, List.tail_cons,
    Nat.add_sub_cancel, List.take_length]

/-! ## Places in bytes -/

/-- The bytes that characters take. -/
def bytes : List Char → Nat
  | [] => 0
  | c :: rest => c.utf8Size + bytes rest

/-- A text cut behind a number of bytes; none if that is inside a character or behind the text. -/
def cutBytes? : Nat → List Char → Option (List Char × List Char)
  | 0, text => some ([], text)
  | _ + 1, [] => none
  | n + 1, c :: rest =>
    if c.utf8Size ≤ n + 1 then
      (cutBytes? (n + 1 - c.utf8Size) rest).map fun (before, after) => (c :: before, after)
    else none

/-- A text can be cut behind the bytes of its first characters. -/
theorem cutBytes?_append (before after : List Char) :
    cutBytes? (bytes before) (before ++ after) = some (before, after) := by
  induction before with
  | nil => rw [bytes, cutBytes?, List.nil_append]
  | cons c before ih =>
    obtain ⟨n, hn⟩ : ∃ n, c.utf8Size + bytes before = n + 1 :=
      ⟨_, (Nat.succ_pred_eq_of_pos (Nat.add_pos_left c.utf8Size_pos _)).symm⟩
    have hle : c.utf8Size ≤ n + 1 := by omega
    have hrest : n + 1 - c.utf8Size = bytes before := by omega
    rw [bytes, hn, List.cons_append, cutBytes?, if_pos hle, hrest, ih, Option.map_some]

/-- How many bytes stand before the first occurrence of `needle`. -/
def byteOf? (needle : List Char) : List Char → Option Nat
  | [] => if needle.isEmpty then some 0 else none
  | c :: rest =>
    if needle.isPrefixOf (c :: rest) then some 0 else (byteOf? needle rest).map (c.utf8Size + ·)

/-- A search in bytes finds the bytes of the characters that a search in characters finds. -/
theorem byteOf?_eq (needle text : List Char) :
    byteOf? needle text = (indexOf? needle text).map fun n => bytes (text.take n) := by
  induction text with
  | nil =>
    rw [byteOf?, indexOf?]
    split <;> rfl
  | cons c rest ih =>
    rw [byteOf?, indexOf?]
    split
    · rfl
    · rw [ih, Option.map_map, Option.map_map]
      rfl

theorem indexOf?_le {needle text : List Char} {n : Nat} (h : indexOf? needle text = some n) :
    n ≤ text.length := by
  induction text generalizing n with
  | nil =>
    rw [indexOf?] at h
    split at h
    · exact Nat.le_of_eq (Option.some.inj h).symm
    · cases h
  | cons c rest ih =>
    rw [indexOf?] at h
    split at h
    · exact Option.some.inj h ▸ Nat.zero_le _
    · obtain ⟨m, hm, rfl⟩ := Option.map_eq_some_iff.mp h
      exact Nat.succ_le_succ (ih hm)

/-- Where a search ends a text can be cut, and the part before is as long as the search says. -/
theorem cutBytes?_byteOf? {needle text : List Char} {n : Nat}
    (h : indexOf? needle text = some n) :
    ∃ byte before after, byteOf? needle text = some byte ∧
      cutBytes? byte text = some (before, after) ∧ before.length = n := by
  refine ⟨bytes (text.take n), text.take n, text.drop n, ?_, ?_, ?_⟩
  · rw [byteOf?_eq, h, Option.map_some]
  · have hcut := cutBytes?_append (text.take n) (text.drop n)
    rwa [List.take_append_drop] at hcut
  · exact List.length_take_of_le (indexOf?_le h)

end Retag.Text

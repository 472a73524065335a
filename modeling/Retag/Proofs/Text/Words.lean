import Mathlib.Algebra.Ring.Int.Defs
import Mathlib.Algebra.Ring.Nat
import Retag.Proofs.Text.Bounds

/-!
# Index arithmetic on words

Indexes and bounds are signed words of sixty-four bits, and lengths are unsigned ones. Computed on
words, with every branch that keeps a word from running over, places and ranges are those that are
computed on integers. The one bound that is not exact is the negation of the least word, and no
sequence is long enough to tell.
-/

namespace Retag.Text

/-! ## Words -/

/-- A signed word is its unsigned one, less the size of a word if that is in the upper half. -/
theorem toInt_eq_cond (n : Int64) :
    n.toInt = if n.toUInt64.toNat < 2 ^ 63 then (n.toUInt64.toNat : Int)
      else n.toUInt64.toNat - 2 ^ 64 := by
  have h := n.toBitVec.toInt_eq_toNat_cond
  have hword : n.toBitVec.toNat = n.toUInt64.toNat := n.toNat_toBitVec
  rw [hword] at h
  have hsigned : n.toInt = n.toBitVec.toInt := rfl
  rw [hsigned, h]
  split <;> split <;> omega

theorem lt_zero_iff (n : Int64) : n < 0 ↔ n.toInt < 0 := Int64.lt_iff_toInt_lt

/-- How far a signed word is from zero, which is too far for a signed one if it is the least. -/
def magnitude (n : Int64) : UInt64 := if n < 0 then (-n).toUInt64 else n.toUInt64

theorem toNat_magnitude (n : Int64) : (magnitude n).toNat = n.toInt.natAbs := by
  have hvalue := toInt_eq_cond n
  have hlt := n.toUInt64.toNat_lt
  rw [magnitude]
  split
  · next h =>
    have hneg : n.toInt < 0 := (lt_zero_iff n).mp h
    have hsize : UInt64.size = 2 ^ 64 := rfl
    rw [Int64.toUInt64_neg, UInt64.toNat_neg, hsize]
    omega
  · next h =>
    have hpos : ¬ n.toInt < 0 := mt (lt_zero_iff n).mpr h
    omega

theorem toNat_toUInt64 {n : Int64} (h : ¬ n < 0) : n.toUInt64.toNat = n.toInt.toNat := by
  have hmagnitude := toNat_magnitude n
  rw [magnitude, if_neg h] at hmagnitude
  have hpos : ¬ n.toInt < 0 := mt (lt_zero_iff n).mpr h
  omega

/-- The negation of a word, and the greatest word for the least one. -/
def negated (n : Int64) : Int64 := if n = Int64.minValue then Int64.maxValue else -n

theorem toInt_negated (n : Int64) : (negated n).toInt = min (-n.toInt) (2 ^ 63 - 1) := by
  have hlow := n.le_toInt
  have hhigh := n.toInt_lt
  rw [negated]
  split
  · next h =>
    subst h
    decide
  · next h =>
    have hne : n.toInt ≠ -2 ^ 63 := fun heq => h (Int64.toInt_inj.mp heq)
    rw [Int64.toInt_neg, Int.bmod_eq_of_le (by omega) (by omega)]
    omega

/-! ## Places and ranges -/

/-- The place that an index denotes. -/
def wordIndex (len : UInt64) (index : Int64) : Option UInt64 :=
  if index < 0 then
    if magnitude index ≤ len then some (len - magnitude index) else none
  else if index.toUInt64 < len then some index.toUInt64 else none

/-- A bound as a place between the ends; what would be in front of the start is the start. -/
def wordBound (len : UInt64) (bound : Int64) : UInt64 :=
  if bound < 0 then
    if magnitude bound ≤ len then len - magnitude bound else 0
  else if bound.toUInt64 ≤ len then bound.toUInt64 else len

/-- A range that would end in front of its start is empty. -/
def wordRange (len : UInt64) (start stop : Option Int64) : UInt64 × UInt64 :=
  let first := (start.map (wordBound len)).getD 0
  let last := (stop.map (wordBound len)).getD len
  if last ≤ first then (first, first) else (first, last)

theorem toNat_wordIndex (len : UInt64) (index : Int64) :
    (wordIndex len index).map UInt64.toNat = resolveIndex len.toNat index.toInt := by
  rw [wordIndex, resolveIndex]
  simp only [lt_zero_iff index]
  split
  · simp only [UInt64.le_iff_toNat_le, toNat_magnitude]
    split
    · next h =>
      have hle : magnitude index ≤ len := UInt64.le_iff_toNat_le.mpr (toNat_magnitude index ▸ h)
      rw [Option.map_some, UInt64.toNat_sub_of_le _ _ hle, toNat_magnitude]
    · rfl
  · next h =>
    have hindex : index.toUInt64.toNat = index.toInt.toNat :=
      toNat_toUInt64 (mt (lt_zero_iff index).mp h)
    simp only [UInt64.lt_iff_toNat_lt, hindex]
    split
    · rw [Option.map_some, hindex]
    · rfl

theorem toNat_wordBound (len : UInt64) (bound : Int64) :
    (wordBound len bound).toNat = clampBound len.toNat bound.toInt := by
  rw [wordBound, clampBound]
  simp only [lt_zero_iff bound]
  split
  · simp only [UInt64.le_iff_toNat_le, toNat_magnitude]
    split
    · next h =>
      have hle : magnitude bound ≤ len := UInt64.le_iff_toNat_le.mpr (toNat_magnitude bound ▸ h)
      rw [UInt64.toNat_sub_of_le _ _ hle, toNat_magnitude]
    · next h =>
      rw [UInt64.toNat_zero]
      omega
  · next h =>
    have hbound : bound.toUInt64.toNat = bound.toInt.toNat :=
      toNat_toUInt64 (mt (lt_zero_iff bound).mp h)
    simp only [UInt64.le_iff_toNat_le, hbound]
    split
    · rw [hbound]
      omega
    · omega

/-- A range on words is the range on the integers that they stand for. -/
theorem toNat_wordRange (len : UInt64) (start stop : Option Int64) :
    ((wordRange len start stop).1.toNat, (wordRange len start stop).2.toNat)
      = sliceRange len.toNat (start.map Int64.toInt) (stop.map Int64.toInt) := by
  have hfirst : ((start.map (wordBound len)).getD 0).toNat
      = ((start.map Int64.toInt).map (clampBound len.toNat)).getD 0 := by
    cases start with
    | none => rfl
    | some bound => exact toNat_wordBound len bound
  have hlast : ((stop.map (wordBound len)).getD len).toNat
      = ((stop.map Int64.toInt).map (clampBound len.toNat)).getD len.toNat := by
    cases stop with
    | none => rfl
    | some bound => exact toNat_wordBound len bound
  rw [wordRange, sliceRange, ← hfirst, ← hlast]
  simp only [UInt64.le_iff_toNat_le]
  split
  · next h => rw [Nat.max_eq_left h]
  · next h => rw [Nat.max_eq_right (Nat.le_of_not_le h)]

/-- The least word may be negated inexactly: all sequences are shorter. -/
theorem clampBound_negated {len : Nat} (hlen : len < 2 ^ 63) (n : Int64) :
    clampBound len (negated n).toInt = clampBound len (-n.toInt) := by
  rw [toInt_negated]
  unfold clampBound
  split <;> split <;> omega

end Retag.Text

import Retag.Proofs.Running.ValueCalls
import Retag.Proofs.Text.Numerals
import Retag.Proofs.Text.Words

/-!
# Padding

A text that is too short is filled up by as many fillers as it lacks characters, or not at all if
these would take too many bytes. How many it lacks, and how many bytes they take, is computed on
words, each step of which keeps a word from running over; the result is the one on integers.
-/

namespace Retag.Text

/-- How many characters a text of `count` characters lacks. -/
def missing (length : Int) (count : Nat) : Int := max 0 (length - count)

/-! ## Words -/

section Words

/-- A count as a signed word, or the greatest one. -/
def signedCount (n : UInt64) : Int64 :=
  if n ≤ Int64.maxValue.toUInt64 then n.toInt64 else Int64.maxValue

/-- The difference of signed words, or the word that is nearest to it. -/
def difference (a b : Int64) : Int64 :=
  if b < 0 then
    if Int64.maxValue + b < a then Int64.maxValue else a - b
  else if a < Int64.minValue + b then Int64.minValue else a - b

/-- A signed word as a count; zero if it is below. -/
def countOf (n : Int64) : UInt64 := if n < 0 then 0 else n.toUInt64

/-- The product of two counts, if it is a word. -/
def product? (a b : UInt64) : Option UInt64 :=
  if b = 0 then some 0
  else if a ≤ 0xffffffffffffffff / b then some (a * b) else none

/-- How many fillers of `size` bytes a text of `count` characters gets, if they are not too many. -/
def wordFillers? (size count : UInt64) (length : Int64) : Option UInt64 :=
  let missing := countOf (difference length (signedCount count))
  if (product? size missing).any (· ≤ 65536) then some missing else none

theorem toInt_signedCount (n : UInt64) :
    (signedCount n).toInt = min (n.toNat : Int) (2 ^ 63 - 1) := by
  have hmax : Int64.maxValue.toUInt64.toNat = 2 ^ 63 - 1 := by decide
  have hword : n.toInt64.toUInt64 = n := rfl
  rw [signedCount]
  simp only [UInt64.le_iff_toNat_le, hmax]
  split
  · rw [toInt_eq_cond, hword]
    split <;> omega
  · rw [Int64.toInt_maxValue]
    omega

theorem toInt_difference (a b : Int64) :
    (difference a b).toInt = max (-2 ^ 63) (min (2 ^ 63 - 1) (a.toInt - b.toInt)) := by
  have halow := a.le_toInt
  have hahigh := a.toInt_lt
  have hblow := b.le_toInt
  have hbhigh := b.toInt_lt
  rw [difference]
  simp only [lt_zero_iff b, Int64.lt_iff_toInt_lt, Int64.toInt_add, Int64.toInt_maxValue,
    Int64.toInt_minValue]
  split
  case isTrue hneg =>
    rw [Int.bmod_eq_of_le (by omega) (by omega)]
    split
    · rw [Int64.toInt_maxValue]
      omega
    · rw [Int64.toInt_sub, Int.bmod_eq_of_le (by omega) (by omega)]
      omega
  case isFalse hpos =>
    rw [Int.bmod_eq_of_le (by omega) (by omega)]
    split
    · rw [Int64.toInt_minValue]
      omega
    · rw [Int64.toInt_sub, Int.bmod_eq_of_le (by omega) (by omega)]
      omega

theorem toNat_countOf (n : Int64) : (countOf n).toNat = n.toInt.toNat := by
  rw [countOf]
  split
  · next h =>
    have hneg := (lt_zero_iff n).mp h
    rw [UInt64.toNat_zero]
    omega
  · next h => exact toNat_toUInt64 h

theorem toNat_product? (a b : UInt64) :
    (product? a b).map UInt64.toNat
      = if a.toNat * b.toNat < 2 ^ 64 then some (a.toNat * b.toNat) else none := by
  have hmax : (0xffffffffffffffff : UInt64).toNat = 2 ^ 64 - 1 := by decide
  rw [product?]
  split
  · next h =>
    subst h
    simp
  · next h =>
    have hpos : 0 < b.toNat := Nat.pos_of_ne_zero fun hzero => h (UInt64.toNat_inj.mp hzero)
    have hfits : a ≤ 0xffffffffffffffff / b ↔ a.toNat * b.toNat < 2 ^ 64 := by
      rw [UInt64.le_iff_toNat_le, UInt64.toNat_div, Nat.le_div_iff_mul_le hpos, hmax]
      omega
    simp only [hfits]
    split
    · next hlt => rw [Option.map_some, UInt64.toNat_mul, Nat.mod_eq_of_lt hlt]
    · rfl

/-- However many characters a text has, the words give what it lacks. -/
theorem toNat_missing (count : UInt64) (length : Int64) :
    ((countOf (difference length (signedCount count))).toNat : Int)
      = missing length.toInt count.toNat := by
  have hlow := length.le_toInt
  have hhigh := length.toInt_lt
  rw [toNat_countOf, toInt_difference, toInt_signedCount, missing]
  omega

theorem product?_any (a b : UInt64) :
    (product? a b).any (· ≤ 65536) = true ↔ a.toNat * b.toNat ≤ 65536 := by
  have hvalue := toNat_product? a b
  split at hvalue
  · obtain ⟨c, hc, hproduct⟩ := Option.map_eq_some_iff.mp hvalue
    rw [hc, Option.any_some, decide_eq_true_eq, UInt64.le_iff_toNat_le, hproduct]
    exact Iff.rfl
  · rw [Option.map_eq_none_iff.mp hvalue]
    simp only [Option.any_none, Bool.false_eq_true, false_iff]
    omega

/-- The fillers on words are those on the integers that they stand for. -/
theorem toNat_wordFillers? (size count : UInt64) (length : Int64) :
    (wordFillers? size count length).map (fun m => (m.toNat : Int))
      = if missing length.toInt count.toNat * size.toNat ≤ 65536
        then some (missing length.toInt count.toNat) else none := by
  have hbytes : missing length.toInt count.toNat * size.toNat ≤ 65536
      ↔ size.toNat * (countOf (difference length (signedCount count))).toNat ≤ 65536 := by
    rw [← toNat_missing, ← Int.natCast_mul, Nat.mul_comm]
    exact Int.ofNat_le
  simp only [wordFillers?, product?_any, hbytes]
  split
  · rw [Option.map_some, toNat_missing]
  · rfl

end Words

end Retag.Text

namespace Retag.Library

open Script Retag.Text

namespace Texts

variable {text number filler : String} {n : Int}

/-! ## Fillers -/

theorem repeated_eq_join (text : String) (n : Nat) :
    repeated text n = String.join (List.replicate n text) := by
  rw [repeated]
  split
  case isTrue hempty =>
    obtain rfl : text = "" := String.isEmpty_iff.mp hempty
    induction n with
    | zero => rfl
    | succ n ih => rw [List.replicate_succ, String.join_cons, ← ih, String.append_empty]
  case isFalse => rfl

theorem toList_repeated (text : String) (n : Nat) :
    (repeated text n).toList = (List.replicate n text.toList).flatten := by
  rw [repeated_eq_join, String.toList_join, List.flatMap, List.map_replicate]

theorem length_repeated (text : String) (n : Nat) : (repeated text n).length = n * text.length := by
  rw [← String.length_toList, toList_repeated, List.length_flatten, List.map_replicate,
    List.sum_replicate_nat, String.length_toList]

theorem utf8ByteSize_repeated (text : String) (n : Nat) :
    (repeated text n).utf8ByteSize = n * text.utf8ByteSize := by
  rw [repeated_eq_join]
  induction n with
  | zero => simp
  | succ n ih =>
    rw [List.replicate_succ, String.join_cons, String.utf8ByteSize_append, ih, Nat.succ_mul,
      Nat.add_comm]

/-! ## Padded texts -/

/-- What a text is when it is filled up to `n` characters. -/
structure Pads (text filler : String) (n : Int) (result : String) : Prop where
  filled : missing n text.length * filler.utf8ByteSize ≤ 65536 → result.toList =
    (List.replicate (missing n text.length).toNat filler.toList).flatten ++ text.toList
  refused : 65536 < missing n text.length * filler.utf8ByteSize → result = ""
  bounded : result.utf8ByteSize ≤ text.utf8ByteSize + 65536
  /-- A filler of one character fills up exactly. -/
  exact_length : filler.length = 1 → missing n text.length * filler.utf8ByteSize ≤ 65536 →
    (result.length : Int) = max n text.length

theorem pad_of_none (h : ¬ ∃ n, Writes number n ∧ Fits n) (text filler : String) :
    pad text number filler = "" := by
  rw [pad, readInteger?_eq_none_iff.mpr h]

theorem pad_eq (h : readInteger? number = some n) (text filler : String) :
    pad text number filler
      = if missing n text.length * filler.utf8ByteSize ≤ 65536
        then repeated filler (missing n text.length).toNat ++ text else "" := by
  have hmissing : (missing n text.length).toNat = (n - text.length).toNat := by
    rw [missing]
    omega
  have hbytes : filler.utf8ByteSize * (n - text.length).toNat ≤ maxPadding
      ↔ missing n text.length * filler.utf8ByteSize ≤ 65536 := by
    have hcast : missing n text.length = ((n - text.length).toNat : Int) := by
      rw [missing]
      omega
    rw [hcast, ← Int.natCast_mul, Nat.mul_comm]
    exact Int.ofNat_le.symm
  rw [pad, h]
  simp only [hbytes, hmissing]

theorem pads (h : readInteger? number = some n) (text filler : String) :
    Pads text filler n (pad text number filler) := by
  rw [pad_eq h]
  split
  case isTrue hfits =>
    have hbytes : (missing n text.length).toNat * filler.utf8ByteSize ≤ 65536 := by
      have hcast : ((missing n text.length).toNat : Int) = missing n text.length :=
        Int.toNat_of_nonneg (Int.le_max_left _ _)
      rw [← hcast, ← Int.natCast_mul] at hfits
      exact Int.ofNat_le.mp hfits
    refine ⟨fun _ => ?_, fun hrefused => absurd hfits (by omega), ?_, fun hsingle _ => ?_⟩
    · rw [String.toList_append, toList_repeated]
    · rw [String.utf8ByteSize_append, utf8ByteSize_repeated]
      omega
    · rw [String.length_append, length_repeated, hsingle, Nat.mul_one]
      rw [missing]
      omega
  case isFalse hlarge =>
    exact ⟨fun hfits => absurd hfits hlarge, fun _ => rfl, Nat.zero_le _,
      fun _ hfits => absurd hfits hlarge⟩

end Texts

/-- A text is padded by as many fillers as it lacks characters if these take 65536 bytes at most;
if they would take more, or the length is no integer of sixty-four bits, nothing is left. How many
they are and whether they are too many comes out on words as it does on integers. So a result is
never more than 65536 bytes longer than the text, and fillers of one character make it exactly as
long as asked. -/
theorem padding_exact :
    (∀ t a b position,
      evalTree standard [.call "pad" [t, a, b] position] = (do
        let text ← evalTree standard t
        let number ← evalTree standard a
        let filler ← evalTree standard b
        return Texts.pad text number filler)) ∧
    (∀ (size count : UInt64) (length : Int64),
      (wordFillers? size count length).map (fun m => (m.toNat : Int))
        = if missing length.toInt count.toNat * size.toNat ≤ 65536
          then some (missing length.toInt count.toNat) else none) ∧
    ∀ text number filler,
      ((¬ ∃ n, Writes number n ∧ Fits n) → Texts.pad text number filler = "") ∧
      ∀ n, Writes number n → Fits n → Texts.Pads text filler n (Texts.pad text number filler) := by
  refine ⟨fun t a b position => ?_, toNat_wordFillers?, fun text number filler => ⟨?_, ?_⟩⟩
  · exact evalTree_ofThree ((find?_standard _).trans rfl) position
  · exact fun hnone => Texts.pad_of_none hnone text filler
  · exact fun n hwrites hfits =>
      Texts.pads (readInteger?_eq_some_iff.mpr ⟨hwrites, hfits⟩) text filler

/-- A length that is no integer, the greatest integer, and a filler of one character and two
bytes. -/
theorem padding_exact_greatest :
    let greatest := "9223372036854775807"
    (¬ ∃ n, Writes "x" n ∧ Fits n) ∧ Texts.pad "7" "x" "0" = "" ∧
    Writes greatest (2 ^ 63 - 1) ∧ Fits (2 ^ 63 - 1) ∧
    65536 < missing (2 ^ 63 - 1) "x".length * ("ab".utf8ByteSize : Int) ∧
    Texts.pad "x" greatest "ab" = "" ∧
    Writes " +5" 5 ∧ Fits 5 ∧ "é".length = 1 ∧
    missing 5 "né".length * ("é".utf8ByteSize : Int) ≤ 65536 ∧
    (Texts.pad "né" " +5" "é").toList = "éééné".toList ∧
    ((Texts.pad "né" " +5" "é").length : Int) = max 5 ("né".length : Int) := by
  intro greatest
  obtain ⟨-, -, hpads⟩ := padding_exact
  have hnone := readInteger?_eq_none_iff.mp (by decide : readInteger? "x" = none)
  obtain ⟨hgreatest, hfits⟩ := readInteger?_eq_some_iff.mp
    (by decide : readInteger? greatest = some (2 ^ 63 - 1))
  obtain ⟨hfive, hfits'⟩ := readInteger?_eq_some_iff.mp (by decide : readInteger? " +5" = some 5)
  have hlarge : 65536 < missing (2 ^ 63 - 1) "x".length * ("ab".utf8ByteSize : Int) := by decide
  have hsmall : missing 5 "né".length * ("é".utf8ByteSize : Int) ≤ 65536 := by decide
  have hrefused := (hpads "x" greatest "ab").2 _ hgreatest hfits
  have hfilled := (hpads "né" " +5" "é").2 _ hfive hfits'
  refine ⟨hnone, (hpads "7" "x" "0").1 hnone, hgreatest, hfits, hlarge, hrefused.refused hlarge,
    hfive, hfits', by decide, hsmall, ?_, hfilled.exact_length (by decide) hsmall⟩
  exact (hfilled.filled hsmall).trans (by decide)

end Retag.Library

import Mathlib.Data.List.DropRight
import Retag.Proofs.Running.ValueCalls
import Retag.Proofs.Text.Numerals
import Retag.Proofs.Text.Words

/-!
# Indexes and slices

A bound stands for the place that it counts to, from the end if it is negative, moved to the nearer
end of the sequence; an index stands for an element only without being moved. So the two slices at
one bound are the whole, whatever the bound, and a list has a value at an index exactly if it can be
given another one there.
-/

namespace Retag.Text

/-- A bound as a place between the ends of a sequence. -/
def place (len : Nat) (bound : Int) : Int :=
  max 0 (min len (if bound < 0 then bound + len else bound))

theorem clampBound_eq_place (len : Nat) (bound : Int) :
    (clampBound len bound : Int) = place len bound := by
  unfold clampBound place
  split <;> omega

theorem sliceRange_eq_place (len : Nat) (start stop : Option Int) :
    let first := (start.map (place len)).getD 0
    let last := (stop.map (place len)).getD len
    ((sliceRange len start stop).1 : Int) = first ∧
    ((sliceRange len start stop).2 : Int) = max first last := by
  intro first last
  have hfirst : (((start.map (clampBound len)).getD 0 : Nat) : Int) = first := by
    cases start with
    | none => rfl
    | some bound => exact clampBound_eq_place len bound
  have hlast : (((stop.map (clampBound len)).getD len : Nat) : Int) = last := by
    cases stop with
    | none => rfl
    | some bound => exact clampBound_eq_place len bound
  rw [sliceRange, ← hfirst, ← hlast]
  omega

theorem resolveIndex_eq_some_iff {len k : Nat} {index : Int} :
    resolveIndex len index = some k
      ↔ (-len ≤ index ∧ index < len) ∧ (k : Int) = if index < 0 then index + len else index := by
  unfold resolveIndex
  split
  · split
    · rw [Option.some.injEq]
      omega
    · simp only [reduceCtorEq, false_iff]
      omega
  · split
    · rw [Option.some.injEq]
      omega
    · simp only [reduceCtorEq, false_iff]
      omega

theorem resolveIndex_isSome_iff {len : Nat} {index : Int} :
    (resolveIndex len index).isSome ↔ -len ≤ index ∧ index < len := by
  rw [Option.isSome_iff_exists]
  simp only [resolveIndex_eq_some_iff]
  constructor
  · exact fun ⟨_, h, _⟩ => h
  · intro h
    refine ⟨(if index < 0 then index + len else index).toNat, h, ?_⟩
    omega

/-! ## Slices at one bound -/

section Slices

variable {α : Type}

theorem slice_to (bound : Int) (xs : List α) :
    slice none (some bound) xs = xs.take (clampBound xs.length bound) := by
  simp [slice, sliceRange]

theorem slice_from (bound : Int) (xs : List α) :
    slice (some bound) none xs = xs.drop (clampBound xs.length bound) := by
  have hslice : slice (some bound) none xs = (xs.drop (clampBound xs.length bound)).take
      (xs.length - clampBound xs.length bound) := by
    simp [slice, sliceRange, Nat.max_eq_right (clampBound_le xs.length bound)]
  rw [hslice, ← List.length_drop, List.take_length]

theorem slice_append_slice (bound : Int) (xs : List α) :
    slice none (some bound) xs ++ slice (some bound) none xs = xs := by
  rw [slice_to, slice_from, List.take_append_drop]

end Slices

end Retag.Text

/-! ## Texts -/

namespace Retag.Library.Texts

open Retag.Text

variable {text number : String} {n : Int}

theorem readInteger?_nothing : readInteger? "" = none := rfl

theorem left_eq (h : readInteger? number = some n) (text : String) :
    left text number = substr text "" number := by
  rw [left, substr, h, readInteger?_nothing]

theorem substr_append_substr (h : readInteger? number = some n) (text : String) :
    substr text "" number ++ substr text number "" = text := by
  rw [substr, substr, h, readInteger?_nothing, sliceText, sliceText, ← String.ofList_append,
    slice_append_slice, String.ofList_toList]

theorem right_eq (h : readInteger? number = some n) (text : String) :
    (right text number).toList = text.toList.drop (clampBound text.toList.length (-n)) := by
  simp only [right, h, sliceText, String.toList_ofList, slice_from]

/-- What the functions that cut a text at a place give for a bound that is written as an integer. -/
structure CutsAt (text number : String) (n : Int) : Prop where
  whole : substr text "" number ++ substr text number "" = text
  left : left text number = substr text "" number
  right_pos : 0 < n →
    (right text number).toList = text.toList.rtake (min n.toNat text.toList.length)
  right_zero : n = 0 → right text number = text
  right_neg : n < 0 →
    (right text number).toList = text.toList.drop (min (-n).toNat text.toList.length)

theorem cutsAt (h : readInteger? number = some n) (text : String) : CutsAt text number n where
  whole := substr_append_substr h text
  left := left_eq h text
  right_pos hn := by
    have hplace : clampBound text.toList.length (-n)
        = text.toList.length - min n.toNat text.toList.length := by
      unfold clampBound
      split <;> omega
    rw [right_eq h, hplace]
    rfl
  right_zero hn := by
    subst hn
    apply String.toList_injective
    rw [right_eq h]
    simp [clampBound]
  right_neg hn := by
    have hplace : clampBound text.toList.length (-n) = min (-n).toNat text.toList.length := by
      unfold clampBound
      split <;> omega
    rw [right_eq h, hplace]

end Retag.Library.Texts

/-! ## Lists -/

namespace Retag.ValueList

open Retag.Text

theorem get?_eq (l : ValueList) (i : Int) :
    l.get? i = (resolveIndex l.size i).bind (l.values[·]?) := rfl

/-- Putting a value at an index of a list: it says whether there is such an index, and changes
nothing but the value there. -/
structure Puts (l : ValueList) (i : Int) (v : String) (after : ValueList) (done : Bool) : Prop where
  done_iff : done = true ↔ (l.get? i).isSome
  separator : after.separator = l.separator
  size : after.size = l.size
  there : done → after.get? i = some v
  others : ∀ j, resolveIndex l.size j ≠ resolveIndex l.size i → after.get? j = l.get? j
  unchanged : ¬ done → after = l

theorem puts (l : ValueList) (i : Int) (v : String) :
    l.Puts i v ((l.set? i v).getD l) (l.set? i v).isSome := by
  rcases h : resolveIndex l.size i with - | k
  · have hset : l.set? i v = none := by rw [set?, h]; rfl
    have hget : l.get? i = none := by rw [get?_eq, h]; rfl
    rw [hset, Option.getD_none]
    exact ⟨by simp [hget], rfl, rfl, nofun, fun _ _ => rfl, fun _ => rfl⟩
  · have hk : k < l.values.length := resolveIndex_lt h
    have hset : l.set? i v = some { l with values := l.values.set k v } := by rw [set?, h]; rfl
    have hsize : size { l with values := l.values.set k v } = l.size := List.length_set
    rw [hset, Option.getD_some]
    refine ⟨?_, rfl, hsize, fun _ => ?_, fun j hj => ?_, nofun⟩
    · rw [get?_eq, h]
      simp [hk]
    · rw [get?_eq, hsize, h, Option.bind_some, List.getElem?_set_self hk]
    · rw [get?_eq, get?_eq, hsize]
      rcases hother : resolveIndex l.size j with - | m
      · rfl
      · have hne : k ≠ m := fun heq => hj (by rw [hother, h, heq])
        rw [Option.bind_some, Option.bind_some, List.getElem?_set_ne hne]

end Retag.ValueList

namespace Retag.Library

open Script Retag.Text

/-- A range runs from the place of its first bound to that of its second, or is empty there; an
index stands for an element exactly if it is in range, counted from the end if it is negative. The
same is computed on words of sixty-four bits. So a text is what is in front of a bound and what is
behind it, `left` gives the one part and `right` the other, from the end; and a list has a value at
an index exactly if it can be given another, and nothing else is changed. -/
theorem slicing_exact :
    (∀ len start stop,
      ((sliceRange len start stop).1 : Int) = (start.map (place len)).getD 0 ∧
      ((sliceRange len start stop).2 : Int)
        = max ((start.map (place len)).getD 0) ((stop.map (place len)).getD len)) ∧
    (∀ len index,
      ((resolveIndex len index).isSome ↔ -len ≤ index ∧ index < len) ∧
      ∀ k, resolveIndex len index = some k →
        (k : Int) = if index < 0 then index + len else index) ∧
    (∀ (len : UInt64) (start stop : Option Int64),
      ((wordRange len start stop).1.toNat, (wordRange len start stop).2.toNat)
        = sliceRange len.toNat (start.map Int64.toInt) (stop.map Int64.toInt)) ∧
    (∀ (len : UInt64) (index : Int64),
      (wordIndex len index).map UInt64.toNat = resolveIndex len.toNat index.toInt) ∧
    (∀ len < 2 ^ 63, ∀ n : Int64,
      clampBound len (negated n).toInt = clampBound len (-n.toInt)) ∧
    (∀ t a b position,
      evalTree standard [.call "substr" [t, a, b] position] = (do
        let text ← evalTree standard t
        let start ← evalTree standard a
        let stop ← evalTree standard b
        return Texts.substr text start stop) ∧
      evalTree standard [.call "left" [t, a] position] = (do
        let text ← evalTree standard t
        let number ← evalTree standard a
        return Texts.left text number) ∧
      evalTree standard [.call "right" [t, a] position] = (do
        let text ← evalTree standard t
        let number ← evalTree standard a
        return Texts.right text number)) ∧
    (∀ text number n, Writes number n → Fits n → Texts.CutsAt text number n) ∧
    ∀ (l : ValueList) i v, l.Puts i v ((l.set? i v).getD l) (l.set? i v).isSome := by
  refine ⟨sliceRange_eq_place, fun len index => ⟨resolveIndex_isSome_iff, fun k hk => ?_⟩,
    toNat_wordRange, toNat_wordIndex, fun len hlen n => clampBound_negated hlen n,
    fun t a b position => ⟨?_, ?_, ?_⟩, fun text number n hwrites hfits => ?_, ValueList.puts⟩
  · exact (resolveIndex_eq_some_iff.mp hk).2
  · exact evalTree_ofThree ((find?_standard _).trans rfl) position
  · exact evalTree_ofTwo ((find?_standard _).trans rfl) position
  · exact evalTree_ofTwo ((find?_standard _).trans rfl) position
  · exact Texts.cutsAt (readInteger?_eq_some_iff.mpr ⟨hwrites, hfits⟩) text

/-- The least integer as a bound, and as an index. -/
theorem slicing_exact_least :
    let least := "-9223372036854775808"
    let l : ValueList := ⟨["a", "b"], "; "⟩
    Writes least (-2 ^ 63) ∧ Fits (-2 ^ 63) ∧ 3 < 2 ^ 63 ∧
    resolveIndex 3 (-3) = some 0 ∧ ((0 : Nat) : Int) = -3 + (3 : Nat) ∧
    clampBound 3 (negated Int64.minValue).toInt = 3 ∧
    Texts.substr "abc" "" least ++ Texts.substr "abc" least "" = "abc" ∧
    Texts.right "abc" least = "" ∧
    (l.set? (-2 ^ 63) "c").isSome = false ∧ (l.get? (-2 ^ 63)).isSome = false ∧
    (l.set? (-2) "c").isSome = true ∧ ((l.set? (-2) "c").getD l).get? (-2) = some "c" := by
  intro least l
  obtain ⟨hwrites, hfits⟩ := readInteger?_eq_some_iff.mp
    (by decide : readInteger? least = some (-2 ^ 63))
  obtain ⟨-, hindex, -, -, hnegated, -, htexts, hlists⟩ := slicing_exact
  have hcuts := htexts "abc" least _ hwrites hfits
  have hthree : resolveIndex 3 (-3) = some 0 := by decide
  refine ⟨hwrites, hfits, by decide, hthree, (hindex 3 (-3)).2 0 hthree, ?_, hcuts.whole, ?_, ?_,
    ?_, ?_, ?_⟩
  · exact (hnegated 3 (by decide) Int64.minValue).trans (by decide)
  · apply String.toList_injective
    exact (hcuts.right_neg (by decide)).trans (by decide)
  · decide
  · decide
  · decide
  · exact (hlists l (-2) "c").there (by decide)

end Retag.Library

import Retag.Proofs.Text.Occurrences
import Retag.Proofs.Text.Slicing

/-!
# Searching

What a search finds is what a slice cuts out: the place that is printed is the first from which a
slice as long as what is searched for gives it back. The places count characters, whether characters
are searched or their bytes.
-/

namespace Retag.Text

section Slices

variable {α : Type} {needle xs : List α} {first last : Nat}

theorem clampBound_natCast {len place : Nat} (h : place ≤ len) :
    clampBound len (place : Int) = place := by
  unfold clampBound
  split <;> omega

/-- A range whose places are inside is not moved. -/
theorem slice_natCast (hfirst : first ≤ last) (hlast : last ≤ xs.length) :
    slice (some (first : Int)) (some (last : Int)) xs = (xs.drop first).take (last - first) := by
  simp only [slice, sliceRange, Option.map_some, Option.getD_some,
    clampBound_natCast (hfirst.trans hlast), clampBound_natCast hlast, Nat.max_eq_right hfirst]

theorem slice_eq_iff (h : first + needle.length ≤ xs.length) :
    slice (some (first : Int)) (some ((first + needle.length : Nat) : Int)) xs = needle
      ↔ needle <+: xs.drop first := by
  rw [slice_natCast (Nat.le_add_right _ _) h, Nat.add_sub_cancel_left, List.prefix_iff_eq_take]
  exact eq_comm

theorem slice_end_eq_iff :
    slice (some ((xs.length - needle.length : Nat) : Int)) none xs = needle ↔ needle <:+ xs := by
  rw [slice_from, clampBound_natCast (Nat.sub_le _ _), List.suffix_iff_eq_drop]
  exact eq_comm

end Slices

end Retag.Text

namespace Retag.Library.Texts

open Script Retag.Text

variable {text needle : String} {k : Nat}

/-! ## Places -/

/-- A slice of `text` that is as long as `needle` and starts at `k` is inside, and is `needle`. -/
structure FoundAt (text needle : String) (k : Nat) : Prop where
  inside : k + needle.length ≤ text.length
  cut : substr text (toString k) (toString (k + needle.length)) = needle

theorem foundAt_iff (h : text.length < 2 ^ 63) : FoundAt text needle k ↔
    k + needle.length ≤ text.length ∧ needle.toList <+: text.toList.drop k := by
  have hcut (hinside : k + needle.length ≤ text.length) :
      substr text (toString k) (toString (k + needle.length)) = needle
        ↔ needle.toList <+: text.toList.drop k := by
    rw [substr, readInteger?_toString_nat (by omega), readInteger?_toString_nat (by omega),
      sliceText, ← String.toList_inj, String.toList_ofList]
    exact slice_eq_iff hinside
  constructor
  · intro hfound
    exact ⟨hfound.inside, (hcut hfound.inside).mp hfound.cut⟩
  · rintro ⟨hinside, hprefix⟩
    exact ⟨hinside, (hcut hinside).mpr hprefix⟩

/-- The first place that is found is the first at which the characters occur. -/
theorem firstAt_iff (h : text.length < 2 ^ 63) : FirstAt needle.toList text.toList k ↔
    FoundAt text needle k ∧ ∀ j < k, ¬ FoundAt text needle j := by
  simp only [foundAt_iff h]
  constructor
  · exact fun hfirst => ⟨⟨hfirst.le, hfirst.1⟩, fun j hj hfound => hfirst.2 j hj hfound.2⟩
  · rintro ⟨⟨hinside, hhere⟩, hbefore⟩
    exact ⟨hhere, fun j hj hprefix => hbefore j hj ⟨by omega, hprefix⟩⟩

theorem find?_eq_some_iff :
    find? text needle = some k ↔ FirstAt needle.toList text.toList k := indexOf?_eq_some_iff

/-! ## Results -/

theorem truth_eq_one_iff {b : Bool} : truth b = "1" ↔ b = true := by
  cases b <;> decide

theorem truth_eq_empty_iff {b : Bool} : truth b = "" ↔ b = false := by
  cases b <;> decide

theorem findText_eq_empty_iff : findText text needle = "" ↔ find? text needle = none := by
  rw [findText]
  cases find? text needle with
  | none => exact iff_of_true rfl rfl
  | some k => exact iff_of_false Nat.repr_ne_empty nofun

theorem findText_eq_toString_iff :
    findText text needle = toString k ↔ find? text needle = some k := by
  rw [findText]
  cases find? text needle with
  | none => exact iff_of_false (fun h => Nat.repr_ne_empty h.symm) nofun
  | some j => exact toString_nat_inj.trans Option.some_inj.symm

theorem contains_iff : contains text needle = true ↔ needle.toList <:+: text.toList :=
  indexOf?_isSome_iff

theorem startsWith_iff : startsWith text needle = true ↔ needle.toList <+: text.toList :=
  List.isPrefixOf_iff_prefix

theorem endsWith_iff : endsWith text needle = true ↔ needle.toList <:+ text.toList :=
  List.isSuffixOf_iff_suffix

/-- What the functions that search characters find, as a search of bytes. -/
structure SearchesBytes (text needle : String) : Prop where
  first : ∀ b, FirstAt (utf8 needle.toList) (utf8 text.toList) b ↔
    ∃ k, find? text needle = some k ∧ b = bytes (text.toList.take k)
  inside : contains text needle = true ↔ utf8 needle.toList <:+: utf8 text.toList
  start : startsWith text needle = true ↔ utf8 needle.toList <+: utf8 text.toList
  ending : endsWith text needle = true ↔ utf8 needle.toList <:+ utf8 text.toList

theorem searchesBytes (text needle : String) : SearchesBytes text needle where
  first b := by
    rw [firstAt_utf8_iff]
    exact exists_congr fun k => and_congr_left' find?_eq_some_iff.symm
  inside := contains_iff.trans utf8_infix_iff.symm
  start := startsWith_iff.trans utf8_prefix_iff.symm
  ending := endsWith_iff.trans utf8_suffix_iff.symm

/-- The functions that search a text agree with each other. -/
structure Agrees (text needle : String) : Prop where
  absent : findText text needle = "" ↔ truth (contains text needle) = ""
  start : truth (startsWith text needle) = "1" ↔ findText text needle = "0"

theorem agrees (text needle : String) : Agrees text needle where
  absent := by
    rw [findText_eq_empty_iff, truth_eq_empty_iff, contains, Option.isSome_eq_false_iff,
      Option.isNone_iff_eq_none]
  start := by
    rw [truth_eq_one_iff, startsWith_iff, ← firstAt_zero, ← find?_eq_some_iff]
    exact findText_eq_toString_iff.symm

/-- The functions that search a text find what is cut out of it. -/
structure Cuts (text needle : String) : Prop where
  first : findText text needle ≠ "" →
    ∃ k : Nat, findText text needle = toString k ∧ FoundAt text needle k ∧
      ∀ j < k, ¬ FoundAt text needle j
  ending : truth (endsWith text needle) = "1" ↔ needle.length ≤ text.length ∧
    substr text (toString (text.length - needle.length)) "" = needle

theorem cuts (h : text.length < 2 ^ 63) (needle : String) : Cuts text needle where
  first hfound := by
    obtain ⟨k, hk⟩ := Option.ne_none_iff_exists'.mp (mt findText_eq_empty_iff.mpr hfound)
    exact ⟨k, findText_eq_toString_iff.mpr hk, (firstAt_iff h).mp (find?_eq_some_iff.mp hk)⟩
  ending := by
    have hcut : substr text (toString (text.length - needle.length)) "" = needle
        ↔ needle.toList <:+ text.toList := by
      rw [substr, readInteger?_toString_nat (by omega), readInteger?_nothing, sliceText,
        ← String.toList_inj, String.toList_ofList]
      exact slice_end_eq_iff
    rw [truth_eq_one_iff, endsWith_iff, hcut]
    exact (and_iff_right_of_imp List.IsSuffix.length_le).symm

end Retag.Library.Texts

namespace Retag.Library

open Script Retag.Text

/-- The functions that search a text find what those that cut it cut out. Nothing is found exactly
if the text does not contain what is searched for; otherwise the first place is found from which a
slice of that length is what is searched for. A text starts with what is found at its start, and
ends with what is cut off at its end. A search of the bytes would find the same, with its places
counted in bytes. Bounds are written as integers of sixty-four bits, and no text that fits into
memory has a character behind those. -/
theorem searching_cuts :
    (∀ t a b position,
      evalTree standard [.call "find" [t, a] position] = (do
        let text ← evalTree standard t
        let needle ← evalTree standard a
        return Texts.findText text needle) ∧
      evalTree standard [.call "in" [t, a] position] = (do
        let text ← evalTree standard t
        let needle ← evalTree standard a
        return truth (contains text needle)) ∧
      evalTree standard [.call "startswith" [t, a] position] = (do
        let text ← evalTree standard t
        let needle ← evalTree standard a
        return truth (startsWith text needle)) ∧
      evalTree standard [.call "endswith" [t, a] position] = (do
        let text ← evalTree standard t
        let needle ← evalTree standard a
        return truth (endsWith text needle)) ∧
      evalTree standard [.call "len" [t] position] = (do
        let text ← evalTree standard t
        return toString text.length) ∧
      evalTree standard [.call "substr" [t, a, b] position] = (do
        let text ← evalTree standard t
        let start ← evalTree standard a
        let stop ← evalTree standard b
        return Texts.substr text start stop)) ∧
    ∀ text needle : String,
      Texts.SearchesBytes text needle ∧ Texts.Agrees text needle ∧
      (text.length < 2 ^ 63 → Texts.Cuts text needle) := by
  refine ⟨fun t a b position => ⟨?_, ?_, ?_, ?_, ?_, ?_⟩, fun text needle =>
    ⟨Texts.searchesBytes text needle, Texts.agrees text needle, fun h => Texts.cuts h needle⟩⟩
  · exact evalTree_ofTwo ((find?_standard _).trans rfl) position
  · exact evalTree_ofTwo ((find?_standard _).trans rfl) position
  · exact evalTree_ofTwo ((find?_standard _).trans rfl) position
  · exact evalTree_ofTwo ((find?_standard _).trans rfl) position
  · exact evalTree_oneValue ((find?_standard _).trans rfl) rfl
      (fun text frame => inFrame_pure frame (toString text.length)) position
  · exact evalTree_ofThree ((find?_standard _).trans rfl) position

/-- Characters of one to four bytes, and occurrences that overlap. -/
theorem searching_cuts_mixed :
    let text := "aé€😀€😀€"
    text.length < 2 ^ 63 ∧
    Texts.findText text "€😀€" = "2" ∧ truth (contains text "€😀€") ≠ "" ∧
    (∃ k : Nat, "2" = toString k ∧ Texts.FoundAt text "€😀€" k ∧
      ∀ j < k, ¬ Texts.FoundAt text "€😀€" j) ∧
    FirstAt (utf8 "€😀€".toList) (utf8 text.toList) 3 ∧
    truth (startsWith text "") = "1" ∧ Texts.findText text "😁" = "" ∧
    truth (endsWith text "€😀€") = "1" := by
  intro text
  have hlength : text.length < 2 ^ 63 := by decide
  obtain ⟨-, hsearches⟩ := searching_cuts
  obtain ⟨hbytes, hagrees, hcuts⟩ := hsearches text "€😀€"
  have hfind : Texts.findText text "€😀€" = "2" := by decide
  have hfound : Texts.findText text "€😀€" ≠ "" := by
    rw [hfind]
    decide
  refine ⟨hlength, hfind, mt hagrees.absent.mpr hfound, ?_, ?_, ?_, ?_, ?_⟩
  · simpa only [hfind] using (hcuts hlength).first hfound
  · exact (hbytes.first 3).mpr ⟨2, by decide, by decide⟩
  · exact (hsearches text "").2.1.start.mpr (by decide)
  · exact (hsearches text "😁").2.1.absent.mpr (by decide)
  · exact (hcuts hlength).ending.mpr ⟨by decide, by decide⟩

end Retag.Library

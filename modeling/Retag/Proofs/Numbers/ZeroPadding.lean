import Retag.Proofs.Lists.Storing
import Retag.Proofs.Numbers.Arithmetic

/-!
# Numbers filled up with zeros

Zeros between the sign of an integer and its digits do not change what is read back. Numbers that
are filled up to the same width are as many digits, and so the order of their texts, character by
character, is the order of the numbers: a list of them that is sorted as texts is in numeric order.
-/

namespace Retag.Text

variable {width : Nat} {n m : Int}

/-! ## Filling up -/

theorem toList_padded (width : Nat) (n : Int) :
    (padded width n).toList = (if n < 0 then ['-'] else [])
      ++ List.replicate (width - (toString n).length) '0' ++ Nat.toDigits 10 n.natAbs := by
  rw [padded, String.toList_ofList, ← String.length_toList, toList_toString, List.length_append,
    Nat.sub_sub]

theorem length_padded (width : Nat) (n : Int) :
    (padded width n).length = max width (toString n).length := by
  have hlength : (toString n).length
      = (if n < 0 then ['-'] else []).length + (Nat.toDigits 10 n.natAbs).length := by
    rw [← String.length_toList, toList_toString, List.length_append]
  rw [← String.length_toList, toList_padded, List.length_append, List.length_append,
    List.length_replicate]
  omega

theorem readInteger?_padded (width : Nat) (h : Fits n) :
    readInteger? (padded width n) = some n := by
  have hnumeral : Numeral (padded width n).toList n := by
    rw [toList_padded]
    exact numeral_zeros _ n
  exact readInteger?_eq_some_iff.mpr ⟨hnumeral.writes, h⟩

/-- A number that is not longer than the width is as many digits as that. -/
structure IsFilled (text : List Char) (width : Nat) (n : Int) : Prop where
  digits : ∀ c ∈ text, '0' ≤ c ∧ c ≤ '9'
  length : text.length = width
  value : (placeValue text : Int) = n

theorem isFilled_padded (hpos : 0 ≤ n) (hshort : (toString n).length ≤ width) :
    IsFilled (padded width n).toList width n := by
  have hlist : (padded width n).toList
      = List.replicate (width - (toString n).length) '0' ++ Nat.toDigits 10 n.natAbs := by
    rw [toList_padded, if_neg (Int.not_lt.mpr hpos), List.nil_append]
  refine ⟨?_, ?_, ?_⟩
  · rw [hlist]
    exact ((isDigits_toDigits n.natAbs).replicate_append _).2
  · rw [String.length_toList, length_padded, Nat.max_eq_left hshort]
  · rw [hlist, placeValue_replicate_append, placeValue_toDigits, Int.natAbs_of_nonneg hpos]

/-- Filled up, numbers are in the order of their texts. -/
theorem padded_lt_padded_iff (hn : 0 ≤ n) (hm : 0 ≤ m) (hnshort : (toString n).length ≤ width)
    (hmshort : (toString m).length ≤ width) : padded width n < padded width m ↔ n < m := by
  have hleft := isFilled_padded hn hnshort
  have hright := isFilled_padded hm hmshort
  have hvalues := lt_iff_placeValue_lt hleft.digits hright.digits
    (hleft.length.trans hright.length.symm)
  rw [String.lt_iff_toList_lt, hvalues, ← Int.ofNat_lt, hleft.value, hright.value]

end Retag.Text

namespace Retag.Library

open Script Retag.Text

namespace Texts

/-- The width that a length stands for. -/
def width (length : Int) : Int := max 0 (min length 20)

/-- A number of sixty-four bits that is not negative and has no more digits than are filled up. -/
structure IsShort (length n : Int) : Prop where
  fits : Fits n
  nonneg : 0 ≤ n
  short : (toString n).length ≤ width length

section Numbers

variable {number text text' length : String} {l n m : Int} {texts : List String}
  {numbers ordered : List Int}

theorem num_of_none (h : ¬ ∃ l, Writes length l ∧ Fits l) (number : String) :
    num number length = "" := by
  rw [num, readInteger?_eq_none_iff.mpr h]

theorem num_eq (hl : readInteger? length = some l) (hn : readInteger? number = some n) :
    num number length = padded (width l).toNat n := by
  have hwidth : min l.toNat 20 = (width l).toNat := by
    rw [width]
    omega
  rw [num, hl, hn, Option.getD_some]
  exact congrArg (padded · n) hwidth

/-- How a number is written makes no difference. -/
theorem num_toString (hl : readInteger? length = some l) (hn : readInteger? number = some n) :
    num number length = num (toString n) length := by
  have hfits : Fits n := (readInteger?_eq_some_iff.mp hn).2
  rw [num_eq hl hn, num_eq hl (readInteger?_toString hfits)]

theorem num_lt_num_iff (hl : readInteger? length = some l) (hn : IsShort l n) (hm : IsShort l m) :
    num (toString n) length < num (toString m) length ↔ n < m := by
  have hshort := hn.short
  have hshort' := hm.short
  rw [num_eq hl (readInteger?_toString hn.fits), num_eq hl (readInteger?_toString hm.fits)]
  exact padded_lt_padded_iff hn.nonneg hm.nonneg (by omega) (by omega)

theorem map_num (hl : readInteger? length = some l) (hnumbers : ∀ n ∈ numbers, IsShort l n)
    (h : List.Forall₂ Writes texts numbers) :
    texts.map (num · length) = numbers.map fun n => num (toString n) length := by
  induction h with
  | nil => rfl
  | cons hwrites _ ih =>
    obtain ⟨hfirst, hrest⟩ := List.forall_mem_cons.mp hnumbers
    have hread := readInteger?_eq_some_iff.mpr ⟨hwrites, hfirst.fits⟩
    rw [List.map_cons, List.map_cons, num_toString hl hread, ih hrest]

/-- Sorting numbers as texts is sorting them. -/
theorem sorted_map_num (hl : readInteger? length = some l)
    (hnumbers : ∀ n ∈ numbers, IsShort l n) (h : List.Forall₂ Writes texts numbers)
    (hperm : ordered.Perm numbers) (hordered : ordered.Pairwise (· ≤ ·)) :
    Lists.sorted (texts.map (num · length)) = ordered.map fun n => num (toString n) length := by
  rw [map_num hl hnumbers h, Lists.sorted_eq_of_perm (hperm.symm.map _)]
  refine Lists.sorted_of_pairwise (List.pairwise_map.mpr ?_)
  refine hordered.imp_of_mem fun {n m} hn hm hle => ?_
  have hshort := hnumbers n (hperm.mem_iff.mp hn)
  have hshort' := hnumbers m (hperm.mem_iff.mp hm)
  have hlt := num_lt_num_iff hl hshort' hshort
  exact not_lt.mp fun hgreater => absurd (hlt.mp hgreater) (Int.not_lt.mpr hle)

/-- Adding nothing to a number that is filled up gives it back as it is printed. -/
theorem add_zero_num (hl : readInteger? length = some l) (hn : readInteger? number = some n) :
    Calculation.add.answer [num number length, "0"] = toString n := by
  obtain ⟨-, hfits⟩ := readInteger?_eq_some_iff.mp hn
  have hread : readInteger? (num number length) = some n := by
    rw [num_eq hl hn]
    exact readInteger?_padded _ hfits
  have hpair : Calculation.add.Pair (num number length) "0" n 0 :=
    ⟨readInteger?_eq_some_iff.mp hread, readInteger?_eq_some_iff.mp rfl, by
      rw [show Calculation.add.Allows n 0 = Fits (n + 0) from rfl, Int.add_zero]
      exact hfits⟩
  rw [hpair.answer_eq (by simp [Calculation.all])]
  exact congrArg toString (Int.add_zero n)

end Numbers

end Texts

/-! ## Calls -/

theorem seesOnly_listOf (t : Tree) (separator : Option Tree) :
    (listOf (argument t) (separator.map argument)).SeesOnly [] := by
  rw [listOf_eq]
  refine (seesOnly_separatorOf separator).bind fun text => ?_
  rw [listSplitAt]
  split
  · exact .bind .tags fun tags => .pure _
  · exact (seesOnly_standard t).bind fun value => .pure _

/-- A call joins the sorted values of its list, whichever way its argument stands for it. -/
theorem evalTree_sortMulti (t : Tree) (separator : Option Tree) (position : Position) :
    evalTree standard [.call "sortmulti" (t :: separator.toList) position] = (do
      let list ← listOf (argument t) (separator.map argument)
      return Lists.joined list (Lists.sorted list.values)) := by
  have haccepts : (Arity.between 1 2).accepts (t :: separator.toList).length = true := by
    cases separator <;> rfl
  have hsees := (seesOnly_listOf t separator).bind fun list =>
    .pure (Lists.joined list (Lists.sorted list.values))
  rw [evalTree_lazy ((find?_standard _).trans rfl) haccepts, argumentsOf_standard, List.map_cons,
    map_argument, ← hsees.inFrame_eq ⟨"sortmulti", position⟩]
  exact congrArg _ (sortMulti_eq (argument t) (separator.map argument))

theorem evalTree_num (a b : Tree) (position : Position) :
    evalTree standard [.call "num" [a, b] position] = (do
      let number ← evalTree standard a
      let length ← evalTree standard b
      return Texts.num number length) :=
  evalTree_ofTwo ((find?_standard _).trans rfl) position

/-- Adding zero to a number that is filled up. -/
theorem evalTree_add_num (a b : Tree) (position position' : Position) :
    evalTree standard [.call "add" [[.call "num" [a, b] position'], [.text "0"]] position] = (do
      let number ← evalTree standard a
      let length ← evalTree standard b
      return Calculation.add.answer [Texts.num number length, "0"]) := by
  have hadd : Calculation.add ∈ Calculation.all := by simp [Calculation.all]
  have hzero : evalTree standard [.text "0"] = pure "0" := by simp [evalTree, Node.eval]
  have htwo : 2 ≤ [[Node.call "num" [a, b] position'], [.text "0"]].length := Nat.le_refl 2
  refine (Calculation.evalTree_call hadd htwo position).trans ?_
  simp only [argumentsOf, Argument.valuesOf, evalTree_num, hzero, bind_assoc, pure_bind]

/-- Filling up with zeros keeps the number: it is read back, as from the text that a sum with zero
prints. The text is as wide as asked, between nothing and twenty characters, or as the number itself
if that is longer; a width that is no integer of sixty-four bits gives nothing. Numbers that are not
negative and not longer than the width are in the order of their texts, so a list of them, however
an argument stands for it, is sorted into numeric order. -/
theorem zero_padding_ordered :
    (∀ a b position,
      evalTree standard [.call "num" [a, b] position] = (do
        let number ← evalTree standard a
        let length ← evalTree standard b
        return Texts.num number length)) ∧
    (∀ a b position position',
      evalTree standard [.call "add" [[.call "num" [a, b] position'], [.text "0"]] position] = (do
        let number ← evalTree standard a
        let length ← evalTree standard b
        return Calculation.add.answer [Texts.num number length, "0"])) ∧
    (∀ number length, (¬ ∃ l, Writes length l ∧ Fits l) → Texts.num number length = "") ∧
    ∀ length l, Writes length l → Fits l →
      (∀ number n, Writes number n → Fits n →
        readInteger? (Texts.num number length) = some n ∧
        Calculation.add.answer [Texts.num number length, "0"] = toString n ∧
        Texts.num number length = Texts.num (toString n) length ∧
        ((Texts.num number length).length : Int)
          = max (Texts.width l) (toString n).length) ∧
      (∀ n m, Texts.IsShort l n → Texts.IsShort l m →
        (Texts.num (toString n) length < Texts.num (toString m) length ↔ n < m)) ∧
      ∀ (texts : List String) (numbers ordered : List Int), List.Forall₂ Writes texts numbers →
        (∀ n ∈ numbers, Texts.IsShort l n) → ordered.Perm numbers → ordered.Pairwise (· ≤ ·) →
        ∀ (t : Tree) (separator : Option Tree) host s list s' position,
          (listOf (argument t) (separator.map argument)).runFrom host s = (.ok list, s') →
          list.values = texts.map (Texts.num · length) →
          (evalTree standard [.call "sortmulti" (t :: separator.toList) position]).runFrom host s
            = (.ok (list.separator.intercalate
                (ordered.map fun n => Texts.num (toString n) length)), s') := by
  refine ⟨evalTree_num, evalTree_add_num, fun number length hnone => Texts.num_of_none hnone number,
    fun length l hwrites hfits => ?_⟩
  have hl := readInteger?_eq_some_iff.mpr ⟨hwrites, hfits⟩
  refine ⟨fun number n hnumber hn => ?_, fun n m => Texts.num_lt_num_iff hl, ?_⟩
  · have hread := readInteger?_eq_some_iff.mpr ⟨hnumber, hn⟩
    refine ⟨?_, Texts.add_zero_num hl hread, Texts.num_toString hl hread, ?_⟩
    · rw [Texts.num_eq hl hread]
      exact readInteger?_padded _ hn
    · have hwidth : 0 ≤ Texts.width l := Int.le_max_left _ _
      rw [Texts.num_eq hl hread, length_padded]
      omega
  · intro texts numbers ordered hnumbers hshort hperm hordered t separator host s list s' position
      hlist hvalues
    rw [evalTree_sortMulti, Eval.runFrom_bind_ok hlist, hvalues,
      Texts.sorted_map_num hl hshort hnumbers hperm hordered]
    rfl

/-- The least integer, and the numbers of three tracks that stand in a text as a list. -/
theorem zero_padding_ordered_tracks :
    let least := "-9223372036854775808"
    let tracks : Tree := [.text "012; 100; 007"]
    let list : ValueList := ⟨["012", "100", "007"], "; "⟩
    let numbers : List Int := [12, 100, 7]
    let ordered : List Int := [7, 12, 100]
    (¬ ∃ l, Writes "x" l ∧ Fits l) ∧ Texts.num "7" "x" = "" ∧
    Writes " 3" 3 ∧ Fits 3 ∧
    (Writes least (-2 ^ 63) ∧ Fits (-2 ^ 63) ∧
      readInteger? (Texts.num least " 3") = some (-2 ^ 63) ∧
      Calculation.add.answer [Texts.num least " 3", "0"] = least) ∧
    (Texts.IsShort 3 7 ∧ Texts.IsShort 3 12 ∧ Texts.num "7" " 3" < Texts.num "12" " 3") ∧
    List.Forall₂ Writes ["12", "+100", "07"] numbers ∧ (∀ n ∈ numbers, Texts.IsShort 3 n) ∧
    ordered.Perm numbers ∧ ordered.Pairwise (· ≤ ·) ∧
    list.values = ["12", "+100", "07"].map (Texts.num · " 3") ∧
    ∀ host s, (listOf (argument tracks) none).runFrom host s = (.ok list, s) ∧
      (evalTree standard [.call "sortmulti" [tracks] .start]).runFrom host s
        = (.ok "007; 012; 100", s) := by
  intro least tracks list numbers ordered
  obtain ⟨hlength, hfits⟩ := readInteger?_eq_some_iff.mp (by decide : readInteger? " 3" = some 3)
  obtain ⟨hleast, hfits'⟩ := readInteger?_eq_some_iff.mp
    (by decide : readInteger? least = some (-2 ^ 63))
  obtain ⟨-, -, hnothing, hordered⟩ := zero_padding_ordered
  obtain ⟨hvalues, horder, hsorted⟩ := hordered " 3" 3 hlength hfits
  have hnone := readInteger?_eq_none_iff.mp (by decide : readInteger? "x" = none)
  obtain ⟨hread, hsum, -, -⟩ := hvalues least (-2 ^ 63) hleast hfits'
  have hseven : Texts.IsShort 3 7 := ⟨by decide, by decide, by decide⟩
  have htwelve : Texts.IsShort 3 12 := ⟨by decide, by decide, by decide⟩
  have hhundred : Texts.IsShort 3 100 := ⟨by decide, by decide, by decide⟩
  have hshort : ∀ n ∈ numbers, Texts.IsShort 3 n :=
    List.forall_mem_cons.mpr ⟨htwelve, by simp [hhundred, hseven]⟩
  have hnumbers : List.Forall₂ Writes ["12", "+100", "07"] numbers :=
    .cons (readInteger?_eq_some_iff.mp (by decide)).1
      (.cons (readInteger?_eq_some_iff.mp (by decide)).1
        (.cons (readInteger?_eq_some_iff.mp (by decide)).1 .nil))
  have hperm : ordered.Perm numbers := by decide
  have hlist : list.values = ["12", "+100", "07"].map (Texts.num · " 3") := by decide
  refine ⟨hnone, hnothing "7" "x" hnone, hlength, hfits, ⟨hleast, hfits', hread, hsum⟩,
    ⟨hseven, htwelve, (horder 7 12 hseven htwelve).mpr (by decide)⟩,
    hnumbers, hshort, hperm, by decide, hlist, fun host s => ?_⟩
  have hrun : (listOf (argument tracks) none).runFrom host s = (.ok list, s) := rfl
  exact ⟨hrun, hsorted _ _ _ hnumbers hshort hperm (by decide) tracks none host s list s .start
    hrun hlist⟩

end Retag.Library

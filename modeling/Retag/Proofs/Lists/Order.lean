import Mathlib.Data.List.Sort
import Mathlib.Data.String.Basic
import Retag.Library.Lists

/-!
# Values in order, and one of each kind

Sorting depends only on which values there are and how often. Of values in order, leaving out
repeats makes them strictly increasing. The last value for each key has a key of its own, so taking
one value of each kind once more takes all of them.
-/

namespace Retag.Library.Lists

variable {values values' : List String} {v : String}

/-! ## Sorting -/

theorem pairwise_sorted (values : List String) : (sorted values).Pairwise (· ≤ ·) :=
  List.pairwise_mergeSort' (· ≤ ·) values

theorem sorted_perm (values : List String) : (sorted values).Perm values :=
  List.mergeSort_perm ..

theorem sorted_of_pairwise (h : values.Pairwise (· ≤ ·)) : sorted values = values :=
  (sorted_perm values).eq_of_pairwise' (pairwise_sorted values) h

theorem sorted_eq_of_perm (h : values.Perm values') : sorted values = sorted values' :=
  ((sorted_perm values).trans (h.trans (sorted_perm values').symm)).eq_of_pairwise'
    (pairwise_sorted values) (pairwise_sorted values')

/-! ## Repeats -/

theorem dropRepeats_sublist (values : List String) : (dropRepeats values).Sublist values := by
  fun_induction dropRepeats values with
  | case1 a rest ih => exact ih.cons a
  | case2 a b rest hne ih => exact ih.cons_cons a
  | case3 values => exact .refl values

/-- Of values in order, those that are left are strictly increasing. -/
theorem pairwise_dropRepeats (h : values.Pairwise (· ≤ ·)) :
    (dropRepeats values).Pairwise (· < ·) := by
  fun_induction dropRepeats values with
  | case1 a rest ih => exact ih h.of_cons
  | case2 a b rest hne ih =>
    refine List.pairwise_cons.mpr ⟨fun v hv => ?_, ih h.of_cons⟩
    -- `b` is the least of what follows, and it is not `a`.
    obtain ⟨hle, hrest⟩ := List.pairwise_cons.mp h
    have hab : a < b := lt_of_le_of_ne (hle b List.mem_cons_self) hne
    rcases List.mem_cons.mp ((dropRepeats_sublist _).mem hv) with rfl | hmem
    · exact hab
    · exact lt_of_lt_of_le hab ((List.pairwise_cons.mp hrest).1 v hmem)
  | case3 values hshort =>
    rcases values with _ | ⟨a, _ | ⟨b, rest⟩⟩
    · exact .nil
    · exact List.pairwise_singleton _ a
    · exact absurd rfl (hshort a b rest)

theorem dropRepeats_of_pairwise (h : values.Pairwise (· < ·)) : dropRepeats values = values := by
  fun_induction dropRepeats values with
  | case1 a rest ih => exact absurd ((List.pairwise_cons.mp h).1 a List.mem_cons_self) (lt_irrefl a)
  | case2 a b rest hne ih => rw [ih h.of_cons]
  | case3 values => rfl

/-! ## The last value for each key -/

section LastByKey

variable {key : String → String}

theorem lastByKey_sublist (pairs : List (String × String)) :
    (lastByKey pairs).Sublist (pairs.map (·.2)) := by
  induction pairs with
  | nil => exact .slnil
  | cons pair rest ih =>
    rw [lastByKey, List.map_cons]
    split
    · exact ih.cons pair.2
    · exact ih.cons_cons pair.2

theorem lastByKey_values_sublist (key : String → String) (values : List String) :
    (lastByKey (values.map fun v => (key v, v))).Sublist values := by
  simpa [Function.comp_def] using lastByKey_sublist (values.map fun v => (key v, v))

theorem lastByKey_cons (key : String → String) (v : String) (values : List String) :
    lastByKey ((v :: values).map fun v => (key v, v))
      = if ∃ w ∈ values, key w = key v then lastByKey (values.map fun v => (key v, v))
        else v :: lastByKey (values.map fun v => (key v, v)) := by
  rw [List.map_cons, lastByKey]
  simp [List.any_map]

/-- No two of the values have the same key. -/
theorem pairwise_lastByKey (key : String → String) (values : List String) :
    (lastByKey (values.map fun v => (key v, v))).Pairwise fun a b => key a ≠ key b := by
  induction values with
  | nil => exact .nil
  | cons v rest ih =>
    rw [lastByKey_cons]
    split
    · exact ih
    · next hnone =>
      refine List.pairwise_cons.mpr ⟨fun w hw hkey => hnone ⟨w, ?_, hkey.symm⟩, ih⟩
      exact (lastByKey_values_sublist key rest).mem hw

theorem lastByKey_of_pairwise (h : values.Pairwise fun a b => key a ≠ key b) :
    lastByKey (values.map fun v => (key v, v)) = values := by
  induction values with
  | nil => rfl
  | cons v rest ih =>
    obtain ⟨hv, hrest⟩ := List.pairwise_cons.mp h
    have hnone : ¬ ∃ w ∈ rest, key w = key v := fun ⟨w, hw, hkey⟩ => hv w hw hkey.symm
    rw [lastByKey_cons, if_neg hnone, ih hrest]

end LastByKey

/-! ## One of each kind -/

/-- The values that `distinct` puts in order. -/
def representatives (caseSensitive : Bool) (values : List String) : List String :=
  if caseSensitive then values else lastByKey (values.map fun v => (Unicode.lowercase v, v))

theorem distinct_eq (caseSensitive : Bool) (values : List String) :
    distinct caseSensitive values = dropRepeats (sorted (representatives caseSensitive values)) :=
  rfl

theorem pairwise_distinct (caseSensitive : Bool) (values : List String) :
    (distinct caseSensitive values).Pairwise (· < ·) :=
  pairwise_dropRepeats (pairwise_sorted _)

theorem mem_of_mem_distinct {caseSensitive : Bool} (h : v ∈ distinct caseSensitive values) :
    v ∈ values := by
  have hmem := (sorted_perm _).mem_iff.mp ((dropRepeats_sublist _).mem h)
  cases caseSensitive with
  | true => exact hmem
  | false => exact (lastByKey_values_sublist _ _).mem hmem

theorem representatives_distinct (caseSensitive : Bool) (values : List String) :
    representatives caseSensitive (distinct caseSensitive values)
      = distinct caseSensitive values := by
  cases caseSensitive with
  | true => rfl
  | false =>
    have hkeys := pairwise_lastByKey Unicode.lowercase values
    have hsorted := hkeys.perm (sorted_perm _).symm fun h => h.symm
    exact lastByKey_of_pairwise (hsorted.sublist (dropRepeats_sublist _))

theorem distinct_distinct (caseSensitive : Bool) (values : List String) :
    distinct caseSensitive (distinct caseSensitive values) = distinct caseSensitive values := by
  have hincreasing := pairwise_distinct caseSensitive values
  have hsorted := sorted_of_pairwise (hincreasing.imp le_of_lt)
  rw [distinct_eq, representatives_distinct, hsorted, dropRepeats_of_pairwise hincreasing]

end Retag.Library.Lists

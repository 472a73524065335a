import Retag.Proofs.Lists.Storing
import Retag.Proofs.Store.Ledger

/-!
# Giving a tag values

To give a tag values is to leave everything else as it is: the other tags with their values, the
order, and the tombstones but the tag's own. A tag that was not there is put last, and one that is
given no values is gone. Calls of the functions that write to tags only change the store.
-/

namespace Retag

open Script

namespace TagStore

/-! ## Tags of other names -/

/-- Names that denote one tag have the same values. -/
theorem values_congr {s : TagStore} {name other : String}
    (h : storageName name = storageName other) : s.values name = s.values other := by
  rw [values, values, values?, values?, h]

/-- A tag that was set to values is there unless they are none. -/
theorem contains_set (s : TagStore) (name : String) (given : List String) :
    (s.set name given).contains name = true ↔ given ≠ [] := by
  rw [contains]
  by_cases hnone : given = []
  · rw [hnone, set_nil, values?_unset, if_pos rfl]
    exact iff_of_false Bool.false_ne_true (not_not.mpr rfl)
  · rw [values?_set hnone, if_pos rfl]
    exact iff_of_true rfl hnone

/-- To put the same values in again makes no difference. -/
theorem set_set (s : TagStore) (name : String) (given : List String) :
    (s.set name given).set name given = s.set name given := by
  by_cases hnone : given = []
  · rw [hnone, set_nil, set_nil]
    refine unset_of_absent ?_
    rw [contains, values?_unset, if_pos rfl]
    rfl
  · have hthere := (contains_set s name given).mpr hnone
    rw [set_of_ne_nil hnone (s.set name given), if_pos hthere, set_of_ne_nil hnone]
    refine TagStore.mk.injEq .. ▸ ⟨?_, rfl, List.filter_filter.trans (by simp)⟩
    refine Std.ExtTreeMap.ext_getElem? fun n => ?_
    rw [getElem?_insert_name]
    split
    · next hn => rw [getElem?_insert_name, if_pos hn]
    · rfl

/-! ## What is different afterwards -/

/-- The tag that a name denotes has the values that it was given, it is gone if there are none, and
nothing else is different. -/
structure Assigns (s : TagStore) (name : String) (given : List String) (after : TagStore) :
    Prop where
  values : after.values name = given
  present : after.contains name = true ↔ given ≠ []
  elsewhere : ∀ other, bareName other ≠ bareName name → after.values? other = s.values? other
  others : after.tags.filter (·.name != bareName name) = s.tags.filter (·.name != bareName name)
  order : after.names =
    if given = [] then s.names.filter (· != bareName name)
    else if bareName name ∈ s.names then s.names else s.names ++ [bareName name]
  tombstones : after.deleted =
    if given = [] then s.deleted else s.deleted.filter (· != bareName name)

theorem assigns_set {s : TagStore} (h : s.WellKept) (name : String) (given : List String) :
    s.Assigns name given (s.set name given) := by
  have helsewhere (other : String) (hother : bareName other ≠ bareName name) :
      (s.set name given).values? other = s.values? other := values?_set_of_ne given hother
  have horder := h.names_set name given
  refine ⟨values_set s name given, contains_set s name given, helsewhere, ?_, horder,
    deleted_set s name given⟩
  refine filter_tags_congr (p := (· != bareName name)) ?_ fun n hn hne => ?_
  · rw [horder, storageName_eq_bareName]
    split
    · simp
    · split <;> simp
  · have hbare : bareName n = n := storageName_eq_self (h.named n hn)
    rw [values, values, helsewhere n (hbare.symm ▸ bne_iff_ne.mp hne)]

end TagStore

/-! ## Calls -/

namespace Library

theorem inFrame_changing (frame : Frame) (change : TagStore → TagStore) :
    Eval.inFrame frame (Tags.changing change) = Tags.changing change :=
  Eval.SeesOnly.inFrame_eq (.bind (.change change) fun _ => .pure "") frame

theorem inFrame_tagValue (frame : Frame) (name : String) :
    Eval.inFrame frame (Eval.tagValue name) = Eval.tagValue name :=
  Eval.SeesOnly.inFrame_eq (.bind .tags fun _ => .pure _) frame

theorem evalTree_get (n : Tree) (position : Position) :
    evalTree standard [.call "get" [n] position] = (do
      let name ← evalTree standard n
      return (← Eval.tags).get (internalName name)) :=
  evalTree_oneValue ((find?_standard _).trans rfl) rfl
    (fun name frame => inFrame_tagValue frame name) position

theorem evalTree_set (n t : Tree) (position : Position) :
    evalTree standard [.call "set" [n, t] position] = (do
      let name ← evalTree standard n
      let value ← evalTree standard t
      Tags.changing (Eval.setIn name value)) :=
  evalTree_twoValues ((find?_standard _).trans rfl) rfl
    (fun name value frame => inFrame_changing frame (Eval.setIn name value)) position

theorem evalTree_unset (n : Tree) (position : Position) :
    evalTree standard [.call "unset" [n] position] = (do
      let name ← evalTree standard n
      Tags.changing (Eval.unsetIn name)) :=
  evalTree_oneValue ((find?_standard _).trans rfl) rfl
    (fun name frame => inFrame_changing frame (Eval.unsetIn name)) position

end Library
end Retag

import Mathlib.Data.List.Nodup
import Retag.TagStore

/-!
# The invariant of tag stores

The table of values, the list of names and the tombstones are three collections, and an operation
changes each of them on its own. They stay in step: the names are those under which the table has
something, each once and without colons at the end, every tag has values, and no tag has a
tombstone. Each operation comes down to two: `unset` takes a name out of the table and of the list,
and `set` with values puts it into both, unless it is there, and clears its tombstone.
-/

namespace Retag

/-! ## Names without colons at the end -/

/-- A name under which tags are kept. -/
def IsStorageName (name : String) : Prop := name.toList.getLast? ≠ some ':'

private theorem getLast?_dropEndWhile (p : Char → Bool) (cs : List Char) (c : Char)
    (h : (Unicode.dropEndWhile p cs).getLast? = some c) : p c = false := by
  rw [Unicode.dropEndWhile, List.getLast?_reverse] at h
  have hhead := List.head?_dropWhile_not p cs.reverse
  rw [h] at hhead
  simpa using hhead

theorem isStorageName_storageName (name : String) : IsStorageName (storageName name) := by
  intro h
  rw [storageName, String.toList_ofList] at h
  have hcolon := getLast?_dropEndWhile _ _ _ h
  simp at hcolon

theorem storageName_eq_self {name : String} (h : IsStorageName name) : storageName name = name := by
  have hkeep : name.toList.reverse.dropWhile (· == ':') = name.toList.reverse := by
    rw [IsStorageName, ← List.head?_reverse] at h
    rcases hr : name.toList.reverse with _ | ⟨c, cs⟩
    · rfl
    · rw [hr, List.head?_cons, ne_eq, Option.some_inj] at h
      simp [h]
  rw [storageName, Unicode.dropEndWhile, hkeep, List.reverse_reverse, String.ofList_toList]

theorem storageName_storageName (name : String) :
    storageName (storageName name) = storageName name :=
  storageName_eq_self (isStorageName_storageName name)

namespace TagStore

variable {s : TagStore} {name : String} {values : List String}

/-! ## The table -/

theorem getElem?_insert_name (table : Std.ExtTreeMap String (List String)) (name n : String)
    (values : List String) :
    (table.insert name values)[n]? = if n = name then some values else table[n]? := by
  rw [Std.ExtTreeMap.getElem?_insert]
  exact if_congr (Std.compare_eq_iff_eq.trans eq_comm) rfl rfl

theorem getElem?_erase_name (table : Std.ExtTreeMap String (List String)) (name n : String) :
    (table.erase name)[n]? = if n = name then none else table[n]? := by
  rw [Std.ExtTreeMap.getElem?_erase]
  exact if_congr (Std.compare_eq_iff_eq.trans eq_comm) rfl rfl

/-! ## The collections behind an operation -/

theorem contains_eq (s : TagStore) (name : String) :
    s.contains name = s.table.contains (storageName name) := by
  rw [contains, values?, Std.ExtTreeMap.contains_eq_isSome_getElem?]

theorem table_unset (s : TagStore) (name : String) :
    (s.unset name).table = s.table.erase (storageName name) := by
  rw [unset]
  split
  · rfl
  · next habsent =>
    -- Nothing is under the name, so that there is nothing to take out.
    refine Std.ExtTreeMap.ext_getElem? fun n => ?_
    rw [getElem?_erase_name]
    split
    · next hn =>
      rw [hn]
      exact Std.ExtTreeMap.getElem?_eq_none (mt Std.ExtTreeMap.contains_iff_mem.mpr habsent)
    · rfl

theorem unset_of_absent (h : s.contains name = false) : s.unset name = s := by
  rw [contains_eq] at h
  rw [unset, if_neg (Bool.eq_false_iff.mp h)]

theorem names_unset (s : TagStore) (name : String) :
    (s.unset name).names =
      if s.contains name then s.names.filter (· != storageName name) else s.names := by
  rw [unset, contains_eq]
  split <;> rfl

@[simp] theorem deleted_unset (s : TagStore) (name : String) :
    (s.unset name).deleted = s.deleted := by
  rw [unset]
  split <;> rfl

theorem deleted_foldl_unset (s : TagStore) (names : List String) :
    (names.foldl unset s).deleted = s.deleted := by
  induction names generalizing s with
  | nil => rfl
  | cons n rest ih => rw [List.foldl_cons, ih, deleted_unset]

theorem unset_storageName (s : TagStore) (name : String) :
    s.unset (storageName name) = s.unset name := by
  rw [unset, unset, storageName_storageName]

@[simp] theorem set_nil (s : TagStore) (name : String) : s.set name [] = s.unset name :=
  unset_storageName s name

theorem set_of_ne_nil (h : values ≠ []) (s : TagStore) (name : String) :
    s.set name values =
      { table := s.table.insert (storageName name) values
        names := if s.contains name then s.names else s.names ++ [storageName name]
        deleted := s.deleted.filter (· != storageName name) } := by
  rw [set, contains_eq]
  exact if_neg (mt List.isEmpty_iff.mp h)

/-- To add a value is to set the values that are there with the new one behind them. -/
theorem add_eq_set (s : TagStore) (name value : String) :
    s.add name value = s.set name (s.values name ++ [value]) := by
  rw [set_of_ne_nil (List.concat_ne_nil _ _), add, TagStore.values, contains, values?]
  cases s.table[storageName name]? <;> rfl

theorem deleted_set (s : TagStore) (name : String) (values : List String) :
    (s.set name values).deleted =
      if values = [] then s.deleted else s.deleted.filter (· != storageName name) := by
  split
  · next h => rw [h, set_nil, deleted_unset]
  · next h => rw [set_of_ne_nil h]

theorem mem_insertName {name n : String} {names : List String} :
    n ∈ insertName name names ↔ n = name ∨ n ∈ names := by
  induction names with
  | nil => rw [insertName, List.mem_cons]
  | cons first rest ih =>
    rw [insertName]
    split
    · next h =>
      rw [h, List.mem_cons]
      exact ⟨.inr, fun h => h.elim .inl id⟩
    · split
      · rw [List.mem_cons]
      · rw [List.mem_cons, List.mem_cons, ih, or_left_comm]

/-! ## The invariant -/

/-- The names in order are distinct and are those under which the table has something, every tag has
values, no name ends in a colon, and no tag has a tombstone. -/
structure WellKept (s : TagStore) : Prop where
  distinct : s.names.Nodup
  keys : ∀ name, name ∈ s.names ↔ name ∈ s.table
  filled : ∀ (name : String) (values : List String), s.table[name]? = some values → values ≠ []
  named : ∀ name ∈ s.names, IsStorageName name
  buried : ∀ name ∈ s.deleted, IsStorageName name
  apart : ∀ name ∈ s.names, name ∉ s.deleted

/-- A tag is there if its name is in the list. -/
theorem WellKept.contains_iff (h : s.WellKept) (name : String) :
    s.contains name = true ↔ storageName name ∈ s.names := by
  rw [contains_eq, Std.ExtTreeMap.contains_iff_mem, h.keys]

theorem WellKept.ne_nil (h : s.WellKept) (hv : s.values? name = some values) : values ≠ [] :=
  h.filled _ values hv

theorem wellKept_empty : empty.WellKept where
  distinct := List.nodup_nil
  keys name := iff_of_false List.not_mem_nil Std.ExtTreeMap.not_mem_empty
  filled name values h := by simp [empty] at h
  named := nofun
  buried := nofun
  apart := nofun

/-! ## The operations -/

/-- A name leaves the list as it leaves the table. -/
theorem WellKept.names_unset_eq (h : s.WellKept) (name : String) :
    (s.unset name).names = s.names.filter (· != storageName name) := by
  rw [names_unset]
  split
  · rfl
  · next habsent =>
    refine (List.filter_eq_self.mpr fun n hn => bne_iff_ne.mpr ?_).symm
    rintro rfl
    exact habsent ((h.contains_iff name).mpr hn)

/-- A name that is given values keeps its place, or is last if it is new. -/
theorem WellKept.names_set (h : s.WellKept) (name : String) (values : List String) :
    (s.set name values).names =
      if values = [] then s.names.filter (· != storageName name)
      else if storageName name ∈ s.names then s.names else s.names ++ [storageName name] := by
  split
  · next hv => rw [hv, set_nil, h.names_unset_eq]
  · next hv =>
    rw [set_of_ne_nil hv]
    exact if_congr (h.contains_iff name) rfl rfl

theorem WellKept.unset (h : s.WellKept) (name : String) : (s.unset name).WellKept := by
  have hmem (n : String) : n ∈ (s.unset name).names ↔ n ∈ s.names ∧ n ≠ storageName name := by
    rw [h.names_unset_eq, List.mem_filter, bne_iff_ne]
  refine ⟨?_, fun n => ?_, fun n values hn => ?_, fun n hn => h.named n ((hmem n).mp hn).1,
    fun n hn => ?_, fun n hn => ?_⟩
  · rw [h.names_unset_eq]
    exact h.distinct.filter _
  · rw [hmem, h.keys, table_unset, Std.ExtTreeMap.mem_erase, and_comm, ne_comm]
    exact and_congr_left' (not_congr Std.compare_eq_iff_eq.symm)
  · rw [table_unset, getElem?_erase_name] at hn
    split at hn
    · cases hn
    · exact h.filled n values hn
  · exact h.buried n (deleted_unset s name ▸ hn)
  · rw [deleted_unset]
    exact h.apart n ((hmem n).mp hn).1

theorem WellKept.set (h : s.WellKept) (name : String) (values : List String) :
    (s.set name values).WellKept := by
  by_cases hv : values = []
  · rw [hv, set_nil]
    exact h.unset name
  rw [set_of_ne_nil hv]
  have hkey := isStorageName_storageName name
  have hmem (n : String) :
      n ∈ (if s.contains name then s.names else s.names ++ [storageName name])
        ↔ n ∈ s.names ∨ n = storageName name := by
    split
    · next hthere =>
      refine (or_iff_left_of_imp ?_).symm
      rintro rfl
      exact (h.contains_iff name).mp hthere
    · rw [List.mem_append, List.mem_singleton]
  refine ⟨?_, fun n => ?_, fun n given hn => ?_, fun n hn => ?_, fun n hn => ?_, fun n hn hd => ?_⟩
  · dsimp only
    split
    · exact h.distinct
    · next habsent =>
      have hnew := mt (h.contains_iff name).mpr habsent
      exact List.nodup_append_comm.mp (List.nodup_cons.mpr ⟨hnew, h.distinct⟩)
  · rw [hmem, h.keys, Std.ExtTreeMap.mem_insert, Std.compare_eq_iff_eq, or_comm, eq_comm]
  · rw [getElem?_insert_name] at hn
    split at hn
    · exact Option.some.inj hn ▸ hv
    · exact h.filled n given hn
  · rcases (hmem n).mp hn with hn | rfl
    · exact h.named n hn
    · exact hkey
  · exact h.buried n (List.mem_of_mem_filter hn)
  · obtain ⟨hd, hne⟩ := List.mem_filter.mp hd
    rcases (hmem n).mp hn with hn | rfl
    · exact h.apart n hn hd
    · simp at hne

theorem WellKept.add (h : s.WellKept) (name value : String) : (s.add name value).WellKept :=
  add_eq_set s name value ▸ h.set name _

theorem WellKept.delete (h : s.WellKept) (name : String) : (s.delete name).WellKept := by
  have hunset := h.unset name
  rw [TagStore.delete, unset_storageName]
  refine ⟨hunset.distinct, hunset.keys, hunset.filled, hunset.named, fun n hn => ?_,
    fun n hn hd => ?_⟩
  · rcases mem_insertName.mp hn with rfl | hn
    · exact isStorageName_storageName name
    · exact hunset.buried n hn
  · rcases mem_insertName.mp hd with rfl | hd
    · simp [h.names_unset_eq] at hn
    · exact hunset.apart n hn hd

theorem WellKept.foldl_unset (h : s.WellKept) (names : List String) :
    (names.foldl TagStore.unset s).WellKept := by
  induction names generalizing s with
  | nil => exact h
  | cons n rest ih => exact ih (h.unset n)

theorem WellKept.unsetAll (h : s.WellKept) (start : String) : (s.unsetAll start).WellKept :=
  h.foldl_unset _

theorem wellKept_ofPairs (pairs : List (String × String)) : (ofPairs pairs).WellKept := by
  rw [ofPairs]
  generalize hs : empty = s
  have h : s.WellKept := hs ▸ wellKept_empty
  clear hs
  induction pairs generalizing s with
  | nil => exact h
  | cons pair rest ih => exact ih _ (h.add pair.1 pair.2)

/-- What is done to a store from outside. -/
inductive Operation where
  | ofPairs (pairs : List (String × String))
  | set (name : String) (values : List String)
  | setOne (name value : String)
  | add (name value : String)
  | unset (name : String)
  | delete (name : String)

/-- The store after an operation. The pairs of `ofPairs` make a new store. -/
def Operation.apply (s : TagStore) : Operation → TagStore
  | .ofPairs pairs => TagStore.ofPairs pairs
  | .set name values => s.set name values
  | .setOne name value => s.setOne name value
  | .add name value => s.add name value
  | .unset name => s.unset name
  | .delete name => s.delete name

theorem WellKept.apply (h : s.WellKept) (op : Operation) : (op.apply s).WellKept := by
  cases op with
  | ofPairs pairs => exact wellKept_ofPairs pairs
  | set name values => exact h.set name values
  | setOne name value => exact h.set name [value]
  | add name value => exact h.add name value
  | unset name => exact h.unset name
  | delete name => exact h.delete name

theorem WellKept.foldl_apply (h : s.WellKept) (ops : List Operation) :
    (ops.foldl Operation.apply s).WellKept := by
  induction ops generalizing s with
  | nil => exact h
  | cons op rest ih => exact ih (h.apply op)

end TagStore
end Retag

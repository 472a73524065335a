import Retag.Proofs.Store.Invariant
import Retag.Script.Eval

/-!
# What is found behind an operation

Every operation changes what is found under the names that denote its tag, and nothing else. Two
names denote the same tag if they differ only by colons at the end. In a store that is kept well,
the tags in order are what is found, and with the tombstones they are all that there is. A script
that sets a tag reads the value back; to set the empty one is to unset the tag.
-/

namespace Retag

namespace TagStore

variable {s : TagStore} {name n : String}

theorem values?_unset :
    (s.unset name).values? n =
      if storageName n = storageName name then none else s.values? n := by
  rw [values?, table_unset, getElem?_erase_name, values?]

theorem values?_set {values : List String} (hv : values ≠ []) :
    (s.set name values).values? n =
      if storageName n = storageName name then some values else s.values? n := by
  rw [values?, set_of_ne_nil hv, getElem?_insert_name, values?]

theorem values?_add (value : String) :
    (s.add name value).values? n =
      if storageName n = storageName name then some (s.values name ++ [value])
      else s.values? n := by
  rw [add_eq_set, values?_set (List.concat_ne_nil _ _)]

theorem get_of_values?_eq_none (h : s.values? n = none) : s.get n = "" := by
  rw [get, get?, h]
  rfl

theorem get_of_values?_eq_one {value : String} (h : s.values? n = some [value]) :
    s.get n = value := by
  rw [get, get?, h]
  rfl

theorem get_congr {s' : TagStore} (h : s.values? n = s'.values? n) : s.get n = s'.get n := by
  rw [get, get, get?, get?, h]

/-! ## The tags in order -/

/-- Where the names that are asked for are in the same order and have the same values, the tags
under them are the same. -/
theorem filter_tags_congr {s s' : TagStore} {p : String → Bool}
    (hnames : s'.names.filter p = s.names.filter p)
    (hvalues : ∀ n ∈ s.names, p n = true → s'.values n = s.values n) :
    s'.tags.filter (p ·.name) = s.tags.filter (p ·.name) := by
  have hfilter (s : TagStore) :
      s.tags.filter (p ·.name) = (s.names.filter p).map fun n => ⟨n, s.values n⟩ := by
    rw [tags, List.filter_map]
    rfl
  rw [hfilter, hfilter, hnames]
  refine List.map_congr_left fun n hn => ?_
  obtain ⟨hmem, hp⟩ := List.mem_filter.mp hn
  rw [hvalues n hmem hp]

/-- The tag of the name is taken out, and the others stay in their order. -/
theorem WellKept.tags_unset (h : s.WellKept) (name : String) :
    (s.unset name).tags = s.tags.filter (·.name != storageName name) := by
  rw [tags, tags, h.names_unset_eq, List.filter_map]
  refine List.map_congr_left fun n hn => ?_
  obtain ⟨hmem, hne⟩ := List.mem_filter.mp hn
  rw [values, values?_unset, storageName_eq_self (h.named n hmem), if_neg (bne_iff_ne.mp hne),
    values]

theorem map_name_tags (s : TagStore) : s.tags.map (·.name) = s.names := by
  rw [tags, List.map_map]
  exact List.map_id s.names

/-- In the table there is what is listed. -/
theorem WellKept.table_eq (h : s.WellKept) (name : String) :
    s.table[name]? = if name ∈ s.names then some (s.values name) else none := by
  split
  · next hname =>
    obtain ⟨given, hgiven⟩ := Option.isSome_iff_exists.mp
      (Std.ExtTreeMap.mem_iff_isSome_getElem?.mp ((h.keys name).mp hname))
    rw [values, values?, storageName_eq_self (h.named name hname), hgiven, Option.getD_some]
  · next hname =>
    exact Std.ExtTreeMap.getElem?_eq_none (mt (h.keys name).mpr hname)

/-- The tags in order and the tombstones are all that there is to a store that is kept well. -/
theorem WellKept.ext {s s' : TagStore} (h : s.WellKept) (h' : s'.WellKept)
    (htags : s.tags = s'.tags) (hdeleted : s.deleted = s'.deleted) : s = s' := by
  have hnames : s.names = s'.names := by rw [← map_name_tags, htags, map_name_tags]
  have hvalues : ∀ n ∈ s'.names, s.values n = s'.values n := by
    rw [tags, tags, hnames] at htags
    exact fun n hn => congrArg Tag.values (List.map_inj_left.mp htags n hn)
  have htable : s.table = s'.table := by
    refine Std.ExtTreeMap.ext_getElem? fun n => ?_
    rw [h.table_eq, h'.table_eq, hnames]
    exact if_ctx_congr Iff.rfl (fun hn => congrArg some (hvalues n hn)) fun _ => rfl
  exact TagStore.mk.injEq .. ▸ ⟨htable, hnames, hdeleted⟩

/-! ## From scripts -/

/-- Unless the name stands for a namespace, it is the one that is unset. -/
theorem values?_unsetIn (h : Script.Eval.namespace? (internalName name) = none) :
    (Script.Eval.unsetIn name s).values? n =
      if storageName n = storageName (internalName name) then none else s.values? n := by
  rw [Script.Eval.unsetIn, h]
  exact values?_unset

theorem get_setIn (h : Script.Eval.namespace? (internalName name) = none) (value : String) :
    (Script.Eval.setIn name value s).get n =
      if storageName n = storageName (internalName name) then value else s.get n := by
  rw [Script.Eval.setIn]
  by_cases hv : value.isEmpty
  · have hempty : value = "" := String.isEmpty_iff.mp hv
    have hfound := values?_unsetIn (s := s) (n := n) h
    rw [if_pos hv]
    split
    · next hn =>
      rw [if_pos hn] at hfound
      rw [get_of_values?_eq_none hfound, hempty]
    · next hn =>
      rw [if_neg hn] at hfound
      exact get_congr hfound
  · have hfound : (s.set (internalName name) [value]).values? n =
        if storageName n = storageName (internalName name) then some [value] else s.values? n :=
      values?_set (List.cons_ne_nil value [])
    rw [if_neg hv, setOne]
    split
    · next hn =>
      rw [if_pos hn] at hfound
      exact get_of_values?_eq_one hfound
    · next hn =>
      rw [if_neg hn] at hfound
      exact get_congr hfound

end TagStore
end Retag

import Mathlib.Data.Finset.Sort
import Mathlib.Data.List.DropRight
import Mathlib.Data.String.Basic
import Retag.Proofs.Store.Invariant

/-!
# Stores as ledgers

A ledger is what a store stands for: pairs of a name and values, in order and each name once, and a
set of tombstones. It knows nothing of colons at the ends of names, nor of a table beside a list.
The three collections of a store represent a ledger, and every operation on both keeps them
together. Main statement: a store that is given operations one after another answers every question
as the ledger does that is given the same operations with bare names.
-/

namespace Retag

/-- A name without the colons at its end. -/
def bareName (name : String) : String := String.ofList (name.toList.rdropWhile (· = ':'))

theorem storageName_eq_bareName (name : String) : storageName name = bareName name := rfl

/-- The values of a tag that is present. -/
abbrev Values := { values : List String // values ≠ [] }

/-- Pairs of names and values in order, each name once, and a set of tombstones. -/
@[ext]
structure Ledger where
  pairs : List (String × Values) := []
  tombstones : Finset String := ∅
  distinct : (pairs.map (·.1)).Nodup := by exact List.nodup_nil

namespace Ledger

/-! ## Questions -/

def names (l : Ledger) : List String := l.pairs.map (·.1)

def values? (l : Ledger) (name : String) : Option Values := l.pairs.lookup name

/-- The pairs as they are listed. -/
def listing (l : Ledger) : List (String × List String) := l.pairs.map fun p => (p.1, p.2.1)

/-! ## Operations -/

/-- Changes the values of a name where it stands, or puts it last if it is new; its tombstone goes.
A new name had no values. -/
def put (l : Ledger) (name : String) (change : List String → Values) : Ledger where
  pairs :=
    if name ∈ l.names then l.pairs.map fun p => if p.1 = name then (p.1, change p.2.1) else p
    else l.pairs ++ [(name, change [])]
  tombstones := l.tombstones.erase name
  distinct := by
    split
    · have hsame : (fun p : String × Values => (if p.1 = name then (p.1, change p.2.1) else p).1)
          = (·.1) := by
        funext p
        split <;> rfl
      rw [List.map_map, Function.comp_def, hsame]
      exact l.distinct
    · next h =>
      rw [List.map_append]
      exact List.nodup_append_comm.mp (List.nodup_cons.mpr ⟨h, l.distinct⟩)

/-- Takes a name out, and leaves the others in their order and the tombstones alone. -/
def remove (l : Ledger) (name : String) : Ledger where
  pairs := l.pairs.filter (·.1 ≠ name)
  tombstones := l.tombstones
  distinct := l.distinct.sublist (List.filter_sublist.map _)

def set (l : Ledger) (name : String) (values : List String) : Ledger :=
  if h : values = [] then l.remove name else l.put name fun _ => ⟨values, h⟩

def add (l : Ledger) (name value : String) : Ledger :=
  l.put name fun values => ⟨values ++ [value], List.concat_ne_nil value values⟩

def delete (l : Ledger) (name : String) : Ledger :=
  { l.remove name with tombstones := insert name l.tombstones }

def ofPairs (pairs : List (String × String)) : Ledger :=
  pairs.foldl (fun l (name, value) => l.add (bareName name) value) {}

/-- The ledger after an operation, with the name that it is about made bare. -/
def apply (l : Ledger) : TagStore.Operation → Ledger
  | .ofPairs pairs => ofPairs pairs
  | .set name values => l.set (bareName name) values
  | .setOne name value => l.set (bareName name) [value]
  | .add name value => l.add (bareName name) value
  | .unset name => l.remove (bareName name)
  | .delete name => l.delete (bareName name)

/-! ## What stands behind an operation -/

theorem lookup_cons_eq (p : String × Values) (pairs : List (String × Values)) (n : String) :
    (p :: pairs).lookup n = if n = p.1 then some p.2 else pairs.lookup n := by
  rw [List.lookup_cons]
  split
  · next h => rw [if_pos (beq_iff_eq.mp h)]
  · next h => rw [if_neg (beq_eq_false_iff_ne.mp h)]

/-- Where the values of one name change, the others are found as before. -/
theorem lookup_map_change (change : List String → Values) (pairs : List (String × Values))
    (name n : String) :
    (pairs.map fun p => if p.1 = name then (p.1, change p.2.1) else p).lookup n =
      if n = name then (pairs.lookup n).map fun vs => change vs.1 else pairs.lookup n := by
  induction pairs with
  | nil => rw [List.map_nil, List.lookup_nil, Option.map_none, ite_self]
  | cons p rest ih =>
    have hkey : (if p.1 = name then (p.1, change p.2.1) else p).1 = p.1 := by split <;> rfl
    rw [List.map_cons, lookup_cons_eq, lookup_cons_eq, hkey, ih]
    by_cases hp : n = p.1
    · subst hp
      by_cases hn : p.1 = name
      · simp only [hn, if_true, Option.map_some]
      · simp only [hn, if_true, if_false]
    · simp only [hp, if_false]

theorem lookup_filter_ne (pairs : List (String × Values)) (name n : String) :
    (pairs.filter (·.1 ≠ name)).lookup n = if n = name then none else pairs.lookup n := by
  induction pairs with
  | nil => rw [List.filter_nil, List.lookup_nil, ite_self]
  | cons p rest ih =>
    rw [List.filter_cons, lookup_cons_eq]
    by_cases hp : p.1 = name
    · subst hp
      rw [if_neg (by simp), ih]
      split <;> rfl
    · rw [if_pos (decide_eq_true hp), lookup_cons_eq, ih]
      split
      · next hn => rw [if_neg (hn ▸ hp)]
      · rfl

section Operations

variable (l : Ledger) (name n : String)

theorem mem_names : name ∈ l.names ↔ (l.values? name).isSome = true := by
  rw [names, values?, List.mem_map, List.lookup_isSome_iff]
  refine exists_congr fun p => and_congr_right fun _ => ?_
  rw [beq_iff_eq, eq_comm]

theorem names_put (change : List String → Values) :
    (l.put name change).names = if name ∈ l.names then l.names else l.names ++ [name] := by
  rw [names, put]
  dsimp only
  split
  · rw [List.map_map]
    refine List.map_congr_left fun p _ => ?_
    rw [Function.comp_apply]
    split <;> rfl
  · rw [List.map_append]
    rfl

theorem values?_put (change : List String → Values) :
    (l.put name change).values? n =
      if n = name then some (change (((l.values? name).map (·.1)).getD [])) else l.values? n := by
  rw [values?, put]
  dsimp only
  split
  · next h =>
    obtain ⟨vs, hvs⟩ := Option.isSome_iff_exists.mp ((l.mem_names name).mp h)
    rw [lookup_map_change]
    refine if_ctx_congr Iff.rfl (fun hn => ?_) fun _ => rfl
    rw [hn, ← values?, hvs]
    rfl
  · next h =>
    have habsent := Option.not_isSome_iff_eq_none.mp (mt (l.mem_names name).mpr h)
    rw [List.lookup_append, ← values?, lookup_cons_eq]
    split
    · next hn =>
      rw [hn, habsent]
      rfl
    · exact Option.or_none

theorem names_remove : (l.remove name).names = l.names.filter (· ≠ name) := by
  rw [names, names, remove, List.filter_map]
  rfl

theorem values?_remove :
    (l.remove name).values? n = if n = name then none else l.values? n :=
  lookup_filter_ne l.pairs name n

end Operations

/-! ## Tombstones in order -/

/-- A name goes in between the smaller and the greater ones. -/
theorem pairwise_insertName {names : List String} (h : names.Pairwise (· < ·)) :
    (TagStore.insertName name names).Pairwise (· < ·) := by
  induction names with
  | nil => exact List.pairwise_singleton _ _
  | cons first rest ih =>
    obtain ⟨hfirst, hrest⟩ := List.pairwise_cons.mp h
    rw [TagStore.insertName]
    split
    · exact h
    · next hne =>
      split
      · next hlt =>
        refine List.pairwise_cons.mpr ⟨fun n hn => ?_, h⟩
        rcases List.mem_cons.mp hn with rfl | hn
        · exact hlt
        · exact hlt.trans (hfirst n hn)
      · next hge =>
        refine List.pairwise_cons.mpr ⟨fun n hn => ?_, ih hrest⟩
        rcases TagStore.mem_insertName.mp hn with rfl | hn
        · exact lt_of_le_of_ne (not_lt.mp hge) (Ne.symm hne)
        · exact hfirst n hn

/-- Adding to the tombstones in order is adding to the set. -/
theorem insertName_sort (set : Finset String) (name : String) :
    TagStore.insertName name set.sort = (insert name set).sort := by
  have hordered : (TagStore.insertName name set.sort).Pairwise (· < ·) :=
    pairwise_insertName set.sortedLT_sort.pairwise
  refine hordered.sortedLT.eq_of_mem_iff (Finset.sortedLT_sort _) fun n => ?_
  rw [TagStore.mem_insertName, Finset.mem_sort, Finset.mem_sort, Finset.mem_insert]

theorem filter_sort (set : Finset String) (name : String) :
    set.sort.filter (· != name) = (set.erase name).sort := by
  have hordered := set.sortedLT_sort.pairwise.filter (· != name)
  refine hordered.sortedLT.eq_of_mem_iff (Finset.sortedLT_sort _) fun n => ?_
  rw [List.mem_filter, Finset.mem_sort, Finset.mem_sort, Finset.mem_erase, bne_iff_ne, and_comm]

/-! ## The ledger of a store -/

/-- The collections of a store hold what the ledger holds, and the names of the ledger are bare. -/
structure Represents (s : TagStore) (l : Ledger) : Prop where
  names : s.names = l.names
  table : ∀ name, s.table[name]? = (l.values? name).map (·.1)
  deleted : s.deleted = l.tombstones.sort
  bare : ∀ name ∈ l.names, IsStorageName name

namespace Represents

variable {s s' : TagStore} {l l' : Ledger}

theorem values? (h : Represents s l) (name : String) :
    s.values? name = (l.values? (bareName name)).map (·.1) :=
  h.table (bareName name)

theorem values (h : Represents s l) (name : String) :
    s.values name = ((l.values? (bareName name)).map (·.1)).getD [] := by
  rw [TagStore.values, h.values?]

theorem contains (h : Represents s l) (name : String) :
    s.contains name = true ↔ bareName name ∈ l.names := by
  rw [TagStore.contains, h.values?, Option.isSome_map, mem_names]

/-! ### Operations -/

theorem empty : Represents .empty {} where
  names := rfl
  table _ := Std.ExtTreeMap.getElem?_empty
  deleted := Finset.sort_empty _ |>.symm
  bare := nofun

/-- What is new in the table is last in the list, and what is not stays where it was. -/
theorem put (h : Represents s l) (name : String) (change : List String → Values) :
    Represents (s.set name (change (s.values name)).1) (l.put (bareName name) change) := by
  rw [TagStore.set_of_ne_nil (change _).2]
  refine ⟨?_, fun n => ?_, ?_, fun n hn => ?_⟩
  · rw [names_put, h.names]
    exact if_congr (h.contains name) rfl rfl
  · rw [TagStore.getElem?_insert_name, storageName_eq_bareName, values?_put, ← h.values]
    split
    · rfl
    · exact h.table n
  · dsimp only
    rw [h.deleted]
    exact filter_sort l.tombstones _
  · rw [names_put] at hn
    split at hn
    · exact h.bare n hn
    · rcases List.mem_append.mp hn with hn | hn
      · exact h.bare n hn
      · rw [List.mem_singleton.mp hn]
        exact isStorageName_storageName name

/-- What leaves the table leaves the list. -/
theorem remove (h : Represents s l) (name : String) :
    Represents (s.unset name) (l.remove (bareName name)) := by
  refine ⟨?_, fun n => ?_, ?_, fun n hn => ?_⟩
  · rw [TagStore.names_unset, names_remove, h.names]
    split
    · exact List.filter_congr fun n _ => (decide_not (p := n = bareName name)).symm
    · next habsent =>
      refine (List.filter_eq_self.mpr fun n hn => decide_eq_true ?_).symm
      rintro rfl
      exact habsent ((h.contains name).mpr hn)
  · rw [TagStore.table_unset, TagStore.getElem?_erase_name, storageName_eq_bareName,
      values?_remove]
    split
    · rfl
    · exact h.table n
  · rw [TagStore.deleted_unset]
    exact h.deleted
  · rw [names_remove] at hn
    exact h.bare n (List.mem_of_mem_filter hn)

theorem set (h : Represents s l) (name : String) (values : List String) :
    Represents (s.set name values) (l.set (bareName name) values) := by
  rw [Ledger.set]
  split
  · next hv =>
    rw [hv, TagStore.set_nil]
    exact h.remove name
  · next hv => exact h.put name fun _ => ⟨values, hv⟩

theorem add (h : Represents s l) (name value : String) :
    Represents (s.add name value) (l.add (bareName name) value) := by
  rw [TagStore.add_eq_set]
  exact h.put name fun values => ⟨values ++ [value], List.concat_ne_nil value values⟩

theorem delete (h : Represents s l) (name : String) :
    Represents (s.delete name) (l.delete (bareName name)) := by
  have hremove := h.remove name
  rw [TagStore.delete, TagStore.unset_storageName]
  refine ⟨hremove.names, hremove.table, ?_, hremove.bare⟩
  exact (congrArg (TagStore.insertName _) hremove.deleted).trans (insertName_sort _ _)

theorem ofPairs (pairs : List (String × String)) :
    Represents (.ofPairs pairs) (.ofPairs pairs) := by
  have hfold {s : TagStore} {l : Ledger} (h : Represents s l) :
      Represents (pairs.foldl (fun s (name, value) => s.add name value) s)
        (pairs.foldl (fun l (name, value) => l.add (bareName name) value) l) := by
    induction pairs generalizing s l with
    | nil => exact h
    | cons pair rest ih => exact ih (h.add pair.1 pair.2)
  exact hfold empty

/-- A step: a store and its ledger stay together. -/
theorem apply (h : Represents s l) (op : TagStore.Operation) :
    Represents (op.apply s) (l.apply op) := by
  cases op with
  | ofPairs pairs => exact ofPairs pairs
  | set name values => exact h.set name values
  | setOne name value => exact h.set name [value]
  | add name value => exact h.add name value
  | unset name => exact h.remove name
  | delete name => exact h.delete name

/-- A run: so they do over any number of operations. -/
theorem foldl (h : Represents s l) (ops : List TagStore.Operation) :
    Represents (ops.foldl TagStore.Operation.apply s) (ops.foldl Ledger.apply l) := by
  induction ops generalizing s l with
  | nil => exact h
  | cons op rest ih => exact ih (h.apply op)

end Represents

/-! ## Answers -/

/-- A store answers every question as the ledger does that is asked with bare names. -/
structure Answers (s : TagStore) (l : Ledger) : Prop where
  values? : ∀ name, s.values? name = (l.values? (bareName name)).map (·.1)
  values : ∀ name, s.values name = ((l.values? (bareName name)).map (·.1)).getD []
  get? : ∀ name, s.get? name = (l.values? (bareName name)).map (String.intercalate "; " ·.1)
  contains : ∀ name, s.contains name = true ↔ bareName name ∈ l.names
  names : s.names = l.names
  savedNames : s.savedNames = l.names.filter fun n => ¬ ['~'] <+: n.toList
  listed : s.tags.map (fun t => (t.name, t.values)) = l.listing
  size : s.size = l.pairs.length
  isEmpty : s.isEmpty = true ↔ l.pairs = []
  isDeleted : ∀ name, s.isDeleted name = true ↔ bareName name ∈ l.tombstones
  deleted : s.deleted = l.tombstones.sort

/-- A name that starts with a tilde is hidden. -/
theorem not_isHidden (name : String) : (!isHidden name) = decide (¬ ['~'] <+: name.toList) := by
  rw [isHidden]
  rcases name.toList with _ | ⟨c, cs⟩
  · rfl
  · have hstarts : ['~'] <+: c :: cs ↔ c = '~' := by
      rw [List.cons_prefix_cons, and_iff_left List.nil_prefix, eq_comm]
    rw [decide_eq_decide.mpr (not_congr hstarts), decide_not, List.head?_cons]
    rfl

/-- Under the name of a pair its own values are found. -/
theorem lookup_of_mem {pairs : List (String × Values)} (h : (pairs.map (·.1)).Nodup)
    {p : String × Values} (hp : p ∈ pairs) : pairs.lookup p.1 = some p.2 := by
  induction pairs with
  | nil => cases hp
  | cons q rest ih =>
    obtain ⟨hfirst, hrest⟩ := List.nodup_cons.mp h
    rcases List.mem_cons.mp hp with rfl | hp
    · exact List.lookup_cons_self
    · have hne : p.1 ≠ q.1 := fun he => hfirst (List.mem_map.mpr ⟨p, hp, he⟩)
      rw [lookup_cons_eq, if_neg hne]
      exact ih hrest hp

/-- Where names are distinct, the pairs of a name are the one that is found under it. -/
theorem filter_eq_lookup {pairs : List (String × Values)} (h : (pairs.map (·.1)).Nodup)
    (key : String) : pairs.filter (·.1 = key) = ((pairs.lookup key).map (key, ·)).toList := by
  induction pairs with
  | nil => rfl
  | cons p rest ih =>
    obtain ⟨hfirst, hrest⟩ := List.nodup_cons.mp h
    by_cases hp : p.1 = key
    · have hnone : rest.filter (·.1 = key) = [] := by
        refine List.filter_eq_nil_iff.mpr fun q hq he => hfirst ?_
        exact List.mem_map.mpr ⟨q, hq, (of_decide_eq_true he).trans hp.symm⟩
      subst hp
      rw [List.filter_cons, if_pos (decide_eq_true rfl), hnone, List.lookup_cons_self]
      rfl
    · rw [List.filter_cons, if_neg (mt of_decide_eq_true hp), lookup_cons_eq,
        if_neg (Ne.symm hp)]
      exact ih hrest

section Answers

variable {s s' : TagStore} {l l' : Ledger}

theorem Represents.get? (h : Represents s l) (name : String) :
    s.get? name = (l.values? (bareName name)).map (String.intercalate "; " ·.1) := by
  rw [TagStore.get?, h.values?]
  rcases l.values? (bareName name) with _ | ⟨vs, hvs⟩
  · rfl
  · obtain ⟨v, vs, rfl⟩ := List.exists_cons_of_ne_nil hvs
    rfl

/-- The tag of a pair. -/
def tagOf (p : String × Values) : Tag := ⟨p.1, p.2.1⟩

theorem tagOf_injective : Function.Injective tagOf := by
  rintro ⟨n, vs⟩ ⟨n', vs'⟩ h
  obtain ⟨hn, hvs⟩ := Tag.mk.inj h
  exact Prod.ext hn (Subtype.ext hvs)

/-- The names in the list are bare, so that each is looked up as what it is. -/
theorem Represents.tags (h : Represents s l) : s.tags = l.pairs.map tagOf := by
  rw [TagStore.tags, h.names, Ledger.names, List.map_map]
  refine List.map_congr_left fun p hp => congrArg (Tag.mk p.1) ?_
  have hbare : bareName p.1 = p.1 :=
    storageName_eq_self (h.bare p.1 (List.mem_map.mpr ⟨p, hp, rfl⟩))
  rw [h.values, hbare, Ledger.values?, lookup_of_mem l.distinct hp]
  rfl

theorem Represents.answers (h : Represents s l) : Answers s l where
  values? := h.values?
  values := h.values
  get? := h.get?
  contains := h.contains
  names := h.names
  savedNames := by
    rw [TagStore.savedNames, h.names]
    exact List.filter_congr fun n _ => not_isHidden n
  listed := by
    rw [h.tags, List.map_map]
    rfl
  size := by rw [TagStore.size, h.names, Ledger.names, List.length_map]
  isEmpty := by rw [TagStore.isEmpty, h.names, Ledger.names, List.isEmpty_iff, List.map_eq_nil_iff]
  isDeleted name := by
    rw [TagStore.isDeleted, h.deleted, List.contains_iff_mem, Finset.mem_sort,
      storageName_eq_bareName]
  deleted := h.deleted

/-- A store represents one ledger, and a ledger is represented by one store. -/
theorem Represents.eq_iff (h : Represents s l) (h' : Represents s' l') : s = s' ↔ l = l' := by
  constructor
  · rintro rfl
    refine Ledger.ext (tagOf_injective.list_map (h.tags.symm.trans h'.tags)) ?_
    rw [← l.tombstones.sort_toFinset (· ≤ ·), ← h.deleted, h'.deleted, Finset.sort_toFinset]
  · rintro rfl
    have htable : s.table = s'.table :=
      Std.ExtTreeMap.ext_getElem? fun name => (h.table name).trans (h'.table name).symm
    have hnames := h.names.trans h'.names.symm
    have hdeleted := h.deleted.trans h'.deleted.symm
    exact TagStore.mk.injEq .. ▸ ⟨htable, hnames, hdeleted⟩

/-- A name is listed with its values once if it is there. -/
theorem Represents.filter_tags (h : Represents s l) (name : String) :
    s.tags.filter (·.name = bareName name)
      = if s.contains name then [⟨bareName name, s.values name⟩] else [] := by
  rw [h.tags, List.filter_map]
  have hfound := filter_eq_lookup l.distinct (bareName name)
  rw [TagStore.contains, TagStore.values, h.values?, Ledger.values?]
  exact (congrArg (List.map tagOf) hfound).trans (by cases l.pairs.lookup (bareName name) <;> rfl)

end Answers
end Ledger

open TagStore in
/-- A store that is made of pairs and then changed by operations answers every question as the
ledger does that went through the same, with every name made bare; two such stores are equal if and
only if their ledgers are; and every name that is present is listed once, with its own values. -/
theorem stores_answer_as_ledgers (pairs : List (String × String)) (ops : List Operation) :
    let s := ops.foldl Operation.apply (.ofPairs pairs)
    let l := ops.foldl Ledger.apply (.ofPairs pairs)
    Ledger.Answers s l ∧
    (∀ (pairs' : List (String × String)) (ops' : List Operation),
      s = ops'.foldl Operation.apply (.ofPairs pairs') ↔
        l = ops'.foldl Ledger.apply (.ofPairs pairs')) ∧
    ∀ name, s.tags.filter (·.name = bareName name)
      = if s.contains name then [⟨bareName name, s.values name⟩] else [] := by
  intro s l
  have hmade (pairs' : List (String × String)) (ops' : List Operation) :=
    (Ledger.Represents.ofPairs pairs').foldl ops'
  have h : Ledger.Represents s l := hmade pairs ops
  exact ⟨h.answers, fun pairs' ops' => h.eq_iff (hmade pairs' ops'), h.filter_tags⟩

end Retag

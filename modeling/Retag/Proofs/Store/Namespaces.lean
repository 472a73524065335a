import Retag.Proofs.Store.Assignment
import Retag.Proofs.Store.Writing

/-!
# Namespaces

A name that ends in `:*` stands for a namespace when a tag is unset: for every tag whose name starts
with what is in front of the star. Any other name stands for one tag. Either way the tags that the
name covers are taken out, which comes to the same as taking them out one by one, and nothing else
is different. Only where a tag is given a value does a name that ends in `:*` denote a tag of its own.
-/

namespace Retag

open Script Library

namespace TagStore

/-! ## What is covered -/

/-- What a script unsets under a name: all of a namespace, or else the tag that the name denotes. -/
def Covers (name stored : String) : Prop :=
  let written := (internalName name).toList
  if [':', '*'] <:+ written then written.dropLast <+: stored.toList
  else stored = bareName (internalName name)

instance (name : String) : DecidablePred (Covers name) := fun stored => by
  unfold Covers
  infer_instance

/-- The namespace that a name stands for, if any, is all but the star. -/
theorem namespace?_eq (name : String) :
    Eval.namespace? name =
      if [':', '*'] <:+ name.toList then some (String.ofList name.toList.dropLast) else none := by
  split
  · next hends =>
    obtain ⟨front, hfront⟩ := hends
    have hreverse : name.toList.reverse = '*' :: ':' :: front.reverse := by simp [← hfront]
    have hstart : name.toList.dropLast = (':' :: front.reverse).reverse := by
      simp [← hfront, List.dropLast_append_of_ne_nil]
    rw [Eval.namespace?, hreverse, hstart]
    rfl
  · next hends =>
    rw [Eval.namespace?]
    split
    · next rest hreverse =>
      refine absurd ⟨rest.reverse, ?_⟩ hends
      rw [← List.reverse_inj, hreverse]
      simp
    · rfl

variable {s : TagStore}

/-! ## One by one -/

/-- Names under which tags are kept, taken out one after the other, are all taken out. -/
theorem WellKept.tags_foldl_unset (h : s.WellKept) (names : List String)
    (hnames : ∀ n ∈ names, IsStorageName n) :
    (names.foldl TagStore.unset s).tags = s.tags.filter fun t => t.name ∉ names := by
  induction names generalizing s with
  | nil => simp
  | cons n rest ih =>
    obtain ⟨hn, hrest⟩ := List.forall_mem_cons.mp hnames
    rw [List.foldl_cons, ih (h.unset n) hrest, h.tags_unset, storageName_eq_self hn,
      List.filter_filter]
    refine List.filter_congr fun t _ => ?_
    simp [bne, Bool.and_comm, Bool.beq_eq_decide_eq]

theorem WellKept.named_covered (h : s.WellKept) (name : String) :
    ∀ n ∈ s.names.filter (Covers name), IsStorageName n :=
  fun n hn => h.named n (List.mem_of_mem_filter hn)

/-- The covered names are exactly those that are taken out. -/
theorem WellKept.tags_foldl_unset_covered (h : s.WellKept) (name : String) :
    ((s.names.filter (Covers name)).foldl TagStore.unset s).tags
      = s.tags.filter fun t => ¬ Covers name t.name := by
  rw [h.tags_foldl_unset _ (h.named_covered name)]
  refine List.filter_congr fun t ht => ?_
  have hmem : t.name ∈ s.names := map_name_tags s ▸ List.mem_map_of_mem ht
  simp [hmem]

/-- A namespace is unset by taking its names out in order. Where the name denotes one tag, that is
the only one that it covers, if it is there. -/
theorem WellKept.foldl_unset_covered (h : s.WellKept) (name : String) :
    (s.names.filter (Covers name)).foldl TagStore.unset s = Eval.unsetIn name s := by
  rw [Eval.unsetIn, namespace?_eq]
  by_cases hends : [':', '*'] <:+ (internalName name).toList
  · rw [if_pos hends]
    refine congrArg (List.foldl _ s) (List.filter_congr fun n _ => ?_)
    have hcovers : Covers name n ↔ (internalName name).toList.dropLast <+: n.toList := by
      rw [Covers, if_pos hends]
    rw [String.toList_ofList, Bool.eq_iff_iff, decide_eq_true_iff, hcovers,
      List.isPrefixOf_iff_prefix]
  · rw [if_neg hends]
    refine (h.foldl_unset _).ext (h.unset _) ?_ ?_
    · have hcovers (n : String) : Covers name n ↔ n = storageName (internalName name) := by
        rw [Covers, if_neg hends, storageName_eq_bareName]
      rw [h.tags_foldl_unset_covered, h.tags_unset]
      refine List.filter_congr fun t _ => ?_
      rw [Bool.eq_iff_iff, decide_eq_true_iff, hcovers, bne_iff_ne]
    · rw [deleted_foldl_unset, deleted_unset]

theorem values?_foldl_unset (names : List String) (hnames : ∀ n ∈ names, IsStorageName n)
    (s : TagStore) (other : String) :
    (names.foldl unset s).values? other =
      if bareName other ∈ names then none else s.values? other := by
  induction names generalizing s with
  | nil => rw [List.foldl_nil, if_neg List.not_mem_nil]
  | cons n rest ih =>
    obtain ⟨hn, hrest⟩ := List.forall_mem_cons.mp hnames
    rw [List.foldl_cons, ih hrest, values?_unset, storageName_eq_self hn, storageName_eq_bareName]
    by_cases hother : bareName other = n
    · simp [hother]
    · simp [hother]

/-- Nothing is found afterwards under the names that are covered, and what was there under all
others. -/
theorem WellKept.values?_unsetIn (h : s.WellKept) (name other : String) :
    (Eval.unsetIn name s).values? other =
      if Covers name (bareName other) then none else s.values? other := by
  rw [← h.foldl_unset_covered, values?_foldl_unset _ (h.named_covered name)]
  by_cases hthere : bareName other ∈ s.names
  · simp [hthere]
  · have habsent : s.values? other = none :=
      Option.not_isSome_iff_eq_none.mp (mt (h.contains_iff other).mp hthere)
    rw [habsent, ite_self, ite_self]

/-! ## Setting -/

theorem setIn_empty (name : String) (s : TagStore) : Eval.setIn name "" s = Eval.unsetIn name s :=
  rfl

theorem setIn_eq_set {value : String} (h : value ≠ "") (name : String) (s : TagStore) :
    Eval.setIn name value s = s.set (internalName name) [value] := by
  rw [Eval.setIn, if_neg (mt String.isEmpty_iff.mp h), setOne]

end TagStore

open TagStore in
/-- A call that unsets a name takes exactly the tags out that the name covers from a store that is
kept well, as operations keep every store, and to take them out one by one would leave the same; all
others keep their values and their order, and no tombstone comes or goes. To set a name to the empty
text is to unset it. Any other text becomes the one value of the tag that the name denotes, also if
the name ends in `*` or `:`, so that this is what the name then reads as, and nothing else is
different. -/
theorem namespaces_unset :
    (∀ n position, evalTree standard [.call "unset" [n] position] = (do
      let name ← evalTree standard n
      Tags.changing (Eval.unsetIn name))) ∧
    (∀ n t position, evalTree standard [.call "set" [n, t] position] = (do
      let name ← evalTree standard n
      let value ← evalTree standard t
      Tags.changing (Eval.setIn name value))) ∧
    (∀ n position, evalTree standard [.call "get" [n] position] = (do
      let name ← evalTree standard n
      return (← Eval.tags).get (internalName name))) ∧
    ∀ (s : TagStore) (name : String),
      (s.WellKept →
        (Eval.unsetIn name s).tags = s.tags.filter (fun t => ¬ Covers name t.name) ∧
        (∀ other, (Eval.unsetIn name s).values? other =
          if Covers name (bareName other) then none else s.values? other) ∧
        (s.names.filter (Covers name)).foldl unset s = Eval.unsetIn name s) ∧
      (Eval.unsetIn name s).deleted = s.deleted ∧
      Eval.setIn name "" s = Eval.unsetIn name s ∧
      ∀ value ≠ "",
        (s.WellKept → s.Assigns (internalName name) [value] (Eval.setIn name value s)) ∧
        (Eval.setIn name value s).get (internalName name) = value := by
  refine ⟨evalTree_unset, evalTree_set, evalTree_get, fun s name => ⟨fun h => ⟨?_, ?_, ?_⟩,
    deleted_unsetIn, setIn_empty name s, fun value hvalue => ?_⟩⟩
  · rw [← h.foldl_unset_covered]
    exact h.tags_foldl_unset_covered name
  · exact h.values?_unsetIn name
  · exact h.foldl_unset_covered name
  · rw [setIn_eq_set hvalue]
    refine ⟨fun h => assigns_set h _ [value], get_of_values?_eq_one ?_⟩
    rw [values?_set (List.cons_ne_nil value []), if_pos rfl]

/-- A hidden namespace beside the tag of its name, and then a tag whose name ends in a star. -/
theorem namespaces_unset_hidden :
    let tags : TagStore :=
      .ofPairs [("~ns:a", "x"), ("~ns:a", "y"), ("~ns", "z"), ("~ns:b:c", "w"), ("d", "v")]
    let s := (tags.delete "a").delete "~ns:*"
    let after : List Tag := [⟨"~ns", ["z"]⟩, ⟨"d", ["v"]⟩]
    s.WellKept ∧ s.deleted = ["a", "~ns:*"] ∧
    s.names.filter (TagStore.Covers "_ns:*") = ["~ns:a", "~ns:b:c"] ∧
    (Eval.unsetIn "_ns:*" s).tags = after ∧ (Eval.unsetIn "_ns:*" s).deleted = s.deleted ∧
    (Eval.unsetIn "_ns:*" s).values? "~ns:a:" = none ∧
    ["~ns:a", "~ns:b:c"].foldl TagStore.unset s = Eval.unsetIn "_ns:*" s ∧
    (Eval.unsetIn "_ns:" s).tags
      = [⟨"~ns:a", ["x", "y"]⟩, ⟨"~ns:b:c", ["w"]⟩, ⟨"d", ["v"]⟩] ∧
    "u" ≠ "" ∧ (Eval.setIn "_ns:*" "u" s).get "~ns:*" = "u" ∧
    (Eval.setIn "_ns:*" "u" s).names = ["~ns:a", "~ns", "~ns:b:c", "d", "~ns:*"] ∧
    (Eval.setIn "_ns:*" "u" s).deleted = ["a"] := by
  intro tags s after
  have hkept : s.WellKept := ((TagStore.wellKept_ofPairs _).delete "a").delete "~ns:*"
  have hcovered : s.names.filter (TagStore.Covers "_ns:*") = ["~ns:a", "~ns:b:c"] := by decide
  obtain ⟨-, -, -, hstores⟩ := namespaces_unset
  obtain ⟨hunset, hdeleted, -, hset⟩ := hstores s "_ns:*"
  obtain ⟨htags, hfound, hsteps⟩ := hunset hkept
  obtain ⟨hassigns, hget⟩ := hset "u" (by decide)
  refine ⟨hkept, by decide, hcovered, htags.trans (by decide), hdeleted,
    (hfound "~ns:a:").trans (by decide), ?_, ((hstores s "_ns:").1 hkept).1.trans (by decide),
    by decide, hget, (hassigns hkept).order.trans (by decide),
    (hassigns hkept).tombstones.trans (by decide)⟩
  rw [← hcovered, hsteps]

end Retag

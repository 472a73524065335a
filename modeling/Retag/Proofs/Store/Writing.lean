import Retag.Proofs.Running.Cleanup
import Retag.Proofs.Store.Scripts

/-!
# What writes to a store

Few functions of the library change tags at all. A tombstone comes from `delete` alone, and it goes
where a tag gets a value. Both are read off the changes that each function makes, and hold behind
every run, wherever it stops.
-/

namespace Retag

open Script Library

/-! ## Scripts that leave the tags alone -/

/-- A run of a tree without calls of the functions that write, at whatever depth, leaves the tags as
they are: values, order and tombstones. -/
theorem only_writers_write (t : Tree)
    (h : ∀ call ∈ callsOf t, call.1 ∉ ["set", "unset", "delete", "copy", "copymerge", "setmulti",
      "cleanmulti", "foreach", "while", "map"]) (host : Host) (s : RunState) :
    ((evalTree standard t).runFrom host s).2.tags = s.tags := by
  have hkeeps : (evalTree standard t).Keeps fun before behind => behind = before := by
    refine keeps_standard (R := fun before behind => behind = before) (fun _ => rfl)
      (fun _ _ _ h₁ h₂ => h₂.trans h₁) t fun call hcall c hc => ?_
    have hwriter : call.1 ∈ writers ++ ["foreach", "while", "map"] :=
      List.mem_append.mpr (name_of_change hc)
    exact absurd hwriter (h call hcall)
  exact hkeeps host s

/-- Functions of lists, tags and texts, and an error in the end. -/
theorem only_writers_write_error :
    let host : Host := ⟨none, ⟨⟨2024, 5, 6⟩, ⟨7, 8, 9, 0⟩, 0⟩⟩
    let pairs := [("b", "x"), ("b", ""), ("b", "x"), ("~a", "y")]
    let tags : TagStore := (TagStore.ofPairs pairs).delete "c"
    let tree : Tree := [.call "if" [[.call "reversemulti" [[.tag "b"]] ⟨1, 5, 4⟩],
      [.call "get" [[.text "_a"]] ⟨1, 24, 23⟩]] .start, .call "datetime" [[.text "%"]] ⟨1, 33, 32⟩]
    parse standard.arity? "$if($reversemulti(%b%),$get(_a))$datetime(\\%)" = .ok tree ∧
    ((evalTree standard tree).runFrom host ⟨tags, []⟩).1
      = .error ⟨.unsupportedFormat "datetime", ⟨1, 33, 32⟩⟩ ∧
    ((evalTree standard tree).runFrom host ⟨tags, []⟩).2.tags = tags := by
  intro host pairs tags tree
  refine ⟨?_, ?_, only_writers_write tree (by decide) host ⟨tags, []⟩⟩
  · rw [arity?_standard]
    rfl
  · rw [evalTree_standard]
    rfl

/-! ## Tombstones behind an operation -/

namespace TagStore

variable {s : TagStore} {name : String}

theorem deleted_unsetIn : (Eval.unsetIn name s).deleted = s.deleted := by
  unfold Eval.unsetIn
  split
  · exact deleted_foldl_unset s _
  · exact deleted_unset s _

theorem deleted_set_subset (values : List String) : (s.set name values).deleted ⊆ s.deleted := by
  rw [deleted_set]
  split
  · exact List.Subset.refl _
  · exact List.filter_subset_self _

theorem deleted_setIn_subset (value : String) : (Eval.setIn name value s).deleted ⊆ s.deleted := by
  unfold Eval.setIn
  split
  · rw [deleted_unsetIn]
    exact List.Subset.refl _
  · exact deleted_set_subset [value]

theorem deleted_cleanIn_subset : (Lists.cleanIn name s).deleted ⊆ s.deleted := by
  unfold Lists.cleanIn
  dsimp only
  split
  · exact deleted_set_subset _
  · exact List.Subset.refl _

theorem deleted_subset_delete : s.deleted ⊆ (s.delete name).deleted := by
  intro n hn
  rw [TagStore.delete, deleted_unset]
  exact mem_insertName.mpr (.inr hn)

/-- To clean a tag that is there clears no tombstone, for it has none. -/
theorem WellKept.deleted_cleanIn (h : s.WellKept) (name : String) :
    (Lists.cleanIn name s).deleted = s.deleted := by
  unfold Lists.cleanIn
  dsimp only
  split
  · next hc =>
    have hname := h.apart _ ((h.contains_iff _).mp hc)
    rw [deleted_set]
    split
    · rfl
    · refine List.filter_eq_self.mpr fun n hn => bne_iff_ne.mpr ?_
      rintro rfl
      exact hname hn
  · rfl

end TagStore

/-! ## Tombstones behind a change -/

namespace Library

variable {function : String} {c : TagStore → TagStore}

theorem Change.deleted_subset (hc : Change function c) (h : function ≠ "delete") (s : TagStore) :
    (c s).deleted ⊆ s.deleted := by
  cases hc with
  | set name value => exact TagStore.deleted_setIn_subset value
  | unset name =>
    rw [TagStore.deleted_unsetIn]
    exact List.Subset.refl _
  | delete name => exact absurd rfl h
  | copy new old => exact TagStore.deleted_set_subset _
  | merge new old keepDuplicates => exact TagStore.deleted_set_subset _
  | store list name => exact TagStore.deleted_set_subset _
  | clean name => exact TagStore.deleted_cleanIn_subset
  | startRound value _ _ => exact TagStore.deleted_setIn_subset value
  | endLoop _ _ =>
    rw [TagStore.deleted_unsetIn]
    exact List.Subset.refl _

theorem Change.deleted_kept (hc : Change function c)
    (h : function ∉ ["set", "copy", "copymerge", "setmulti", "foreach", "while", "map"])
    {s : TagStore} (hs : s.WellKept) : s.deleted ⊆ (c s).deleted := by
  cases hc with
  | set => simp at h
  | unset name =>
    rw [TagStore.deleted_unsetIn]
    exact List.Subset.refl _
  | delete name => exact TagStore.deleted_subset_delete
  | copy => simp at h
  | merge => simp at h
  | store => simp at h
  | clean name =>
    rw [hs.deleted_cleanIn name]
    exact List.Subset.refl _
  | startRound value hloop _ =>
    exact absurd (List.mem_append_right ["set", "copy", "copymerge", "setmulti"] hloop) h
  | endLoop _ _ =>
    rw [TagStore.deleted_unsetIn]
    exact List.Subset.refl _

end Library

/-- Behind a run of a tree, also one that ended in an error, there are only tombstones that were
there before unless the tree calls `delete`. All of those are still there unless it calls a function
that gives tags values, given that no tag had one, as in every store that operations lead to. -/
theorem tombstones_change (t : Tree) (host : Host) (s : RunState) :
    let behind := ((evalTree standard t).runFrom host s).2.tags
    ((∀ call ∈ callsOf t, call.1 ≠ "delete") →
      ∀ name ∈ behind.deleted, name ∈ s.tags.deleted) ∧
    (s.tags.WellKept →
      (∀ call ∈ callsOf t,
        call.1 ∉ ["set", "copy", "copymerge", "setmulti", "foreach", "while", "map"]) →
      ∀ name ∈ s.tags.deleted, name ∈ behind.deleted) := by
  intro behind
  constructor
  · intro hcalls
    have hkeeps : (evalTree standard t).Keeps fun a b => b.deleted ⊆ a.deleted := by
      refine keeps_standard (R := fun a b => b.deleted ⊆ a.deleted)
        (fun _ => List.Subset.refl _) (fun _ _ _ h₁ h₂ => List.Subset.trans h₂ h₁) t ?_
      exact fun call hcall _ hc => hc.deleted_subset (hcalls call hcall)
    exact hkeeps host s
  · intro hs hcalls
    -- Cleaning a tag would clear a tombstone of it, so that there is none is carried along.
    have hkeeps : (evalTree standard t).Keeps
        fun a b => a.WellKept → b.WellKept ∧ a.deleted ⊆ b.deleted := by
      refine keeps_standard (fun _ h => ⟨h, List.Subset.refl _⟩) ?_ t ?_
      · intro a b c hab hbc ha
        obtain ⟨hb, hsub⟩ := hab ha
        obtain ⟨hc, hsub'⟩ := hbc hb
        exact ⟨hc, List.Subset.trans hsub hsub'⟩
      · exact fun call hcall c hc a ha => ⟨ha.change hc, hc.deleted_kept (hcalls call hcall) ha⟩
    exact (hkeeps host s hs).2

/-- A loop gives a deleted tag a value, and an error stops a script behind its `delete`. -/
theorem tombstones_change_stopped :
    let host : Host := ⟨none, ⟨⟨2024, 5, 6⟩, ⟨7, 8, 9, 0⟩, 0⟩⟩
    let tags : TagStore := .ofPairs [("b", "x"), ("b", ""), ("b", "y")]
    let start : RunState := ⟨(tags.delete "a").delete "c", []⟩
    let setting : Tree := [.call "foreach" [[.tag "b"],
      [.call "copy" [[.text "a"], [.text "b"]] ⟨1, 14, 13⟩]] .start]
    let deleting : Tree := [.call "cleanmulti" [[.text "b"]] .start,
      .call "delete" [[.text "b"]] ⟨1, 15, 14⟩, .call "datetime" [[.text "%"]] ⟨1, 25, 24⟩]
    parse standard.arity? "$foreach(%b%,$copy(a,b))" = .ok setting ∧
    parse standard.arity? "$cleanmulti(b)$delete(b)$datetime(\\%)" = .ok deleting ∧
    ((evalTree standard setting).runFrom host start).2.tags.deleted = ["c"] ∧
    ((evalTree standard deleting).runFrom host start).2.tags.deleted = ["a", "b", "c"] ∧
    start.tags.WellKept ∧
    (∀ name ∈ ((evalTree standard setting).runFrom host start).2.tags.deleted,
      name ∈ start.tags.deleted) ∧
    (∀ name ∈ start.tags.deleted,
      name ∈ ((evalTree standard deleting).runFrom host start).2.tags.deleted) := by
  intro host tags start setting deleting
  have hkept : start.tags.WellKept :=
    ((TagStore.wellKept_ofPairs _).delete "a").delete "c"
  have hsetting := (tombstones_change setting host start).1 (by decide)
  have hdeleting := (tombstones_change deleting host start).2 hkept (by decide)
  refine ⟨?_, ?_, ?_, ?_, hkept, hsetting, hdeleting⟩
  · rw [arity?_standard]
    rfl
  · rw [arity?_standard]
    rfl
  · rw [evalTree_standard]
    rfl
  · rw [evalTree_standard]
    rfl

end Retag

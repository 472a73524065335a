import Retag.Proofs.Store.Assignment
import Retag.Proofs.Store.Presence

/-!
# Merging tags

The values of one tag go behind those of another, and of equal values only the first stays, unless
all are to be kept. Where none are kept twice, merging once more finds nothing new. The two names
may denote one tag.
-/

namespace Retag

open Script Library

/-! ## First occurrences -/

namespace Library.Tags

/-- The values that do not occur in front of where they stand. -/
def firsts (values : List String) : List String :=
  (values.zipIdx.filter fun p => p.1 ∉ values.take p.2).map (·.1)

/-- What has occurred is what stands in front. -/
theorem distinct_eq {seen before : List String} (h : ∀ v, v ∈ seen ↔ v ∈ before)
    (rest : List String) :
    distinct seen rest
      = ((rest.zipIdx before.length).filter fun p => p.1 ∉ (before ++ rest).take p.2).map (·.1) := by
  induction rest generalizing seen before with
  | nil => rfl
  | cons v rest ih =>
    have hsplit : before ++ v :: rest = (before ++ [v]) ++ rest := by simp
    have hfront : (before ++ v :: rest).take before.length = before := List.take_left
    have hlength : (before ++ [v]).length = before.length + 1 := by simp
    rw [distinct, List.zipIdx_cons, List.filter_cons]
    dsimp only
    rw [hfront]
    by_cases hv : v ∈ before
    · have hseen : ∀ w, w ∈ seen ↔ w ∈ before ++ [v] := fun w => by
        rw [h, List.mem_append, List.mem_singleton, or_iff_left_of_imp (· ▸ hv)]
      have hrepeated : ¬ decide (v ∉ before) = true := by simpa using hv
      rw [if_pos (List.contains_iff_mem.mpr ((h v).mpr hv)), if_neg hrepeated, ih hseen, hlength,
        ← hsplit]
    · have hseen : ∀ w, w ∈ v :: seen ↔ w ∈ before ++ [v] := fun w => by
        rw [List.mem_cons, h, List.mem_append, List.mem_singleton, or_comm]
      rw [if_neg (mt List.contains_iff_mem.mp (mt (h v).mp hv)), if_pos (decide_eq_true hv),
        List.map_cons, ih hseen, hlength, ← hsplit]

theorem distinct_eq_firsts (values : List String) : distinct [] values = firsts values := by
  have hnone (v : String) : v ∈ [] ↔ v ∈ [] := Iff.rfl
  exact distinct_eq hnone values

theorem distinct_eq_nil_iff {values : List String} : distinct [] values = [] ↔ values = [] := by
  cases values <;> simp [distinct]

theorem distinct_of_subset {seen values : List String} (h : ∀ v ∈ values, v ∈ seen) :
    distinct seen values = [] := by
  induction values with
  | nil => rfl
  | cons v rest ih =>
    obtain ⟨hv, hrest⟩ := List.forall_mem_cons.mp h
    rw [distinct, if_pos (List.contains_iff_mem.mpr hv), ih hrest]

/-- Behind the distinct values of a list, values of that list are found again and left out. -/
theorem distinct_append {seen values more : List String} (h : ∀ v ∈ more, v ∈ values ∨ v ∈ seen) :
    distinct seen (distinct seen values ++ more) = distinct seen values := by
  induction values generalizing seen with
  | nil => exact distinct_of_subset fun v hv => (h v hv).resolve_left List.not_mem_nil
  | cons first rest ih =>
    by_cases hfirst : first ∈ seen
    · rw [distinct, if_pos (List.contains_iff_mem.mpr hfirst)]
      refine ih fun v hv => ?_
      rcases h v hv with hv | hv
      · exact (List.mem_cons.mp hv).elim (fun heq => .inr (heq ▸ hfirst)) .inl
      · exact .inr hv
    · have hnew := mt List.contains_iff_mem.mp hfirst
      rw [distinct, if_neg hnew, List.cons_append, distinct, if_neg hnew]
      refine congrArg _ (ih fun v hv => ?_)
      rcases h v hv with hv | hv
      · exact (List.mem_cons.mp hv).elim (fun heq => .inr (List.mem_cons.mpr (.inl heq))) .inl
      · exact .inr (List.mem_cons_of_mem _ hv)

/-! ## Merging -/

/-- Once merged, nothing is left to be merged, also into a tag from itself. -/
theorem mergeIn_mergeIn (new old : String) (s : TagStore) :
    mergeIn new old false (mergeIn new old false s) = mergeIn new old false s := by
  let key := internalName new
  let source := internalName old
  let merged := distinct [] (s.values key ++ s.values source)
  let after := s.set key merged
  have hagain : distinct [] (after.values key ++ after.values source) = merged := by
    rw [TagStore.values_set]
    refine distinct_append fun v hv => .inl ?_
    by_cases hsame : storageName source = storageName key
    · rw [TagStore.values_congr hsame, TagStore.values_set] at hv
      exact TagStore.mem_of_mem_distinct hv
    · rw [TagStore.values, TagStore.values?_set_of_ne merged hsame] at hv
      exact List.mem_append_right _ hv
  have hrepeat : mergeIn new old false after
      = after.set key (distinct [] (after.values key ++ after.values source)) := rfl
  show mergeIn new old false after = after
  rw [hrepeat, hagain, TagStore.set_set]

theorem evalTree_mergeTag (n o : Tree) (k : Option Tree) (position : Position) :
    evalTree standard [.call "copymerge" (n :: o :: k.toList) position] = (do
      let new ← evalTree standard n
      let old ← evalTree standard o
      let keep ← (k.map (evalTree standard)).getD (return "")
      changing (mergeIn new old (!keep.isEmpty))) := by
  cases k with
  | none =>
    exact evalTree_twoValues ((find?_standard _).trans rfl) rfl
      (fun new old frame => inFrame_changing frame (mergeIn new old false)) position
  | some k =>
    exact evalTree_threeValues ((find?_standard _).trans rfl) rfl
      (fun new old keep frame => inFrame_changing frame (mergeIn new old (!keep.isEmpty))) position

end Library.Tags

open Tags in
/-- A call gives the one tag its own values and then those of the other, of equal ones only the
first unless all are to be kept. Nothing else in a store that is kept well is different: other tags,
also the one that was merged in, the order, and the tombstones but the tag's own, which goes if
there are values. If there are none, the tag is gone. To merge again where nothing is kept twice
changes nothing. -/
theorem merging_ordered :
    (∀ n o (k : Option Tree) position,
      evalTree standard [.call "copymerge" (n :: o :: k.toList) position] = (do
        let new ← evalTree standard n
        let old ← evalTree standard o
        let keep ← (k.map (evalTree standard)).getD (return "")
        changing (mergeIn new old (!keep.isEmpty)))) ∧
    ∀ (s : TagStore) (new old : String),
      let merged := s.values (internalName new) ++ s.values (internalName old)
      (s.WellKept →
        s.Assigns (internalName new) (firsts merged) (mergeIn new old false s) ∧
        s.Assigns (internalName new) merged (mergeIn new old true s)) ∧
      (∀ keep,
        ((mergeIn new old keep s).contains (internalName new) = false ↔
          s.values (internalName new) = [] ∧ s.values (internalName old) = []) ∧
        (mergeIn new old keep s).deleted =
          if merged = [] then s.deleted
          else s.deleted.filter (· != bareName (internalName new))) ∧
      mergeIn new old false (mergeIn new old false s) = mergeIn new old false s := by
  refine ⟨evalTree_mergeTag, fun s new old => ?_⟩
  intro merged
  have hset (keep : Bool) : mergeIn new old keep s
      = s.set (internalName new) (if keep then merged else firsts merged) := by
    rw [← distinct_eq_firsts]
    rfl
  have hnone (keep : Bool) : (if keep then merged else firsts merged) = [] ↔ merged = [] := by
    cases keep with
    | false => exact distinct_eq_firsts merged ▸ distinct_eq_nil_iff
    | true => exact Iff.rfl
  refine ⟨fun h => ⟨?_, ?_⟩, fun keep => ⟨?_, ?_⟩, mergeIn_mergeIn new old s⟩
  · rw [hset]
    exact TagStore.assigns_set h _ _
  · rw [hset]
    exact TagStore.assigns_set h _ _
  · rw [← Bool.not_eq_true, hset, TagStore.contains_set, not_not, hnone, List.append_eq_nil_iff]
  · rw [hset, TagStore.deleted_set, if_congr (hnone keep) rfl rfl, storageName_eq_bareName]

/-- Two spellings of one hidden tag, and two tags that are not there. -/
theorem merging_ordered_spellings :
    let tags : TagStore := .ofPairs
      [("~a", "x"), ("~a", "y"), ("~a", "x"), ("b", "y"), ("b", "z"), ("b", "z")]
    let s := (tags.delete "c").delete "d"
    s.WellKept ∧
    (Tags.mergeIn "_a" "b" false s).values "~a" = ["x", "y", "z"] ∧
    (Tags.mergeIn "_a" "~a:" false s).values "~a" = ["x", "y"] ∧
    (Tags.mergeIn "_a" "~a:" true s).values "~a" = ["x", "y", "x", "x", "y", "x"] ∧
    (Tags.mergeIn "_a" "b" false s).values? "b" = some ["y", "z", "z"] ∧
    (Tags.mergeIn "c" "b" false s).deleted = ["d"] ∧
    (Tags.mergeIn "c" "d" false s).deleted = ["c", "d"] ∧
    (Tags.mergeIn "c" "d" false s).contains "c" = false := by
  intro tags s
  have hkept : s.WellKept := ((TagStore.wellKept_ofPairs _).delete "c").delete "d"
  obtain ⟨-, hmerges⟩ := merging_ordered
  obtain ⟨hother, -⟩ := (hmerges s "_a" "b").1 hkept
  obtain ⟨hsame, hsameAll⟩ := (hmerges s "_a" "~a:").1 hkept
  obtain ⟨-, hburied, -⟩ := hmerges s "c" "b"
  obtain ⟨-, hnone, -⟩ := hmerges s "c" "d"
  refine ⟨hkept, hother.values.trans (by decide), hsame.values.trans (by decide),
    hsameAll.values.trans (by decide), (hother.elsewhere "b" (by decide)).trans (by decide),
    (hburied false).2.trans (by decide), (hnone false).2.trans (by decide),
    (hnone false).1.mpr (by decide)⟩

end Retag

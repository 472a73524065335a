import Retag.Proofs.Running.Traces
import Retag.Proofs.Store.Lookup
import Retag.Proofs.Store.Scripts

/-!
# Presence

A script cannot ask whether a tag is there; it asks whether the tag reads as something. That is the
same in a store without empty values, and scripts never bring in an empty value: whatever a function
stores is either left out where it is empty or was stored before.
-/

namespace Retag

open Script Library

namespace TagStore

/-! ## Stores without empty values -/

/-- No tag has an empty value. -/
def WithoutEmpty (s : TagStore) : Prop := ∀ name, "" ∉ s.values name

variable {s : TagStore}

theorem WithoutEmpty.unset (h : s.WithoutEmpty) (name : String) :
    (s.unset name).WithoutEmpty := by
  intro n
  rw [values, values?_unset]
  split
  · exact List.not_mem_nil
  · exact h n

theorem WithoutEmpty.set (h : s.WithoutEmpty) (name : String) {values : List String}
    (hv : "" ∉ values) : (s.set name values).WithoutEmpty := by
  by_cases hnone : values = []
  · rw [hnone, set_nil]
    exact h.unset name
  · intro n
    rw [TagStore.values, values?_set hnone]
    split
    · exact hv
    · exact h n

theorem WithoutEmpty.add (h : s.WithoutEmpty) (name : String) {value : String} (hv : value ≠ "") :
    (s.add name value).WithoutEmpty := by
  rw [add_eq_set]
  refine h.set name fun hmem => ?_
  rcases List.mem_append.mp hmem with hmem | hmem
  · exact h name hmem
  · exact hv (List.mem_singleton.mp hmem).symm

theorem withoutEmpty_ofPairs {pairs : List (String × String)} (h : ∀ pair ∈ pairs, pair.2 ≠ "") :
    (ofPairs pairs).WithoutEmpty := by
  have hempty : empty.WithoutEmpty := fun name => by simp [values, values?, empty]
  rw [ofPairs]
  generalize empty = s at hempty
  induction pairs generalizing s with
  | nil => exact hempty
  | cons pair rest ih =>
    obtain ⟨hpair, hrest⟩ := List.forall_mem_cons.mp h
    exact ih hrest _ (hempty.add pair.1 hpair)

theorem WithoutEmpty.foldl_unset (h : s.WithoutEmpty) (names : List String) :
    (names.foldl TagStore.unset s).WithoutEmpty := by
  induction names generalizing s with
  | nil => exact h
  | cons n rest ih => exact ih (h.unset n)

theorem WithoutEmpty.unsetIn (h : s.WithoutEmpty) (name : String) :
    (Eval.unsetIn name s).WithoutEmpty := by
  unfold Eval.unsetIn
  split
  · exact h.foldl_unset _
  · exact h.unset _

theorem WithoutEmpty.setIn (h : s.WithoutEmpty) (name value : String) :
    (Eval.setIn name value s).WithoutEmpty := by
  unfold Eval.setIn
  split
  · exact h.unsetIn name
  · next hv =>
    have hne : "" ≠ value := fun he => hv (String.isEmpty_iff.mpr he.symm)
    exact h.set _ (mt List.mem_singleton.mp hne)

theorem empty_not_mem_filter (values : List String) : "" ∉ values.filter (!·.isEmpty) :=
  fun h => absurd (List.of_mem_filter h) (by decide)

theorem mem_of_mem_distinct {seen values : List String} {v : String}
    (h : v ∈ Tags.distinct seen values) : v ∈ values := by
  induction values generalizing seen with
  | nil => cases h
  | cons first rest ih =>
    rw [Tags.distinct] at h
    split at h
    · exact List.mem_cons_of_mem _ (ih h)
    · rcases List.mem_cons.mp h with rfl | h
      · exact List.mem_cons_self ..
      · exact List.mem_cons_of_mem _ (ih h)

theorem WithoutEmpty.mergeIn (h : s.WithoutEmpty) (new old : String) (keepDuplicates : Bool) :
    (Tags.mergeIn new old keepDuplicates s).WithoutEmpty := by
  have hmerged : "" ∉ s.values (internalName new) ++ s.values (internalName old) := by
    rw [List.mem_append]
    exact fun hv => hv.elim (h _) (h _)
  refine h.set _ ?_
  split
  · exact hmerged
  · exact mt mem_of_mem_distinct hmerged

theorem WithoutEmpty.cleanIn (h : s.WithoutEmpty) (name : String) :
    (Lists.cleanIn name s).WithoutEmpty := by
  unfold Lists.cleanIn
  dsimp only
  split
  · exact h.set _ (empty_not_mem_filter _)
  · exact h

/-- No function of the library brings in an empty value. -/
theorem WithoutEmpty.change (h : s.WithoutEmpty) {function : String} {c : TagStore → TagStore}
    (hc : Change function c) : (c s).WithoutEmpty := by
  cases hc with
  | set name value => exact h.setIn name value
  | unset name => exact h.unsetIn name
  | delete name => exact h.unset _
  | copy new old => exact h.set _ (h _)
  | merge new old keepDuplicates => exact h.mergeIn new old keepDuplicates
  | store list name => exact h.set _ (empty_not_mem_filter _)
  | clean name => exact h.cleanIn name
  | startRound value _ _ => exact h.setIn _ value
  | endLoop _ _ => exact h.unsetIn _

/-! ## What a tag reads as -/

theorem intercalate_ne_empty {v : String} (hv : v ≠ "") (vs : List String) :
    String.intercalate joiner (v :: vs) ≠ "" := by
  rw [ne_eq, ← String.toList_eq_nil_iff] at hv ⊢
  rw [String.toList_intercalate, List.map_cons]
  cases vs with
  | nil => simpa using hv
  | cons w ws => simp [List.intercalate_cons_cons, hv]

theorem get_ne_empty_iff (hs : s.WellKept) (h : s.WithoutEmpty) (name : String) :
    s.get name ≠ "" ↔ s.contains name = true := by
  rw [get, get?, contains]
  rcases hv : s.values? name with _ | _ | ⟨v, vs⟩
  · simp
  · exact absurd rfl (hs.ne_nil hv)
  · have hvalues : s.values name = v :: vs := by rw [values, hv, Option.getD_some]
    have hfirst : v ≠ "" := by
      rintro rfl
      exact h name (hvalues ▸ List.mem_cons_self ..)
    exact iff_of_true (intercalate_ne_empty hfirst vs) rfl

end TagStore

/-! ## Runs -/

/-- A run of a tree from a store without empty values, also one that ends in an error, can be cut
into effects, and however it is, none of its stores has an empty value. So at each of them a script
reads something under a name exactly if the tag is there. The last one is that behind the run. -/
theorem presence_told (t : Tree) (host : Host) (s : RunState) (hs : s.tags.WellKept)
    (hvalues : s.tags.WithoutEmpty) :
    let run := (evalTree standard t).runFrom host s
    run.2.tags.WithoutEmpty ∧
    (∃ stores, Traced LibraryChange host (evalTree standard t) s stores run.1 run.2) ∧
    ∀ stores, Traced LibraryChange host (evalTree standard t) s stores run.1 run.2 →
      run.2.tags ∈ s.tags :: stores ∧
      ∀ tags ∈ s.tags :: stores, tags.WithoutEmpty ∧ ∀ (name : String) (frames : List Frame),
        ∃ value, ((Node.tag name).eval standard).runFrom host ⟨tags, frames⟩
            = (.ok value, ⟨tags, frames⟩) ∧
          (value ≠ "" ↔ tags.contains (internalName name) = true) := by
  intro run
  have hstores {stores : List TagStore}
      (h : Traced LibraryChange host (evalTree standard t) s stores run.1 run.2) :
      ∀ tags ∈ s.tags :: stores, tags.WellKept ∧ tags.WithoutEmpty := by
    refine h.forall_stores (I := fun tags => tags.WellKept ∧ tags.WithoutEmpty) ?_ ⟨hs, hvalues⟩
    rintro c ⟨function, hc⟩ tags ⟨hkept, hwithout⟩
    exact ⟨hkept.change hc, hwithout.change hc⟩
  have hlast {stores : List TagStore}
      (h : Traced LibraryChange host (evalTree standard t) s stores run.1 run.2) :
      run.2.tags ∈ s.tags :: stores := h.getLast_eq ▸ List.getLast_mem _
  obtain ⟨stores, htraced⟩ := traceable_evalTree t host s
  refine ⟨(hstores htraced _ (hlast htraced)).2, ⟨stores, htraced⟩, fun stores' h => ?_⟩
  refine ⟨hlast h, fun tags htags => ?_⟩
  obtain ⟨hkept, hwithout⟩ := hstores h tags htags
  refine ⟨hwithout, fun name frames => ⟨tags.get (internalName name), ?_, ?_⟩⟩
  · rw [Node.eval, runFrom_tagValue]
  · exact TagStore.get_ne_empty_iff hkept hwithout _

/-- A loop over the tag that its code unsets, stopped in its second round. -/
theorem presence_told_stopped :
    let host : Host := ⟨none, ⟨⟨2024, 5, 6⟩, ⟨7, 8, 9, 0⟩, 0⟩⟩
    let start : RunState := ⟨.ofPairs [("a", "x"), ("a", "y")], []⟩
    let tree : Tree := [.call "foreach" [[.tag "a"],
      [.call "if" [[.tag "a"], [.call "unset" [[.text "a"]] ⟨1, 22, 21⟩],
        [.call "datetime" [[.text "%"]] ⟨1, 32, 31⟩]] ⟨1, 14, 13⟩]] .start]
    let refused : RuntimeError := ⟨.unsupportedFormat "datetime", ⟨1, 32, 31⟩⟩
    let behind : RunState := ⟨.ofPairs [("~loop_count", "2"), ("~loop_value", "y")], []⟩
    parse standard.arity? "$foreach(%a%,$if(%a%,$unset(a),$datetime(\\%)))" = .ok tree ∧
    (evalTree standard tree).runFrom host start = (.error refused, behind) ∧
    start.tags.WellKept ∧ start.tags.WithoutEmpty ∧
    ∃ stores,
      Traced LibraryChange host (evalTree standard tree) start stores (.error refused) behind ∧
      behind.tags ∈ start.tags :: stores ∧ ∀ tags ∈ start.tags :: stores, tags.WithoutEmpty := by
  intro host start tree refused behind
  have hparse : parse standard.arity? "$foreach(%a%,$if(%a%,$unset(a),$datetime(\\%)))"
      = .ok tree := by
    rw [arity?_standard]
    rfl
  have hrun : (evalTree standard tree).runFrom host start = (.error refused, behind) := by
    rw [evalTree_standard]
    rfl
  have hkept : start.tags.WellKept := TagStore.wellKept_ofPairs _
  have hwithout : start.tags.WithoutEmpty :=
    TagStore.withoutEmpty_ofPairs (by decide)
  have htold := presence_told tree host start hkept hwithout
  rw [hrun] at htold
  obtain ⟨-, ⟨stores, htraced⟩, hall⟩ := htold
  obtain ⟨hlast, hstores⟩ := hall stores htraced
  exact ⟨hparse, hrun, hkept, hwithout, stores, htraced, hlast, fun tags h => (hstores tags h).1⟩

end Retag

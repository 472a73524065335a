import Retag.Proofs.Running.Library
import Retag.Proofs.Store.Invariant
import Retag.Script.Session

/-!
# Scripts keep the invariant of tag stores

Every change that a function of the library makes comes down to operations of a store, so no run of
a script breaks the invariant, wherever it stops.
-/

namespace Retag

open Script Library TagStore

variable {s : TagStore}

theorem TagStore.WellKept.unsetIn (h : s.WellKept) (name : String) :
    (Eval.unsetIn name s).WellKept := by
  unfold Eval.unsetIn
  split
  · exact h.unsetAll _
  · exact h.unset _

theorem TagStore.WellKept.setIn (h : s.WellKept) (name value : String) :
    (Eval.setIn name value s).WellKept := by
  unfold Eval.setIn
  split
  · exact h.unsetIn name
  · exact h.set _ [value]

theorem TagStore.WellKept.cleanIn (h : s.WellKept) (name : String) :
    (Lists.cleanIn name s).WellKept := by
  unfold Lists.cleanIn
  dsimp only
  split
  · exact h.set _ _
  · exact h

theorem TagStore.WellKept.change (h : s.WellKept) {function : String} {c : TagStore → TagStore}
    (hc : Change function c) : (c s).WellKept := by
  cases hc with
  | set name value => exact h.setIn name value
  | unset name => exact h.unsetIn name
  | delete name => exact h.delete _
  | copy new old => exact h.set _ _
  | merge new old keepDuplicates => exact h.set _ _
  | store list name => exact h.set _ _
  | clean name => exact h.cleanIn name
  | startRound value _ _ => exact h.setIn _ value
  | endLoop _ _ => exact h.unsetIn _

/-- A run of a tree with the standard library keeps the invariant, also if it ends in an error. -/
theorem wellKept_evalTree (t : Tree) :
    (evalTree standard t).Keeps fun s s' => s.WellKept → s'.WellKept := by
  refine keeps_standard (fun _ h => h) (fun _ _ _ h₁ h₂ h => h₂ (h₁ h)) t ?_
  exact fun call _ c hc s h => h.change hc

/-- Running a script in a session over the standard library, and operations from outside one after
another, keep the invariant. -/
theorem wellKept_preserved :
    (∀ session : Session, session.registry = standard →
      ∀ (source : String) (tags : TagStore) (host : Host), tags.WellKept →
        (session.run source tags host).2.1.WellKept) ∧
    (∀ ops : List Operation, (ops.foldl Operation.apply .empty).WellKept) := by
  constructor
  · intro session hr source tags host h
    have hkeeps (t : Tree) : (evalTree session.registry t).Keeps
        fun s s' => s.WellKept → s'.WellKept := hr ▸ wellKept_evalTree t
    exact Session.keeps_run (fun _ h => h) hkeeps source tags host h
  · intro ops
    exact wellKept_empty.foldl_apply ops

/-- A loop that sets tags, a tombstone, and an error in the end. -/
theorem wellKept_preserved_loop :
    let session : Session := { registry := standard }
    let host : Host := ⟨none, ⟨⟨2024, 5, 6⟩, ⟨7, 8, 9, 0⟩, 0⟩⟩
    (session.run "$foreach(%a%,$set(b:,%_loop_value%)$datetime(\\%))$delete(a)"
      ((TagStore.ofPairs [("a", "x")]).delete "b") host).2.1.WellKept := by
  intro session host
  exact wellKept_preserved.1 session rfl _ _ host ((wellKept_ofPairs _).delete "b")

end Retag

import Retag.Proofs.Running.Library

/-!
# The stores of a run

A run is put together from effects, and only a change gives it another store. So the stores of a run
are the one that it starts from and those right behind its changes, up to the last one before its
end or before the error that stops it. What every change preserves holds of all of them.
-/

namespace Retag.Script

/-- A run of a computation from a state, cut into effects, with its result and the state behind it.
The changes that it makes are among `C`, and `stores` are those right behind them, in order. -/
inductive Traced (C : (TagStore → TagStore) → Prop) (host : Host) : {α : Type} → Eval α →
    RunState → List TagStore → Except RuntimeError α → RunState → Prop
  | quiet {α : Type} {x : Eval α} {s : RunState} :
      x.Quiet → Traced C host x s [] (x.runFrom host s).1 s
  | change {c : TagStore → TagStore} {s : RunState} :
      C c → Traced C host (Eval.modifyTags c) s [c s.tags] (.ok ()) { s with tags := c s.tags }
  | stopped {α β : Type} {x : Eval α} {f : α → Eval β} {s s' : RunState} {stores : List TagStore}
      {e : RuntimeError} :
      Traced C host x s stores (.error e) s' → Traced C host (x >>= f) s stores (.error e) s'
  | bind {α β : Type} {x : Eval α} {f : α → Eval β} {s s₁ s₂ : RunState}
      {stores stores' : List TagStore} {a : α} {result : Except RuntimeError β} :
      Traced C host x s stores (.ok a) s₁ → Traced C host (f a) s₁ stores' result s₂ →
      Traced C host (x >>= f) s (stores ++ stores') result s₂
  | inFrame {α : Type} {x : Eval α} {frame : Frame} {s s' : RunState} {stores : List TagStore}
      {result : Except RuntimeError α} :
      Traced C host x { s with frames := frame :: s.frames } stores result s' →
      Traced C host (Eval.inFrame frame x) s stores result { s' with frames := s'.frames.tail }

namespace Traced

variable {C : (TagStore → TagStore) → Prop} {host : Host} {α : Type} {x : Eval α}
  {s s' : RunState} {stores : List TagStore} {result : Except RuntimeError α}

/-- However a run is cut, it is the run. -/
theorem runFrom_eq (h : Traced C host x s stores result s') :
    x.runFrom host s = (result, s') := by
  induction h with
  | quiet hx => exact Prod.ext rfl (hx.runFrom_state host _)
  | change _ => exact Eval.runFrom_modifyTags ..
  | stopped _ ih => rw [Eval.runFrom_bind, ih]
  | bind _ _ ihx ihf => rw [Eval.runFrom_bind_ok ihx, ihf]
  | inFrame _ ih => rw [Eval.runFrom_inFrame, ih]

/-- The last store is the one behind the run. -/
theorem getLast_eq (h : Traced C host x s stores result s') :
    (s.tags :: stores).getLast (List.cons_ne_nil _ _) = s'.tags := by
  induction h with
  | quiet _ => rfl
  | change _ => rfl
  | stopped _ ih => exact ih
  | @bind _ _ _ _ _ _ _ stores stores' _ _ _ _ ihx ihf =>
    cases stores' with
    | nil =>
      simp only [List.append_nil]
      exact ihx.trans ihf
    | cons t rest =>
      rw [List.getLast_cons_cons] at ihf
      simpa using ihf
  | inFrame _ ih => exact ih

/-- What the changes preserve holds of all stores of the run. -/
theorem forall_stores {I : TagStore → Prop} (hI : ∀ c, C c → ∀ t, I t → I (c t))
    (h : Traced C host x s stores result s') (hs : I s.tags) : ∀ t ∈ s.tags :: stores, I t := by
  induction h with
  | quiet _ => exact List.forall_mem_singleton.mpr hs
  | change hc => exact List.forall_mem_cons.mpr ⟨hs, List.forall_mem_singleton.mpr (hI _ hc _ hs)⟩
  | stopped _ ih => exact ih hs
  | bind hx _ ihx ihf =>
    have hbefore := ihx hs
    have hmiddle := hbefore _ (hx.getLast_eq ▸ List.getLast_mem _)
    have hbehind := ihf hmiddle
    rw [← List.cons_append]
    rintro t ht
    rcases List.mem_append.mp ht with ht | ht
    · exact hbefore t ht
    · exact hbehind t (List.mem_cons_of_mem _ ht)
  | inFrame _ ih => exact ih hs

end Traced

/-! ## Every run has a trace -/

/-- Every run of a computation can be cut into effects that change the tags by changes of `C`. -/
def Eval.Traceable {α : Type} (C : (TagStore → TagStore) → Prop) (x : Eval α) : Prop :=
  ∀ host s, ∃ stores, Traced C host x s stores (x.runFrom host s).1 (x.runFrom host s).2

theorem Eval.Traceable.composable (C : (TagStore → TagStore) → Prop) :
    Eval.Composable fun {_} x => x.Traceable C where
  quiet {_ x} hx host s := by
    refine ⟨[], ?_⟩
    rw [hx.runFrom_state host s]
    exact .quiet hx
  bind {_ _ x f} hx hf host s := by
    obtain ⟨stores, hfirst⟩ := hx host s
    rw [Eval.runFrom_bind]
    rcases hrun : x.runFrom host s with ⟨e | a, s₁⟩
    · rw [hrun] at hfirst
      exact ⟨stores, .stopped hfirst⟩
    · rw [hrun] at hfirst
      obtain ⟨stores', hrest⟩ := hf a host s₁
      exact ⟨stores ++ stores', .bind hfirst hrest⟩
  inFrame frame hx host s := by
    obtain ⟨stores, hinner⟩ := hx host { s with frames := frame :: s.frames }
    exact ⟨stores, .inFrame hinner⟩

theorem Eval.Traceable.modifyTags {C : (TagStore → TagStore) → Prop} {c : TagStore → TagStore}
    (h : C c) : (Eval.modifyTags c).Traceable C :=
  fun _ s => ⟨[c s.tags], .change h⟩

end Retag.Script

namespace Retag.Library

open Script

/-- A change that some function of the library makes. -/
def LibraryChange (c : TagStore → TagStore) : Prop := ∃ function, Change function c

/-- The store between the two changes that start a round of a loop is one of its stores. -/
theorem traced_startRound (host : Host) (i : Nat) (value : String) (s : RunState) :
    let counted := Eval.setIn loopCount (toString i) s.tags
    let started := Eval.setIn loopValue value counted
    Traced LibraryChange host (Control.startRound i value) s [counted, started] (.ok ())
      { s with tags := started } := by
  intro counted started
  have hcount : LibraryChange (Eval.setIn loopCount (toString i)) :=
    ⟨"foreach", .startRound _ (by decide) (by decide)⟩
  have hvalue : LibraryChange (Eval.setIn loopValue value) :=
    ⟨"foreach", .startRound _ (by decide) (by decide)⟩
  exact .bind (.change hcount) (.change hvalue)

/-- Every run of a tree with the library can be cut into effects. -/
theorem traceable_evalTree (t : Tree) : (evalTree standard t).Traceable LibraryChange := by
  refine (Eval.Traceable.composable LibraryChange).evalTree t fun call _ f hf => ?_
  obtain ⟨p, missing, hw, hc⟩ := standard_makes hf
  exact ⟨p, missing, hw, fun c hpc => .modifyTags ⟨call.1, hc c hpc⟩⟩

end Retag.Library

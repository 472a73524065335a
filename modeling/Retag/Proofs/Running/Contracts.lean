import Retag.Library.Conventions
import Retag.Proofs.Running.Calls

/-!
# Runs with conditions on the tags

What a run leaves may depend on what it starts from and on how it ends: `Ensures` has a condition for
the tags before, one for those behind a value and one for an error with the tags behind it. Parts of
a computation that only read keep any condition, so a function that changes no tags ensures what its
arguments do.
-/

namespace Retag.Script

variable {α β : Type} {pre mid post : TagStore → Prop} {fail : RuntimeError → TagStore → Prop}

/-- Started on tags with `pre`, a run that has a value leaves tags with `post`, and one that ends in
an error leaves tags that go with the error by `fail`. -/
def Eval.Ensures (pre post : TagStore → Prop) (fail : RuntimeError → TagStore → Prop)
    (x : Eval α) : Prop :=
  ∀ (host : Host) (s : RunState), pre s.tags →
    match x.runFrom host s with
    | (.ok _, after) => post after.tags
    | (.error e, after) => fail e after.tags

namespace Eval.Ensures

theorem trivial (x : Eval α) : x.Ensures pre (fun _ => True) (fun _ _ => True) := by
  intro host s _
  split <;> trivial

theorem mono {pre' post' : TagStore → Prop} {fail' : RuntimeError → TagStore → Prop} {x : Eval α}
    (h : x.Ensures pre post fail) (hpre : ∀ t, pre' t → pre t) (hpost : ∀ t, post t → post' t)
    (hfail : ∀ e t, fail e t → fail' e t) : x.Ensures pre' post' fail' := by
  intro host s hs
  have hx := h host s (hpre _ hs)
  rcases hr : x.runFrom host s with ⟨e | a, s'⟩
  · rw [hr] at hx
    exact hfail e _ hx
  · rw [hr] at hx
    exact hpost _ hx

theorem bind {x : Eval α} {f : α → Eval β} (hx : x.Ensures pre mid fail)
    (hf : ∀ a, (f a).Ensures mid post fail) : (x >>= f).Ensures pre post fail := by
  intro host s hs
  have h := hx host s hs
  rw [Eval.runFrom_bind]
  rcases hr : x.runFrom host s with ⟨e | a, s'⟩
  · rw [hr] at h
    exact h
  · rw [hr] at h
    exact hf a host s' h

/-- What has a value and changes nothing keeps every condition. -/
theorem of_same {x : Eval α} (h : ∀ host s, ∃ a, x.runFrom host s = (.ok a, s)) :
    x.Ensures pre pre fail := by
  intro host s hs
  obtain ⟨a, hr⟩ := h host s
  rw [hr]
  exact hs

theorem pure (a : α) : (Pure.pure a : Eval α).Ensures pre pre fail :=
  .of_same fun host s => ⟨a, Eval.runFrom_pure host s a⟩

theorem change {c : TagStore → TagStore} (h : ∀ t, pre t → post (c t)) :
    (Eval.modifyTags c).Ensures pre post fail :=
  fun _ s hs => h s.tags hs

theorem throw {e : RuntimeError} (h : ∀ t, pre t → fail e t) :
    (MonadExcept.throw e : Eval α).Ensures pre post fail :=
  fun _ s hs => h s.tags hs

theorem errorHere (fault : String → RuntimeFault) (h : ∀ e t, pre t → fail e t) :
    (Eval.errorHere fault >>= MonadExcept.throw : Eval α).Ensures pre post fail :=
  .bind (.of_same fun host s => ⟨_, runFrom_errorHere fault host s⟩) fun _ => .throw (h _)

theorem inFrame {x : Eval α} (h : x.Ensures pre post fail) (frame : Frame) :
    (Eval.inFrame frame x).Ensures pre post fail := by
  intro host s hs
  have hx := h host { s with frames := frame :: s.frames } hs
  rw [Eval.runFrom_inFrame]
  rcases hr : x.runFrom host { s with frames := frame :: s.frames } with ⟨e | a, s'⟩
  · rw [hr] at hx
    exact hx
  · rw [hr] at hx
    exact hx

/-- A call that lacks an argument is one more way to fail. -/
theorem required {args : List α} {i : Nat} {k : α → Eval β} (h : ∀ e t, pre t → fail e t)
    (hk : ∀ a, args[i]? = some a → (k a).Ensures pre post fail) :
    (Library.required args i >>= k).Ensures pre post fail := by
  rw [Library.required]
  rcases hi : args[i]? with _ | a
  · dsimp only
    rw [bind_assoc]
    exact .errorHere _ h
  · exact hk a hi

/-- Errors leave the frames alone and say nothing of the tags. -/
theorem of_fails {x : Eval α} {Q : RuntimeError → Prop} (h : x.Fails fun _ e => Q e) :
    x.Ensures pre (fun _ => True) fun e _ => Q e := by
  intro host s _
  have he := h.error host s
  rcases hr : x.runFrom host s with ⟨e | a, s'⟩
  · rw [hr] at he
    exact he e rfl
  · exact True.intro

theorem valuesOf {args : List Argument} (h : ∀ a ∈ args, a.value.Ensures pre pre fail) :
    (Argument.valuesOf args).Ensures pre pre fail := by
  induction args with
  | nil => exact .pure []
  | cons a rest ih =>
    refine (h a (List.mem_cons_self ..)).bind fun v => ?_
    exact (ih fun b hb => h b (List.mem_cons_of_mem _ hb)).bind fun vs => .pure (v :: vs)

end Eval.Ensures

/-- A computation that changes no tags keeps what its arguments keep. -/
theorem Uses.ensures {p : Powers} {missing : Nat → Prop} {arg : Eval String → Prop} {x : Eval α}
    (hp : ∀ c, ¬ p.changes c) (hfail : ∀ e t, pre t → fail e t)
    (harg : ∀ v, arg v → v.Ensures pre pre fail) (h : Uses p missing arg x) :
    x.Ensures pre pre fail := by
  induction h with
  | value a => exact .pure a
  | bind _ _ ihx ihf => exact ihx.bind ihf
  | argument h => exact harg _ h
  | tags => exact .of_same fun host s => ⟨_, Eval.runFrom_tags host s⟩
  | change h => exact absurd h (hp _)
  | album _ _ _ ih => exact .bind (.of_same fun host s => ⟨_, Eval.runFrom_read host s⟩) ih
  | clock _ _ _ ih => exact .bind (.of_same fun host s => ⟨_, Eval.runFrom_read host s⟩) ih
  | frame _ => exact .of_same fun host s => ⟨_, Eval.runFrom_currentFrame host s⟩
  | refuse _ => exact .errorHere _ hfail
  | missing _ => exact .errorHere _ hfail

end Retag.Script

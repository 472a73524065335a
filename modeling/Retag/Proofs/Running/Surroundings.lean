import Retag.Proofs.Running.Safety

/-!
# What a run sees of the calls around it

A function may ask for the innermost call that is being executed, which is its own. So what a tree
does never depends on the calls that it stands in: it can be taken out of them, or put into others.
-/

namespace Retag.Script

open Grammar

variable {α β : Type} {top : List Frame}

/-- Of the calls that are being executed, a run sees only the innermost ones, `top`, and it leaves
all of them as they were. -/
def Eval.SeesOnly (top : List Frame) (x : Eval α) : Prop :=
  ∀ host tags, ∃ result after, ∀ around,
    x.runFrom host ⟨tags, top ++ around⟩ = (result, ⟨after, top ++ around⟩)

namespace Eval.SeesOnly

/-- What always ends with a value and leaves the frames alone. -/
theorem of_ok {x : Eval α}
    (h : ∀ host tags, ∃ a after, ∀ frames,
      x.runFrom host ⟨tags, frames⟩ = (.ok a, ⟨after, frames⟩)) :
    x.SeesOnly top := by
  intro host tags
  obtain ⟨a, after, hrun⟩ := h host tags
  exact ⟨.ok a, after, fun around => hrun (top ++ around)⟩

theorem pure (a : α) : (Pure.pure a : Eval α).SeesOnly top :=
  .of_ok fun _ tags => ⟨a, tags, fun _ => rfl⟩

theorem tags : Eval.tags.SeesOnly top := .of_ok fun _ tags => ⟨tags, tags, fun _ => rfl⟩

theorem change (c : TagStore → TagStore) : (Eval.modifyTags c).SeesOnly top :=
  .of_ok fun _ tags => ⟨(), c tags, fun _ => rfl⟩

theorem throw (e : RuntimeError) : (MonadExcept.throw e : Eval α).SeesOnly top :=
  fun _ tags => ⟨.error e, tags, fun _ => rfl⟩

theorem bind {x : Eval α} {f : α → Eval β} (hx : x.SeesOnly top) (hf : ∀ a, (f a).SeesOnly top) :
    (x >>= f).SeesOnly top := by
  intro host tags
  obtain ⟨result, after, hrun⟩ := hx host tags
  cases result with
  | error e =>
    refine ⟨.error e, after, fun around => ?_⟩
    rw [Eval.runFrom_bind, hrun]
  | ok a =>
    obtain ⟨result, behind, hrest⟩ := hf a host after
    refine ⟨result, behind, fun around => ?_⟩
    rw [Eval.runFrom_bind_ok (hrun around), hrest]

theorem read {f : Host → Eval α} (hf : ∀ host, (f host).SeesOnly top) :
    (MonadReader.read >>= f).SeesOnly top :=
  fun host tags => hf host host tags

/-- Nothing but the innermost call is asked for. -/
theorem currentFrame {frame : Frame} : Eval.currentFrame.SeesOnly (frame :: top) :=
  fun _ tags => ⟨.ok (some frame), tags, fun _ => rfl⟩

theorem errorHere {frame : Frame} (fault : String → RuntimeFault) :
    (Eval.errorHere fault >>= MonadExcept.throw : Eval α).SeesOnly (frame :: top) := by
  refine .bind (.bind .currentFrame fun here => ?_) fun e => .throw e
  cases here with
  | none => exact .pure _
  | some f => exact .pure _

/-- What sees no calls at all may be put into any. -/
theorem inside {x : Eval α} (hx : x.SeesOnly []) : x.SeesOnly top := by
  intro host tags
  obtain ⟨result, after, hrun⟩ := hx host tags
  exact ⟨result, after, fun around => hrun (top ++ around)⟩

theorem inFrame {x : Eval α} {frame : Frame} (hx : x.SeesOnly (frame :: top)) :
    (Eval.inFrame frame x).SeesOnly top := by
  intro host tags
  obtain ⟨result, after, hrun⟩ := hx host tags
  refine ⟨result, after, fun around => ?_⟩
  rw [Eval.runFrom_inFrame]
  simp only [List.cons_append] at hrun
  simp [hrun]

theorem valuesOf {args : List Argument} (h : ∀ a ∈ args, a.value.SeesOnly top) :
    (Argument.valuesOf args).SeesOnly top := by
  induction args with
  | nil => exact .pure []
  | cons a rest ih =>
    obtain ⟨ha, hrest⟩ := List.forall_mem_cons.mp h
    exact ha.bind fun v => (ih hrest).bind fun vs => .pure (v :: vs)

/-- What sees no calls runs alike in any, and they stay. -/
theorem runFrom_frames {x : Eval α} (hx : x.SeesOnly []) (host : Host) (s : RunState)
    (frames : List Frame) :
    x.runFrom host ⟨s.tags, frames⟩
      = ((x.runFrom host s).1, ⟨(x.runFrom host s).2.tags, frames⟩) := by
  obtain ⟨result, after, hrun⟩ := hx host s.tags
  have hhere : x.runFrom host s = (result, ⟨after, s.frames⟩) := hrun s.frames
  rw [hhere]
  exact hrun frames

theorem frames_runFrom {x : Eval α} (hx : x.SeesOnly []) (host : Host) (s : RunState) :
    (x.runFrom host s).2.frames = s.frames :=
  congrArg (·.2.frames) (hx.runFrom_frames host s s.frames)

/-- The call that a computation is put into makes no difference. -/
theorem inFrame_eq {x : Eval α} (hx : x.SeesOnly []) (frame : Frame) :
    Eval.inFrame frame x = x := by
  refine Eval.ext fun host s => ?_
  have hinner := hx.runFrom_frames host s (frame :: s.frames)
  rw [Eval.runFrom_inFrame, hinner]
  exact (hx.runFrom_frames host s s.frames).symm

end Eval.SeesOnly

/-- In its call, a function sees this call only if its arguments see none. -/
theorem Uses.seesOnly {p : Powers} {missing : Nat → Prop} {arg : Eval String → Prop} {x : Eval α}
    {frame : Frame} (harg : ∀ v, arg v → v.SeesOnly []) (h : Uses p missing arg x) :
    x.SeesOnly (frame :: top) := by
  induction h with
  | value a => exact .pure a
  | bind _ _ ihx ihf => exact ihx.bind ihf
  | argument h => exact (harg _ h).inside
  | tags => exact .tags
  | change _ => exact .change _
  | album _ _ _ ih => exact .read ih
  | clock _ _ _ ih => exact .read ih
  | frame _ => exact .currentFrame
  | refuse _ => exact .errorHere _
  | missing _ => exact .errorHere _

/-! ## Calls and trees -/

theorem Registry.seesOnly_call {r : Registry} {name : String}
    (hf : ∀ f, r.find? name = some f → f.implementation.OnlyEvaluates) {args : List Argument}
    (hargs : ∀ a ∈ args, a.value.SeesOnly []) (position : Position) :
    (r.call name args position).SeesOnly [] := by
  rw [Registry.call]
  rcases hr : r.find? name with _ | ⟨fname, implementation, arity, doc⟩
  · exact .throw _
  · have honly := hf _ hr
    dsimp only at honly ⊢
    split
    · cases honly with
      | onValues hw => exact (Eval.SeesOnly.valuesOf hargs).bind fun values =>
          ((hw r.signatures values).seesOnly fun _ hnone => False.elim hnone).inFrame
      | onArguments hw =>
        refine ((hw r.signatures args).seesOnly ?_).inFrame
        rintro v ⟨a, ha, rfl⟩
        exact hargs a ha
    · exact .throw _

/-- A tree sees none of the calls that it stands in. -/
theorem seesOnly_evalTree {r : Registry} (t : Tree)
    (h : ∀ call ∈ callsOf t, ∀ f, r.find? call.1 = some f → f.implementation.OnlyEvaluates) :
    (evalTree r t).SeesOnly [] := by
  have cons {n : Node} {rest : Tree} (hn : (n.eval r).SeesOnly [])
      (hrest : (evalTree r rest).SeesOnly []) : (evalTree r (n :: rest)).SeesOnly [] := by
    rw [evalTree]
    exact hn.bind fun first => hrest.bind fun others => .pure (first ++ others)
  refine Tree.inductCalls (P := fun t => (evalTree r t).SeesOnly []) ?nil ?text ?tag ?call t h
  case nil => exact evalTree.eq_1 r ▸ .pure ""
  case text =>
    intro content rest ih
    exact cons (Node.eval.eq_1 r content ▸ .pure content) ih
  case tag =>
    intro name rest ih
    refine cons ?_ ih
    rw [Node.eval]
    exact .bind .tags fun tags => .pure _
  case call =>
    intro name args position rest hcall iha ih
    refine cons ?_ ih
    rw [Node.eval, argumentsOf_eq]
    refine Registry.seesOnly_call hcall (fun a ha => ?_) position
    obtain ⟨t, ht, rfl⟩ := List.mem_map.mp ha
    exact iha t ht

theorem seesOnly_standard (t : Tree) : (evalTree Library.standard t).SeesOnly [] :=
  seesOnly_evalTree t fun _ _ f hf =>
    Implementation.onlyEvaluates_of_standard ⟨f, (Registry.mem_of_find? hf).1, rfl⟩

end Retag.Script

import Mathlib.Data.List.Forall2
import Retag.Proofs.Grammar.Trees
import Retag.Proofs.Running.Calls

/-!
# Running trees that stand elsewhere

Where the calls of a tree stand matters to a run for the place that an error names, and for nothing
else. `Follows` compares two computations so; functions that only ask for the innermost call to make
an error preserve it, and then so do calls and trees.
-/

namespace Retag.Script

variable {f : Position → Position} {frames : List Frame} {α β : Type}

def Frame.moved (f : Position → Position) (frame : Frame) : Frame :=
  ⟨frame.function, f frame.position⟩

def RuntimeError.moved (f : Position → Position) (e : RuntimeError) : RuntimeError :=
  ⟨e.fault, f e.position⟩

/-- Started inside the calls `frames` and inside the same calls moved by `f`, the two change the
tags alike and end with the same value, or with errors that differ by `f`. -/
def Eval.Follows (f : Position → Position) (frames : List Frame) (x x' : Eval α) : Prop :=
  ∀ host tags, ∃ result after,
    x.runFrom host ⟨tags, frames⟩ = (result, ⟨after, frames⟩) ∧
    x'.runFrom host ⟨tags, frames.map (.moved f)⟩
      = (result.mapError (.moved f), ⟨after, frames.map (.moved f)⟩)

namespace Eval.Follows

theorem pure (a : α) : Eval.Follows f frames (pure a) (pure a) :=
  fun _ tags => ⟨.ok a, tags, rfl, rfl⟩

theorem throw (e : RuntimeError) :
    Eval.Follows f frames (throw e : Eval α) (MonadExcept.throw (e.moved f)) :=
  fun _ tags => ⟨.error e, tags, rfl, rfl⟩

theorem tags : Eval.Follows f frames Eval.tags Eval.tags :=
  fun _ tags => ⟨.ok tags, tags, rfl, rfl⟩

theorem change (c : TagStore → TagStore) :
    Eval.Follows f frames (Eval.modifyTags c) (Eval.modifyTags c) :=
  fun _ tags => ⟨.ok (), c tags, rfl, rfl⟩

theorem bind {x x' : Eval α} {k k' : α → Eval β} (hx : x.Follows f frames x')
    (hk : ∀ a, (k a).Follows f frames (k' a)) : (x >>= k).Follows f frames (x' >>= k') := by
  intro host tags
  obtain ⟨result, after, h, h'⟩ := hx host tags
  rw [Eval.runFrom_bind, Eval.runFrom_bind, h, h']
  rcases result with e | a
  · exact ⟨.error e, after, rfl, rfl⟩
  · exact hk a host after

theorem read {k k' : Host → Eval α} (hk : ∀ host, (k host).Follows f frames (k' host)) :
    (MonadReader.read >>= k).Follows f frames (MonadReader.read >>= k') := by
  intro host tags
  rw [Eval.runFrom_bind_ok (Eval.runFrom_read host _),
    Eval.runFrom_bind_ok (Eval.runFrom_read host _)]
  exact hk host host tags

/-- An error about the innermost call is about that call where it stands now. -/
theorem errorHere {frame : Frame} (fault : String → RuntimeFault) :
    Eval.Follows f (frame :: frames) (Eval.errorHere fault >>= MonadExcept.throw : Eval α)
      (Eval.errorHere fault >>= MonadExcept.throw) := by
  intro host tags
  rw [Eval.runFrom_bind_ok (runFrom_errorHere fault host _),
    Eval.runFrom_bind_ok (runFrom_errorHere fault host _)]
  exact ⟨.error ⟨fault frame.function, frame.position⟩, tags, rfl, rfl⟩

theorem inFrame {x x' : Eval α} {frame : Frame} (h : x.Follows f (frame :: frames) x') :
    (Eval.inFrame frame x).Follows f frames (Eval.inFrame (frame.moved f) x') := by
  intro host tags
  obtain ⟨result, after, hr, hr'⟩ := h host tags
  rw [List.map_cons] at hr'
  refine ⟨result, after, ?_, ?_⟩
  · rw [Eval.runFrom_inFrame, hr]
    rfl
  · rw [Eval.runFrom_inFrame, hr']
    rfl

end Eval.Follows

/-- What does not ask for the innermost call but to make an error follows itself, inside a call. -/
theorem Uses.follows {p : Powers} {missing : Nat → Prop} {arg : Eval String → Prop} {x : Eval α}
    {frame : Frame} (hp : ¬ p.frame) (harg : ∀ v, arg v → v.Follows f (frame :: frames) v)
    (h : Uses p missing arg x) : x.Follows f (frame :: frames) x := by
  induction h with
  | value a => exact .pure a
  | bind _ _ ihx ihf => exact ihx.bind ihf
  | argument h => exact harg _ h
  | tags => exact .tags
  | change _ => exact .change _
  | album _ _ _ ih => exact .read ih
  | clock _ _ _ ih => exact .read ih
  | frame h => exact absurd h hp
  | refuse _ => exact .errorHere _
  | missing _ => exact .errorHere _

/-! ## Calls -/

/-- Two arguments that look alike to a function, whose values follow each other. -/
structure Argument.Follows (f : Position → Position) (frames : List Frame) (a a' : Argument) :
    Prop where
  blank : a'.isBlank = a.isBlank
  tag : Tree.singleTag? a'.tree = Tree.singleTag? a.tree
  value : a.value.Follows f frames a'.value

/-- Wherever a call of it stands, a function does the same with the same arguments. -/
def Implementation.Follows (f : Position → Position) : Implementation → Prop
  | .onValues run => ∀ known frame frames values,
      (run known values).Follows f (frame :: frames) (run known values)
  | .onArguments run => ∀ known frame frames args args',
      List.Forall₂ (Argument.Follows f (frame :: frames)) args args' →
        (run known args).Follows f (frame :: frames) (run known args')

theorem Argument.follows_valuesOf {args args' : List Argument}
    (h : List.Forall₂ (Argument.Follows f frames) args args') :
    (valuesOf args).Follows f frames (valuesOf args') := by
  induction h with
  | nil => exact .pure []
  | cons ha _ ih => exact ha.value.bind fun v => ih.bind fun vs => .pure (v :: vs)

theorem Registry.follows_call {r : Registry}
    (hr : ∀ g ∈ r.functions, g.implementation.Follows f) {args args' : List Argument}
    (hargs : ∀ frames, List.Forall₂ (Argument.Follows f frames) args args') (name : String)
    (position : Position) :
    (r.call name args position).Follows f frames (r.call name args' (f position)) := by
  have hlength := (hargs frames).length_eq
  rw [Registry.call, Registry.call, ← hlength]
  rcases hg : r.find? name with _ | ⟨gname, implementation, arity, doc⟩
  · exact .throw _
  · have himpl := hr _ (Registry.mem_of_find? hg).1
    dsimp only at himpl ⊢
    split
    · cases implementation with
      | onValues run =>
        refine (Argument.follows_valuesOf (hargs frames)).bind fun values => ?_
        exact Eval.Follows.inFrame (himpl r.signatures _ _ values)
      | onArguments run =>
        exact Eval.Follows.inFrame (himpl r.signatures _ _ args args' (hargs _))
    · exact .throw _

/-! ## Trees -/

theorem isEmpty_moved (t : Tree) : (moved f t).isEmpty = t.isEmpty := by
  cases t <;> rfl

theorem singleTag?_moved (t : Tree) : Tree.singleTag? (moved f t) = Tree.singleTag? t := by
  rcases t with _ | ⟨_ | _ | _, _ | _⟩ <;> rfl

/-- A tree with its places moved runs as it did, and names the moved place in an error. -/
theorem evalTree_follows {r : Registry} (hr : ∀ g ∈ r.functions, g.implementation.Follows f)
    (t : Tree) (frames : List Frame) :
    (evalTree r t).Follows f frames (evalTree r (moved f t)) := by
  have cons {frames : List Frame} {n : Node} {rest : Tree}
      (hn : (n.eval r).Follows f frames ((n.moved f).eval r))
      (hrest : (evalTree r rest).Follows f frames (evalTree r (moved f rest))) :
      (evalTree r (n :: rest)).Follows f frames (evalTree r (moved f (n :: rest))) := by
    rw [moved, evalTree, evalTree]
    exact hn.bind fun first => hrest.bind fun others => .pure (first ++ others)
  induction t using Tree.induct generalizing frames with
  | nil =>
    rw [moved, evalTree]
    exact .pure ""
  | text content rest ih =>
    refine cons ?_ (ih frames)
    rw [Node.moved, Node.eval]
    exact .pure content
  | tag name rest ih =>
    refine cons ?_ (ih frames)
    rw [Node.moved, Node.eval]
    exact .bind .tags fun _ => .pure _
  | call name args position rest iha ih =>
    refine cons ?_ (ih frames)
    rw [Node.moved, Node.eval, Node.eval, argumentsOf_eq, argumentsOf_eq, movedTrees_eq_map]
    refine Registry.follows_call hr (fun frames => ?_) name position
    rw [List.map_map, List.forall₂_map_left_iff, List.forall₂_map_right_iff, List.forall₂_same]
    intro a ha
    exact ⟨isEmpty_moved a, singleTag?_moved a, iha a ha frames⟩

end Retag.Script

import Retag.Proofs.Running.Indifference

/-!
# The calls that are being executed

Every run leaves the frames as it found them, and while an implementation runs its own call is the
innermost. A watch looks for this before and after each argument, implementation and call, wherever
the functions are those of the library or plans of a host. It never sees anything else, so it makes
no difference to the run.
-/

namespace Retag.Script

open Grammar

variable {α : Type} {frames : List Frame} {frame : Frame} {r : Registry}

/-! ## Plans -/

/-- What a function of a host does: it asks which call is being executed, evaluates arguments of its
own as often as it likes, also on after an error in one, and ends with a value or an error. -/
inductive Plan where
  | finish (result : Except RuntimeError String)
  | ask (next : Option Frame → Plan)
  | evaluate (i : Nat) (next : Except RuntimeError String → Plan)

/-- Runs on after an error too. -/
def Eval.attempt (act : Eval α) : Eval (Except RuntimeError α) :=
  fun host => ExceptT.mk do return .ok (← (act.run host).run)

/-- The value of an argument; empty if the call does not have it. -/
def Argument.valueAt (args : List Argument) (i : Nat) : Eval String :=
  match args[i]? with
  | some a => a.value
  | none => return ""

def Plan.run (args : List Argument) : Plan → Eval String
  | .finish result => match result with
    | .ok value => return value
    | .error e => throw e
  | .ask next => do (next (← Eval.currentFrame)).run args
  | .evaluate i next => do (next (← (Argument.valueAt args i).attempt)).run args

/-- The plan with its questions answered beforehand. -/
def Plan.told (frame : Frame) : Plan → Plan
  | .finish result => .finish result
  | .ask next => (next (some frame)).told frame
  | .evaluate i next => .evaluate i fun result => (next result).told frame

/-- Functions that are carried out by plans, which may look at the values or the trees, and at which
functions there are. -/
inductive Implementation.Planned : Implementation → Prop
  | onValues (plan : List Signature → List String → Plan) :
      Planned (.onValues fun known values => (plan known values).run [])
  | onArguments (plan : List Signature → List Tree → Plan) :
      Planned (.onArguments fun known args => (plan known (args.map (·.tree))).run args)

/-! ## Watches -/

/-- A watch over the frames: the mark that it leaves, and how many frames there may be. -/
structure Watch where
  mark : Frame
  limit : Nat

namespace Watch

/-- Leaves the mark at the bottom unless the calls being executed are these, and not too many. -/
def look (w : Watch) (frames : List Frame) : StateM RunState Unit :=
  modify fun s => if s.frames = frames ∧ frames.length ≤ w.limit then s
    else { s with frames := s.frames ++ [w.mark] }

/-- Looks before and after, also after an error. -/
def guarded (w : Watch) (frames : List Frame) (act : Eval α) : Eval α := fun host => ExceptT.mk do
  w.look frames
  let result ← (act.run host).run
  w.look frames
  return result

mutual

/-- The value of a node inside the calls `frames`, watched. Arguments of an eager function are
evaluated inside the same calls, its implementation, and all of a lazy one, inside its own too. -/
def evalNode (w : Watch) (r : Registry) (frames : List Frame) : Node → Eval String
  | .text content => return content
  | .tag name => Eval.tagValue name
  | .call name args position => w.guarded frames (
    match r.find? name with
    | none => throw ⟨.unknownFunction name, position⟩
    | some f =>
      if f.arity.accepts args.length then
        match f.implementation with
        | .onValues run => do
          let values ← Argument.valuesOf (w.argumentsOf r frames args)
          Eval.inFrame ⟨name, position⟩ (w.guarded (⟨name, position⟩ :: frames)
            (run r.signatures values))
        | .onArguments run =>
          Eval.inFrame ⟨name, position⟩ (w.guarded (⟨name, position⟩ :: frames)
            (run r.signatures (w.argumentsOf r (⟨name, position⟩ :: frames) args)))
      else throw ⟨.wrongCount name f.arity args.length, position⟩)

def evalTree (w : Watch) (r : Registry) (frames : List Frame) : Tree → Eval String
  | [] => return ""
  | n :: rest => do
    let first ← w.evalNode r frames n
    let others ← w.evalTree r frames rest
    return first ++ others

def argumentsOf (w : Watch) (r : Registry) (frames : List Frame) : List Tree → List Argument
  | [] => []
  | tree :: rest =>
    ⟨tree, w.guarded frames (w.evalTree r frames tree)⟩ :: w.argumentsOf r frames rest

end

theorem argumentsOf_eq (w : Watch) (r : Registry) (frames : List Frame) (args : List Tree) :
    w.argumentsOf r frames args
      = args.map fun t => ⟨t, w.guarded frames (w.evalTree r frames t)⟩ := by
  induction args with
  | nil => rfl
  | cons t rest ih => rw [argumentsOf, ih, List.map_cons]

end Watch

/-! ## Nesting -/

mutual

/-- How deep the calls of a node nest. -/
def Node.nesting : Node → Nat
  | .text _ => 0
  | .tag _ => 0
  | .call _ args _ => nestingAll args + 1

def nesting : Tree → Nat
  | [] => 0
  | n :: rest => max n.nesting (nesting rest)

def nestingAll : List Tree → Nat
  | [] => 0
  | t :: rest => max (nesting t) (nestingAll rest)

end

theorem nesting_le_nestingAll {t : Tree} {args : List Tree} (h : t ∈ args) :
    nesting t ≤ nestingAll args := by
  induction args with
  | nil => cases h
  | cons a rest ih =>
    rw [nestingAll]
    rcases List.mem_cons.mp h with rfl | h
    · exact Nat.le_max_left ..
    · exact Nat.le_trans (ih h) (Nat.le_max_right ..)

theorem nestingAll_le {args : List Tree} {bound : Nat} (h : ∀ t ∈ args, nesting t ≤ bound) :
    nestingAll args ≤ bound := by
  induction args with
  | nil => exact Nat.zero_le bound
  | cons a rest ih =>
    rw [nestingAll]
    exact Nat.max_le.mpr ⟨h a List.mem_cons_self, ih fun t ht => h t (List.mem_cons_of_mem _ ht)⟩

/-- Reading a script keeps its calls from nesting too deep. -/
theorem nesting_of_canonical {arityOf : String → Option Arity} {depth : Nat} {t : Tree}
    (h : Canonical arityOf depth t) (hdepth : depth ≤ maxNesting) :
    depth + nesting t ≤ maxNesting := by
  induction h with
  | nil => exact hdepth
  | text _ _ _ ih => simpa [nesting, Node.nesting] using ih hdepth
  | tag _ _ ih => simpa [nesting, Node.nesting] using ih hdepth
  | @call depth _ _ args _ rest _ _ hlt _ _ _ _ iha ih =>
    have hrest := ih hdepth
    have hargs : nestingAll args ≤ maxNesting - (depth + 1) := by
      refine nestingAll_le fun a ha => ?_
      have hdeep := iha a ha hlt
      omega
    simp only [nesting, Node.nesting]
    omega

/-! ## Watched runs -/

/-- Computations that follow each other unmoved do the same inside the calls `frames`, and leave
these as they were. -/
theorem Eval.follows_id_iff {x x' : Eval α} : x.Follows id frames x' ↔ ∀ host tags, ∃ result after,
    x.runFrom host ⟨tags, frames⟩ = (result, ⟨after, frames⟩) ∧
    x'.runFrom host ⟨tags, frames⟩ = (result, ⟨after, frames⟩) := by
  have hframes : frames.map (Frame.moved id) = frames := List.map_id frames
  have hresult (result : Except RuntimeError α) :
      result.mapError (RuntimeError.moved id) = result := by
    cases result <;> rfl
  simp only [Eval.Follows, hframes, hresult]

theorem Eval.runFrom_attempt (act : Eval α) (host : Host) (s : RunState) :
    act.attempt.runFrom host s = (.ok (act.runFrom host s).1, (act.runFrom host s).2) := rfl

/-- A look leaves no mark exactly if it sees what it looks for. -/
theorem Watch.look_same_iff (w : Watch) (frames : List Frame) (s : RunState) :
    ((w.look frames).run s).2 = s ↔ s.frames = frames ∧ frames.length ≤ w.limit := by
  have hrun : ((w.look frames).run s).2 = if s.frames = frames ∧ frames.length ≤ w.limit then s
      else { s with frames := s.frames ++ [w.mark] } := rfl
  rw [hrun]
  split
  case isTrue h => exact iff_of_true rfl h
  case isFalse h =>
    refine iff_of_false (fun hsame => ?_) h
    have hlength := congrArg (·.frames.length) hsame
    simp at hlength

/-- What has a follower does the same as itself. -/
theorem Eval.Follows.left {x x' : Eval α} (h : x.Follows id frames x') : x.Follows id frames x := by
  rw [Eval.follows_id_iff] at h ⊢
  intro host tags
  obtain ⟨result, after, hx, -⟩ := h host tags
  exact ⟨result, after, hx, hx⟩

theorem Watch.runFrom_guarded {w : Watch} (hlimit : frames.length ≤ w.limit) {act : Eval α}
    {host : Host} {tags after : TagStore} {result : Except RuntimeError α}
    (h : act.runFrom host ⟨tags, frames⟩ = (result, ⟨after, frames⟩)) :
    (w.guarded frames act).runFrom host ⟨tags, frames⟩ = (result, ⟨after, frames⟩) := by
  have hlook (tags : TagStore) : ((w.look frames).run ⟨tags, frames⟩).2 = ⟨tags, frames⟩ :=
    (w.look_same_iff frames _).mpr ⟨rfl, hlimit⟩
  have hover : (w.guarded frames act).runFrom host ⟨tags, frames⟩
      = let r := act.runFrom host ((w.look frames).run ⟨tags, frames⟩).2
        (r.1, ((w.look frames).run r.2).2) := rfl
  rw [hover, hlook tags]
  simp only [h, hlook after]

theorem Watch.follows_guarded {w : Watch} (hlimit : frames.length ≤ w.limit) {x x' : Eval α}
    (h : x.Follows id frames x') : x.Follows id frames (w.guarded frames x') := by
  rw [Eval.follows_id_iff] at h ⊢
  intro host tags
  obtain ⟨result, after, hx, hx'⟩ := h host tags
  exact ⟨result, after, hx, runFrom_guarded hlimit hx'⟩

/-- Given arguments that do the same, the implementation does the same in every call. -/
def Implementation.Steady : Implementation → Prop
  | .onValues run => ∀ known frame frames values,
      (run known values).Follows id (frame :: frames) (run known values)
  | .onArguments run => ∀ known frame frames args args', List.Forall₂ (fun a a' : Argument =>
        a'.tree = a.tree ∧ a.value.Follows id (frame :: frames) a'.value) args args' →
      (run known args).Follows id (frame :: frames) (run known args')

theorem Implementation.Follows.steady {i : Implementation} (h : i.Follows id) : i.Steady := by
  cases i with
  | onValues run => exact h
  | onArguments run =>
    refine fun known frame frames args args' hargs => h known frame frames args args' ?_
    refine hargs.imp ?_
    rintro a a' ⟨htree, hvalue⟩
    exact ⟨by rw [Argument.isBlank, Argument.isBlank, htree], by rw [htree], hvalue⟩

theorem Eval.Follows.attempt {x x' : Eval α} (h : x.Follows id frames x') :
    x.attempt.Follows id frames x'.attempt := by
  rw [Eval.follows_id_iff] at h ⊢
  intro host tags
  obtain ⟨result, after, hx, hx'⟩ := h host tags
  refine ⟨.ok result, after, ?_, ?_⟩
  · rw [Eval.runFrom_attempt, hx]
  · rw [Eval.runFrom_attempt, hx']

theorem Eval.Follows.currentFrame {k k' : Option Frame → Eval α}
    (hk : (k frames.head?).Follows id frames (k' frames.head?)) :
    (Eval.currentFrame >>= k).Follows id frames (Eval.currentFrame >>= k') := by
  rw [Eval.follows_id_iff] at hk ⊢
  exact hk

theorem Argument.follows_valueAt {args args' : List Argument}
    (h : List.Forall₂ (fun a a' : Argument => a.value.Follows id frames a'.value) args args')
    (i : Nat) : (valueAt args i).Follows id frames (valueAt args' i) := by
  have hi := Library.rel_getElem? h i
  rw [valueAt, valueAt]
  generalize args[i]? = o at hi
  generalize args'[i]? = o' at hi
  cases hi with
  | none => exact .pure ""
  | some hvalue => exact hvalue

/-- A plan does the same with arguments that do the same. -/
theorem Plan.follows_run {args args' : List Argument}
    (h : List.Forall₂ (fun a a' : Argument => a.value.Follows id frames a'.value) args args')
    (plan : Plan) : (plan.run args).Follows id frames (plan.run args') := by
  induction plan with
  | finish result =>
    rcases result with e | value
    · exact .throw e
    · exact .pure value
  | ask next ih => exact .currentFrame (ih _)
  | evaluate i next ih => exact (Argument.follows_valueAt h i).attempt.bind fun result => ih result

/-- In its call a plan is answered with this call, whatever it has evaluated before. -/
theorem Plan.follows_told {args : List Argument}
    (h : ∀ a ∈ args, a.value.Follows id (frame :: frames) a.value) (plan : Plan) :
    (plan.run args).Follows id (frame :: frames) ((plan.told frame).run args) := by
  induction plan with
  | finish result =>
    rcases result with e | value
    · exact .throw e
    · exact .pure value
  | ask next ih =>
    have hnext := ih (some frame)
    rw [Eval.follows_id_iff] at hnext ⊢
    exact hnext
  | evaluate i next ih =>
    have hvalue := Argument.follows_valueAt (List.forall₂_same.mpr h) i
    exact hvalue.attempt.bind fun result => ih result

theorem Implementation.Planned.steady {i : Implementation} (h : i.Planned) : i.Steady := by
  cases h with
  | onValues plan =>
    exact fun known frame frames values => Plan.follows_run .nil (plan known values)
  | onArguments plan =>
    intro known frame frames args args' hargs
    have htrees : args'.map (·.tree) = args.map (·.tree) := by
      induction hargs with
      | nil => rfl
      | cons h _ ih => rw [List.map_cons, List.map_cons, h.1, ih]
    dsimp only
    rw [htrees]
    exact Plan.follows_run (hargs.imp fun _ _ h => h.2) _

/-- A watch makes no difference to a call if it makes none to the arguments. -/
theorem Watch.follows_call {w : Watch} (hr : ∀ f ∈ r.functions, f.implementation.Steady)
    {name : String} {args : List Tree} {position : Position}
    (hlimit : frames.length + 1 ≤ w.limit)
    (hargs : ∀ inner : List Frame, inner.length ≤ frames.length + 1 → ∀ a ∈ args,
      (Script.evalTree r a).Follows id inner (w.evalTree r inner a)) :
    ((Node.call name args position).eval r).Follows id frames
      (w.evalNode r frames (.call name args position)) := by
  have hwatched (inner : List Frame) (hinner : inner.length ≤ frames.length + 1) :
      List.Forall₂ (fun a a' : Argument => a'.tree = a.tree ∧ a.value.Follows id inner a'.value)
        (Script.argumentsOf r args) (w.argumentsOf r inner args) := by
    rw [Script.argumentsOf_eq, Watch.argumentsOf_eq, List.forall₂_map_left_iff,
      List.forall₂_map_right_iff, List.forall₂_same]
    exact fun a ha => ⟨rfl, follows_guarded (Nat.le_trans hinner hlimit) (hargs inner hinner a ha)⟩
  have hlength : (Script.argumentsOf r args).length = args.length := by
    rw [Script.argumentsOf_eq, List.length_map]
  rw [Node.eval, Registry.call, Watch.evalNode, hlength]
  have hown : (⟨name, position⟩ :: frames : List Frame).length ≤ w.limit := hlimit
  refine follows_guarded (Nat.le_of_succ_le hlimit) ?_
  rcases hf : r.find? name with _ | ⟨gname, implementation, arity, doc⟩
  · exact .throw _
  · have himpl := hr _ (Registry.mem_of_find? hf).1
    dsimp only at himpl ⊢
    split
    case isFalse _ => exact .throw _
    case isTrue _ =>
      cases implementation with
      | onValues run =>
        have hvalues := hwatched frames (Nat.le_succ _)
        refine (Argument.follows_valuesOf (hvalues.imp fun a a' h => ?_)).bind fun values => ?_
        · exact ⟨by rw [Argument.isBlank, Argument.isBlank, h.1], by rw [h.1], h.2⟩
        · refine Eval.Follows.inFrame (follows_guarded hown ?_)
          exact himpl r.signatures ⟨name, position⟩ frames values
      | onArguments run =>
        have hinner := hwatched (⟨name, position⟩ :: frames) (Nat.le_refl _)
        exact Eval.Follows.inFrame (follows_guarded hown (himpl r.signatures _ frames _ _ hinner))

/-- A watch makes no difference to a run in which the functions are steady. -/
theorem Watch.follows_evalTree {w : Watch} (hr : ∀ f ∈ r.functions, f.implementation.Steady)
    (t : Tree) (frames : List Frame) (hlimit : frames.length + nesting t ≤ w.limit) :
    (Script.evalTree r t).Follows id frames (w.evalTree r frames t) := by
  have cons {frames : List Frame} {n : Node} {rest : Tree}
      (hn : (n.eval r).Follows id frames (w.evalNode r frames n))
      (hrest : (Script.evalTree r rest).Follows id frames (w.evalTree r frames rest)) :
      (Script.evalTree r (n :: rest)).Follows id frames (w.evalTree r frames (n :: rest)) := by
    rw [Script.evalTree, Watch.evalTree]
    exact hn.bind fun first => hrest.bind fun others => .pure (first ++ others)
  induction t using Tree.induct generalizing frames with
  | nil =>
    rw [Script.evalTree, Watch.evalTree]
    exact .pure ""
  | text content rest ih =>
    rw [nesting] at hlimit
    refine cons ?_ (ih frames (by omega))
    rw [Node.eval, Watch.evalNode]
    exact .pure content
  | tag name rest ih =>
    rw [nesting] at hlimit
    refine cons ?_ (ih frames (by omega))
    rw [Node.eval, Watch.evalNode]
    exact .bind .tags fun _ => .pure _
  | call name args position rest iha ih =>
    rw [nesting, Node.nesting] at hlimit
    refine cons (follows_call hr (by omega) fun inner hinner a ha => ?_) (ih frames (by omega))
    have hnested := nesting_le_nestingAll ha
    exact iha a ha inner (by omega)

/-- For every registry of functions of the library and of plans: a run leaves the frames as they
were; a watch, whatever its mark, makes no difference, so while an implementation runs, also behind
each argument that it evaluates, its call is the innermost and all others are those around it; a
plan is told so whenever it asks; and scripts that were read never have more than 128 frames of
their own. -/
theorem frames_balanced {r : Registry}
    (hr : ∀ f ∈ r.functions, (∃ g ∈ Library.standard.functions,
      f.implementation = g.implementation) ∨ f.implementation.Planned) :
    (∀ (t : Tree) (host : Host) (s : RunState),
      ((evalTree r t).runFrom host s).2.frames = s.frames) ∧
    (∀ (t : Tree) (host : Host) (s : RunState) (w : Watch),
      s.frames.length + nesting t ≤ w.limit →
        (w.evalTree r s.frames t).runFrom host s = (evalTree r t).runFrom host s) ∧
    (∀ (plan : Plan) (args : List Tree) (name : String) (position : Position) (host : Host)
      (s : RunState),
      (Eval.inFrame ⟨name, position⟩ (plan.run (argumentsOf r args))).runFrom host s
        = (Eval.inFrame ⟨name, position⟩
            ((plan.told ⟨name, position⟩).run (argumentsOf r args))).runFrom host s) ∧
    (∀ (source : String) (t : Tree), parse r.arity? source = .ok t →
      ∀ (host : Host) (s : RunState) (mark : Frame),
        (Watch.evalTree ⟨mark, s.frames.length + 128⟩ r s.frames t).runFrom host s
          = (evalTree r t).runFrom host s) := by
  have hsteady : ∀ f ∈ r.functions, f.implementation.Steady := by
    intro f hf
    rcases hr f hf with ⟨g, hg, hsame⟩ | hplanned
    · exact hsame ▸ (Library.standard_follows id g hg).steady
    · exact hplanned.steady
  have hwatched (t : Tree) (host : Host) (s : RunState) (w : Watch)
      (hlimit : s.frames.length + nesting t ≤ w.limit) :
      ((evalTree r t).runFrom host s).2.frames = s.frames ∧
      (w.evalTree r s.frames t).runFrom host s = (evalTree r t).runFrom host s := by
    have hfollows := Eval.follows_id_iff.mp (Watch.follows_evalTree hsteady t s.frames hlimit)
    obtain ⟨result, after, hrun, hwatched⟩ := hfollows host s.tags
    exact ⟨congrArg (·.2.frames) hrun, hwatched.trans hrun.symm⟩
  refine ⟨?_, ?_, ?_, ?_⟩
  · exact fun t host s => (hwatched t host s ⟨⟨"", .start⟩, _⟩ (Nat.le_refl _)).1
  · exact fun t host s w hlimit => (hwatched t host s w hlimit).2
  · intro plan args name position host s
    have hargs : ∀ a ∈ argumentsOf r args,
        a.value.Follows id (⟨name, position⟩ :: s.frames) a.value := by
      rw [argumentsOf_eq]
      rintro a ha
      obtain ⟨t, -, rfl⟩ := List.mem_map.mp ha
      exact (Watch.follows_evalTree (w := ⟨⟨"", .start⟩, _⟩) hsteady t _ (Nat.le_refl _)).left
    have htold := Eval.follows_id_iff.mp (Plan.follows_told hargs plan) host s.tags
    obtain ⟨result, after, hrun, htold⟩ := htold
    rw [Eval.runFrom_inFrame, Eval.runFrom_inFrame, hrun, htold]
  · intro source t hparse host s mark
    have hdeep := nesting_of_canonical (canonical_of_parse hparse) (Nat.zero_le _)
    refine (hwatched t host s ⟨mark, s.frames.length + 128⟩ ?_).2
    rw [maxNesting] at hdeep
    dsimp only
    omega

/-- A plan that goes on after an error in its argument still finds itself the innermost call. -/
theorem frames_balanced_caught :
    let host : Host := ⟨none, ⟨⟨2024, 5, 6⟩, ⟨7, 8, 9, 0⟩, 0⟩⟩
    let name : Plan := .ask fun frame => .finish (.ok ((frame.map (·.function)).getD ""))
    let after : Function :=
      ⟨"after", .lazy fun args => (Plan.evaluate 0 fun _ => name).run args, .exactly 1, ""⟩
    let r : Registry := ⟨after :: Library.standard.functions⟩
    let tree : Tree := [.call "after" [[.call "datetime" [[.text "%"]] ⟨1, 8, 7⟩]] .start]
    parse r.arity? "$after($datetime(\\%))" = .ok tree ∧
    ((evalTree r tree).runFrom host ⟨.empty, []⟩).1 = .ok "after" ∧
    ((evalTree r tree).runFrom host ⟨.empty, []⟩).2.frames = [] ∧
    (Watch.evalTree ⟨⟨"", .start⟩, 128⟩ r [] tree).runFrom host ⟨.empty, []⟩
      = (evalTree r tree).runFrom host ⟨.empty, []⟩ := by
  intro host name after r tree
  have hr : ∀ f ∈ r.functions, (∃ g ∈ Library.standard.functions,
      f.implementation = g.implementation) ∨ f.implementation.Planned := by
    intro f hf
    rcases List.mem_cons.mp hf with rfl | hf
    · exact .inr (.onArguments fun _ _ => .evaluate 0 fun _ => name)
    · exact .inl ⟨f, hf, rfl⟩
  obtain ⟨hframes, -, -, hdeep⟩ := frames_balanced hr
  have hparse : parse r.arity? "$after($datetime(\\%))" = .ok tree := rfl
  have hvalue : ((evalTree r tree).runFrom host ⟨.empty, []⟩).1 = .ok "after" := rfl
  exact ⟨hparse, hvalue, hframes tree host ⟨.empty, []⟩,
    hdeep _ tree hparse host ⟨.empty, []⟩ ⟨"", .start⟩⟩

end Retag.Script

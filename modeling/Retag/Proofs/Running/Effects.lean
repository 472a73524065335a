import Retag.Script.Eval

/-!
# What functions may do

A function of the library is a computation put together from a few effects: it returns, it goes on
after another computation, it evaluates an argument, it reads tags, and it may have powers beyond
that. `Uses` says that a computation is put together so. What holds of every effect then holds of
the whole computation by one induction, and nothing here depends on which functions there are.
-/

namespace Retag.Script

/-! ## Runs of the basic effects -/

namespace Eval

variable {α β : Type} (host : Host) (s : RunState)

@[simp] theorem runFrom_pure (a : α) : (pure a : Eval α).runFrom host s = (.ok a, s) := rfl

@[simp] theorem runFrom_throw (e : RuntimeError) :
    (throw e : Eval α).runFrom host s = (.error e, s) := rfl

@[simp] theorem runFrom_tags : Eval.tags.runFrom host s = (.ok s.tags, s) := rfl

@[simp] theorem runFrom_modifyTags (change : TagStore → TagStore) :
    (modifyTags change).runFrom host s = (.ok (), { s with tags := change s.tags }) := rfl

@[simp] theorem runFrom_currentFrame :
    currentFrame.runFrom host s = (.ok s.frames.head?, s) := rfl

@[simp] theorem runFrom_read : (read : Eval Host).runFrom host s = (.ok host, s) := rfl

/-- A computation that goes on after another one starts in the state that the other one leaves. -/
theorem runFrom_bind (x : Eval α) (f : α → Eval β) :
    (x >>= f).runFrom host s = match x.runFrom host s with
      | (.ok a, s') => (f a).runFrom host s'
      | (.error e, s') => (.error e, s') := by
  simp only [runFrom, ReaderT.run_bind, ExceptT.run_bind, StateT.run_bind]
  rcases (x.run host).run.run s with ⟨_ | a, s'⟩ <;> rfl

theorem runFrom_bind_ok {x : Eval α} {f : α → Eval β} {host : Host} {s s' : RunState} {a : α}
    (h : x.runFrom host s = (.ok a, s')) : (x >>= f).runFrom host s = (f a).runFrom host s' := by
  rw [runFrom_bind, h]

theorem runFrom_bind_error {x : Eval α} {f : α → Eval β} {host : Host} {s s' : RunState}
    {e : RuntimeError} (h : x.runFrom host s = (.error e, s')) :
    (x >>= f).runFrom host s = (.error e, s') := by
  rw [runFrom_bind, h]

/-- Computations that run alike are equal. -/
theorem ext {x y : Eval α} (h : ∀ host s, x.runFrom host s = y.runFrom host s) : x = y :=
  funext fun host => StateT.ext (h host)

theorem runFrom_inFrame (frame : Frame) (act : Eval α) :
    (inFrame frame act).runFrom host s =
      let r := act.runFrom host { s with frames := frame :: s.frames }
      (r.1, { r.2 with frames := r.2.frames.tail }) := rfl

end Eval

/-- The call that errors of a function are about. -/
def RunState.here (s : RunState) : Frame := s.frames.headD ⟨"", .start⟩

theorem runFrom_errorHere (fault : String → RuntimeFault) (host : Host) (s : RunState) :
    (Eval.errorHere fault).runFrom host s
      = (.ok ⟨fault s.here.function, s.here.position⟩, s) := by
  rw [Eval.errorHere, Eval.runFrom_bind_ok (Eval.runFrom_currentFrame host s)]
  obtain ⟨tags, frames⟩ := s
  cases frames <;> rfl

/-! ## Computations put together from effects -/

/-- What a function may do besides evaluating its arguments and reading tags. -/
structure Powers where
  /-- The changes that it may make to the tags. -/
  changes : (TagStore → TagStore) → Prop := fun _ => False
  album : Prop := False
  clock : Prop := False
  /-- It may ask which call is being executed. -/
  frame : Prop := False
  /-- It may refuse a format. -/
  refuses : Prop := False

/-- A computation with the powers `p`, which evaluates the arguments `arg` and may ask for one at a
place `i` that the call does not have if `missing i`. -/
inductive Uses (p : Powers) (missing : Nat → Prop) (arg : Eval String → Prop) :
    {α : Type} → Eval α → Prop
  | value {α : Type} (a : α) : Uses p missing arg (pure a)
  | bind {α β : Type} {x : Eval α} {f : α → Eval β} :
      Uses p missing arg x → (∀ a, Uses p missing arg (f a)) → Uses p missing arg (x >>= f)
  | argument {v : Eval String} : arg v → Uses p missing arg v
  | tags : Uses p missing arg Eval.tags
  | change {c : TagStore → TagStore} : p.changes c → Uses p missing arg (Eval.modifyTags c)
  | album {α : Type} {f : Host → Eval α} : p.album → (∀ host, Uses p missing arg (f host)) →
      (∀ host host', host.file.bind (·.album) = host'.file.bind (·.album) → f host = f host') →
      Uses p missing arg (read >>= f)
  | clock {α : Type} {f : Host → Eval α} : p.clock → (∀ host, Uses p missing arg (f host)) →
      (∀ host host', host.clock = host'.clock → f host = f host') → Uses p missing arg (read >>= f)
  | frame : p.frame → Uses p missing arg Eval.currentFrame
  | refuse {α : Type} : p.refuses →
      Uses p missing arg (Eval.unsupportedFormat >>= throw : Eval α)
  | missing {α : Type} {i : Nat} : missing i →
      Uses p missing arg (Eval.errorHere (.missingArgument · i) >>= throw : Eval α)

/-- The powers `q` are all that `p` are, and more perhaps. -/
structure Powers.Below (p q : Powers) : Prop where
  changes : ∀ c, p.changes c → q.changes c
  album : p.album → q.album
  clock : p.clock → q.clock
  frame : p.frame → q.frame
  refuses : p.refuses → q.refuses

/-- All powers. -/
def Powers.full : Powers := ⟨fun _ => True, True, True, True, True⟩

theorem Powers.below_full (p : Powers) : p.Below .full :=
  ⟨fun _ _ => trivial, fun _ => trivial, fun _ => trivial, fun _ => trivial, fun _ => trivial⟩

theorem Uses.mono {p q : Powers} {missing missing' : Nat → Prop} {arg : Eval String → Prop}
    {α : Type} {x : Eval α} (hp : p.Below q) (hm : ∀ i, missing i → missing' i)
    (h : Uses p missing arg x) : Uses q missing' arg x := by
  induction h with
  | value a => exact .value a
  | bind _ _ ihx ihf => exact .bind ihx ihf
  | argument h => exact .argument h
  | tags => exact .tags
  | change h => exact .change (hp.changes _ h)
  | album h _ hf ih => exact .album (hp.album h) ih hf
  | clock h _ hf ih => exact .clock (hp.clock h) ih hf
  | frame h => exact .frame (hp.frame h)
  | refuse h => exact .refuse (hp.refuses h)
  | missing h => exact .missing (hm _ h)

/-- The effects that leave the tags as they are. -/
inductive Eval.Quiet : {α : Type} → Eval α → Prop
  | value {α : Type} (a : α) : Quiet (pure a)
  | error {α : Type} (e : RuntimeError) : Quiet (throw e : Eval α)
  | tags : Quiet Eval.tags
  | frame : Quiet Eval.currentFrame
  | host : Quiet (read : Eval Host)

theorem Eval.Quiet.runFrom_state {α : Type} {x : Eval α} (h : x.Quiet) (host : Host)
    (s : RunState) : (x.runFrom host s).2 = s := by
  cases h with
  | value a => rw [Eval.runFrom_pure]
  | error e => rw [Eval.runFrom_throw]
  | tags => rw [Eval.runFrom_tags]
  | frame => rw [Eval.runFrom_currentFrame]
  | host => rw [Eval.runFrom_read]

/-- A property of the effects that leave the tags alone which carries over to what is put together
from computations that have it. -/
structure Eval.Composable (P : ∀ {α : Type}, Eval α → Prop) : Prop where
  quiet {α : Type} {x : Eval α} : x.Quiet → P x
  bind {α β : Type} {x : Eval α} {f : α → Eval β} : P x → (∀ a, P (f a)) → P (x >>= f)
  inFrame {α : Type} {x : Eval α} (frame : Frame) : P x → P (Eval.inFrame frame x)

/-- Besides arguments, only changes to the tags matter to such a property. -/
theorem Uses.holds {P : ∀ {α : Type}, Eval α → Prop} (hP : Eval.Composable P) {p : Powers}
    {missing : Nat → Prop} {arg : Eval String → Prop} {α : Type} {x : Eval α}
    (hchange : ∀ c, p.changes c → P (Eval.modifyTags c)) (harg : ∀ v, arg v → P v)
    (h : Uses p missing arg x) : P x := by
  have thrown {β : Type} (fault : String → RuntimeFault) :
      P (Eval.errorHere fault >>= throw : Eval β) := by
    refine hP.bind (hP.bind (hP.quiet .frame) fun frame => ?_) fun e => hP.quiet (.error e)
    cases frame with
    | none => exact hP.quiet (.value _)
    | some f => exact hP.quiet (.value _)
  induction h with
  | value a => exact hP.quiet (.value a)
  | bind _ _ ihx ihf => exact hP.bind ihx ihf
  | argument h => exact harg _ h
  | tags => exact hP.quiet .tags
  | change h => exact hchange _ h
  | album _ _ _ ih => exact hP.bind (hP.quiet .host) ih
  | clock _ _ _ ih => exact hP.bind (hP.quiet .host) ih
  | frame _ => exact hP.quiet .frame
  | refuse _ => exact thrown _
  | missing _ => exact thrown _

/-! ## What follows for the tags -/

/-- Every run, also one that ends in an error, leaves tags that are related to those before it. -/
def Eval.Keeps {α : Type} (R : TagStore → TagStore → Prop) (x : Eval α) : Prop :=
  ∀ (host : Host) (s : RunState), R s.tags (x.runFrom host s).2.tags

theorem Eval.Keeps.bind {α β : Type} {R : TagStore → TagStore → Prop}
    (htrans : ∀ s₁ s₂ s₃, R s₁ s₂ → R s₂ s₃ → R s₁ s₃) {x : Eval α} {f : α → Eval β}
    (hx : x.Keeps R) (hf : ∀ a, (f a).Keeps R) : (x >>= f).Keeps R := by
  intro host s
  have h := hx host s
  rw [Eval.runFrom_bind]
  rcases hr : x.runFrom host s with ⟨e | a, s'⟩
  · rw [hr] at h
    exact h
  · rw [hr] at h
    exact htrans _ _ _ h (hf a host s')

theorem Eval.Keeps.inFrame {α : Type} {R : TagStore → TagStore → Prop} {x : Eval α}
    (hx : x.Keeps R) (frame : Frame) : (Eval.inFrame frame x).Keeps R := by
  intro host s
  rw [Eval.runFrom_inFrame]
  exact hx host { s with frames := frame :: s.frames }

theorem Eval.Keeps.modifyTags {R : TagStore → TagStore → Prop} {c : TagStore → TagStore}
    (h : ∀ s, R s (c s)) : (Eval.modifyTags c).Keeps R := by
  intro host s
  rw [Eval.runFrom_modifyTags]
  exact h s.tags

/-- What keeps a reflexive and transitive relation may be put together. -/
theorem Eval.Keeps.composable {R : TagStore → TagStore → Prop} (hrefl : ∀ s, R s s)
    (htrans : ∀ s₁ s₂ s₃, R s₁ s₂ → R s₂ s₃ → R s₁ s₃) :
    Eval.Composable fun {_} x => x.Keeps R where
  quiet h := by
    intro host s
    rw [h.runFrom_state host s]
    exact hrefl s.tags
  bind hx hf := hx.bind htrans hf
  inFrame frame hx := hx.inFrame frame

/-! ## What follows for errors -/

/-- Runs leave the frames as they were, and can only fail with the errors in `E`, given the call
that is being executed. -/
structure Eval.Fails {α : Type} (E : Frame → RuntimeError → Prop) (x : Eval α) : Prop where
  frames : ∀ (host : Host) (s : RunState), (x.runFrom host s).2.frames = s.frames
  error : ∀ (host : Host) (s : RunState) (e : RuntimeError),
    (x.runFrom host s).1 = .error e → E s.here e

theorem Eval.Fails.mono {α : Type} {E F : Frame → RuntimeError → Prop} {x : Eval α}
    (h : x.Fails E) (hEF : ∀ frame e, E frame e → F frame e) : x.Fails F :=
  ⟨h.frames, fun host s e he => hEF _ _ (h.error host s e he)⟩

/-- What always ends with a value, with the frames as they were, does not fail. -/
theorem Eval.Fails.of_ok {α : Type} {E : Frame → RuntimeError → Prop} {x : Eval α}
    (h : ∀ host s, ∃ a tags, x.runFrom host s = (.ok a, ⟨tags, s.frames⟩)) : x.Fails E := by
  constructor
  · intro host s
    obtain ⟨a, tags, hr⟩ := h host s
    rw [hr]
  · intro host s e he
    obtain ⟨a, tags, hr⟩ := h host s
    rw [hr] at he
    cases he

theorem Eval.Fails.pure {α : Type} {E : Frame → RuntimeError → Prop} (a : α) :
    (pure a : Eval α).Fails E :=
  .of_ok fun host s => ⟨a, s.tags, Eval.runFrom_pure host s a⟩

theorem RunState.here_congr {s s' : RunState} (h : s'.frames = s.frames) : s'.here = s.here := by
  rw [RunState.here, h, RunState.here]

theorem Eval.Fails.bind {α β : Type} {E : Frame → RuntimeError → Prop} {x : Eval α}
    {f : α → Eval β} (hx : x.Fails E) (hf : ∀ a, (f a).Fails E) : (x >>= f).Fails E := by
  constructor
  · intro host s
    have h := hx.frames host s
    rw [Eval.runFrom_bind]
    rcases hr : x.runFrom host s with ⟨e | a, s'⟩
    · rw [hr] at h
      exact h
    · rw [hr] at h
      exact ((hf a).frames host s').trans h
  · intro host s e he
    have h := hx.frames host s
    rw [Eval.runFrom_bind] at he
    rcases hr : x.runFrom host s with ⟨e' | a, s'⟩
    · rw [hr] at he
      exact hx.error host s e (by rw [hr]; simpa using he)
    · rw [hr] at he h
      exact RunState.here_congr h ▸ (hf a).error host s' e he

/-- In a frame the call being executed is that of the frame. -/
theorem Eval.Fails.inFrame {α : Type} {E : Frame → RuntimeError → Prop} {x : Eval α}
    (hx : x.Fails E) (frame : Frame) : (Eval.inFrame frame x).Fails fun _ e => E frame e := by
  constructor
  · intro host s
    have h := hx.frames host { s with frames := frame :: s.frames }
    simp only [Eval.runFrom_inFrame, h, List.tail_cons]
  · intro host s e he
    rw [Eval.runFrom_inFrame] at he
    exact hx.error host { s with frames := frame :: s.frames } e he

theorem Eval.Fails.errorHere {α : Type} (fault : String → RuntimeFault) :
    (Eval.errorHere fault >>= throw : Eval α).Fails
      fun frame e => e = ⟨fault frame.function, frame.position⟩ := by
  constructor
  · intro host s
    rw [Eval.runFrom_bind_ok (runFrom_errorHere fault host s)]
    rfl
  · intro host s e he
    rw [Eval.runFrom_bind_ok (runFrom_errorHere fault host s)] at he
    exact (Except.error.inj he).symm

/-- The errors that a computation with the powers `p` makes itself, in a call. -/
inductive Powers.OwnError (p : Powers) (missing : Nat → Prop) (frame : Frame) : RuntimeError → Prop
  | refused : p.refuses →
      p.OwnError missing frame ⟨.unsupportedFormat frame.function, frame.position⟩
  | missing {i : Nat} : missing i →
      p.OwnError missing frame ⟨.missingArgument frame.function i, frame.position⟩

/-- A computation fails with an error of its own or with one of an argument. -/
theorem Uses.fails {p : Powers} {missing : Nat → Prop} {arg : Eval String → Prop} {α : Type}
    {x : Eval α} {Q : RuntimeError → Prop} (harg : ∀ v, arg v → v.Fails fun _ e => Q e)
    (h : Uses p missing arg x) :
    x.Fails fun frame e => p.OwnError missing frame e ∨ Q e := by
  induction h with
  | value a => exact .pure a
  | bind _ _ ihx ihf => exact ihx.bind ihf
  | argument h => exact (harg _ h).mono fun _ _ => .inr
  | tags => exact .of_ok fun host s => ⟨_, _, Eval.runFrom_tags host s⟩
  | change _ => exact .of_ok fun host s => ⟨_, _, Eval.runFrom_modifyTags host s _⟩
  | album _ _ _ ih =>
    exact ⟨fun host s => (ih _).frames host s, fun host s e he => (ih _).error host s e he⟩
  | clock _ _ _ ih =>
    exact ⟨fun host s => (ih _).frames host s, fun host s e he => (ih _).error host s e he⟩
  | frame _ => exact .of_ok fun host s => ⟨_, _, Eval.runFrom_currentFrame host s⟩
  | refuse h =>
    refine (Eval.Fails.errorHere _).mono ?_
    rintro frame _ rfl
    exact .inl (.refused h)
  | missing h =>
    refine (Eval.Fails.errorHere _).mono ?_
    rintro frame _ rfl
    exact .inl (.missing h)

end Retag.Script

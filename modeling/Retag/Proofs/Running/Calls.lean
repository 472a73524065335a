import Mathlib.Data.List.Induction
import Retag.Proofs.Grammar.Printing
import Retag.Proofs.Running.Effects
import Retag.Script.Session

/-!
# Calls and trees

What holds of the functions that a tree calls holds of the tree. The calls are those of `callsOf`,
in arguments too, whether or not a run gets to them.
-/

namespace Retag.Script

open Grammar

/-- The values that the arguments of a call stand for. -/
abbrev ValueOf (args : List Argument) (v : Eval String) : Prop := ∃ a ∈ args, v = a.value

/-- Whatever functions there are, a function has no more than the powers `p`, and asks a call with
`n` arguments for one that is missing at most at the places `missing n`. It evaluates nothing but
its own arguments. -/
inductive Implementation.Within (p : Powers) (missing : Nat → Nat → Prop) : Implementation → Prop
  | onValues {run : List Signature → List String → Eval String} :
      (∀ known args, Uses p (missing args.length) (fun _ => False) (run known args)) →
      Within p missing (.onValues run)
  | onArguments {run : List Signature → List Argument → Eval String} :
      (∀ known args, Uses p (missing args.length) (ValueOf args) (run known args)) →
      Within p missing (.onArguments run)

theorem Implementation.Within.mono {p q : Powers} {missing missing' : Nat → Nat → Prop}
    {i : Implementation} (hp : p.Below q) (hm : ∀ n j, missing n j → missing' n j)
    (h : i.Within p missing) : i.Within q missing' := by
  cases h with
  | onValues h => exact .onValues fun known args => (h known args).mono hp (hm _)
  | onArguments h => exact .onArguments fun known args => (h known args).mono hp (hm _)

/-- The function that takes the functions `known` for all that there are. -/
def Implementation.told (known : List Signature) : Implementation → Implementation
  | .onValues run => .eager (run known)
  | .onArguments run => .lazy (run known)

/-- A function does not ask which functions there are. -/
def Implementation.Heedless (i : Implementation) : Prop := ∀ known, i.told known = i

/-- A function makes no changes to the tags but those in `C`. -/
def Implementation.Makes (C : (TagStore → TagStore) → Prop) (i : Implementation) : Prop :=
  ∃ p missing, i.Within p missing ∧ ∀ c, p.changes c → C c

/-! ## Functions and arguments of calls -/

theorem Registry.mem_insert {f g : Function} {fs : List Function} (h : g ∈ insert f fs) :
    g = f ∨ g ∈ fs := by
  induction fs with
  | nil => exact .inl (List.mem_singleton.mp h)
  | cons first rest ih =>
    rw [insert] at h
    split at h
    · exact (List.mem_cons.mp h).imp_right (List.mem_cons_of_mem _)
    · split at h
      · exact List.mem_cons.mp h
      · rcases List.mem_cons.mp h with rfl | h
        · exact .inr (List.mem_cons_self ..)
        · exact (ih h).imp_right (List.mem_cons_of_mem _)

theorem Registry.mem_foldl_register {g : Function} {fs : List Function} {r : Registry}
    (h : g ∈ (fs.foldl register r).functions) : g ∈ fs ∨ g ∈ r.functions := by
  induction fs generalizing r with
  | nil => exact .inr h
  | cons f rest ih =>
    rcases ih h with h | h
    · exact .inl (List.mem_cons_of_mem _ h)
    · rcases mem_insert h with rfl | h
      · exact .inl (List.mem_cons_self ..)
      · exact .inr h

theorem Registry.mem_of_find? {r : Registry} {name : String} {f : Function}
    (h : r.find? name = some f) : f ∈ r.functions ∧ f.name = name :=
  ⟨List.mem_of_find?_eq_some h, by simpa using List.find?_some h⟩

theorem Registry.find?_cons (f : Function) (fs : List Function) (name : String) :
    (f :: fs).find? (·.name == name)
      = if f.name = name then some f else fs.find? (·.name == name) := by
  by_cases hf : f.name = name
  · rw [List.find?_cons, beq_iff_eq.mpr hf, if_pos hf]
  · rw [List.find?_cons, beq_eq_false_iff_ne.mpr hf, if_neg hf]

theorem Registry.find?_insert (f : Function) (fs : List Function) (name : String) :
    (insert f fs).find? (·.name == name)
      = if f.name = name then some f else fs.find? (·.name == name) := by
  induction fs with
  | nil => exact find?_cons f [] name
  | cons g rest ih =>
    rw [insert]
    split
    · next hg =>
      rw [find?_cons, find?_cons, ← hg]
      split <;> rfl
    · next hg =>
      split
      · exact find?_cons f _ name
      · rw [find?_cons, ih, find?_cons]
        by_cases hf : f.name = name
        · rw [if_neg (hf ▸ Ne.symm hg), if_pos hf, if_pos hf]
        · rw [if_neg hf, if_neg hf]

/-- Of the functions with one name the last counts. -/
theorem Registry.find?_ofList (fs : List Function) (name : String) :
    (ofList fs).find? name = fs.reverse.find? (·.name == name) := by
  induction fs using List.reverseRecOn with
  | nil => rfl
  | append_singleton init f ih =>
    rw [ofList, List.foldl_append, List.reverse_concat, find?_cons, ← ih]
    exact find?_insert f _ name

theorem Registry.pairwise_insert {f : Function} {fs : List Function}
    (h : fs.Pairwise (·.name < ·.name)) : (insert f fs).Pairwise (·.name < ·.name) := by
  induction fs with
  | nil => exact List.pairwise_singleton _ f
  | cons g rest ih =>
    obtain ⟨hg, hrest⟩ := List.pairwise_cons.mp h
    rw [insert]
    split
    · next hf => exact List.pairwise_cons.mpr ⟨hf ▸ hg, hrest⟩
    · next hne =>
      split
      · next hlt =>
        refine List.pairwise_cons.mpr ⟨fun k hk => ?_, h⟩
        rcases List.mem_cons.mp hk with rfl | hk
        · exact hlt
        · exact String.lt_trans hlt (hg k hk)
      · next hge =>
        refine List.pairwise_cons.mpr ⟨fun k hk => ?_, ih hrest⟩
        rcases mem_insert hk with rfl | hk
        · exact Std.lt_of_le_of_ne (String.not_lt.mp hge) (Ne.symm hne)
        · exact hg k hk

/-- The functions of a registry are in the order of their names, which are distinct. -/
theorem Registry.pairwise_ofList (fs : List Function) :
    (ofList fs).functions.Pairwise (·.name < ·.name) := by
  induction fs using List.reverseRecOn with
  | nil => exact .nil
  | append_singleton init f ih =>
    rw [ofList, List.foldl_append]
    exact pairwise_insert ih

theorem argumentsOf_eq (r : Registry) (args : List Tree) :
    argumentsOf r args = args.map fun t => ⟨t, evalTree r t⟩ := by
  induction args with
  | nil => rfl
  | cons t rest ih => rw [argumentsOf, ih, List.map_cons]

/-- Registries that carry out every call in a tree alike evaluate the tree alike. -/
theorem evalTree_congr {r r' : Registry} (t : Tree)
    (h : ∀ call ∈ callsOf t, ∀ args, r'.call call.1 args call.2 = r.call call.1 args call.2) :
    evalTree r' t = evalTree r t := by
  refine Tree.inductCalls (P := fun t => evalTree r' t = evalTree r t) ?nil ?text ?tag ?call t h
  case nil => rw [evalTree, evalTree]
  case text => exact fun content rest ih => by rw [evalTree, evalTree, Node.eval, Node.eval, ih]
  case tag => exact fun name rest ih => by rw [evalTree, evalTree, Node.eval, Node.eval, ih]
  case call =>
    intro name args position rest hcall iha ih
    have hargs : argumentsOf r' args = argumentsOf r args := by
      rw [argumentsOf_eq, argumentsOf_eq]
      refine List.map_congr_left fun t ht => ?_
      rw [iha t ht]
    rw [evalTree, evalTree, Node.eval, Node.eval, ih, hargs, hcall]

theorem runFrom_tagValue (name : String) (host : Host) (s : RunState) :
    (Eval.tagValue name).runFrom host s = (.ok (s.tags.get (internalName name)), s) := by
  rw [Eval.tagValue, Eval.runFrom_bind_ok (Eval.runFrom_tags host s), Eval.runFrom_pure]

/-! ## Calls of functions that do not ask which there are -/

/-- A call of a heedless function is the same where there are other functions besides. -/
theorem Registry.call_heedless {r r' : Registry} {name : String} {f f' : Function}
    (hf : r.find? name = some f) (hf' : r'.find? name = some f')
    (hsame : f'.implementation = f.implementation) (harity : f'.arity = f.arity)
    (h : f.implementation.Heedless) (args : List Argument) (position : Position) :
    r'.call name args position = r.call name args position := by
  obtain ⟨fname, implementation, arity, doc⟩ := f
  have htold := (h r'.signatures).trans (h r.signatures).symm
  simp only [Registry.call, hf, hf', hsame, harity]
  cases implementation with
  | onValues run =>
    have hrun : run r'.signatures = run r.signatures :=
      congrFun (Implementation.onValues.inj htold) []
    dsimp only
    rw [hrun]
  | onArguments run =>
    have hrun : run r'.signatures = run r.signatures :=
      congrFun (Implementation.onArguments.inj htold) []
    dsimp only
    rw [hrun]

theorem Registry.call_congr {r r' : Registry} {name : String} (hfind : r'.find? name = r.find? name)
    (h : ∀ f, r.find? name = some f → f.implementation.Heedless) (args : List Argument)
    (position : Position) : r'.call name args position = r.call name args position := by
  rcases hf : r.find? name with _ | f
  · rw [Registry.call, Registry.call, hfind, hf]
  · exact call_heedless hf (hfind.trans hf) rfl rfl (h f hf) args position

/-! ## What holds of every call -/

section Composable

variable {P : ∀ {α : Type}, Eval α → Prop} (hP : Eval.Composable P)

include hP

theorem Eval.Composable.valuesOf {args : List Argument} (h : ∀ a ∈ args, P a.value) :
    P (Argument.valuesOf args) := by
  induction args with
  | nil => exact hP.quiet (.value [])
  | cons a rest ih =>
    refine hP.bind (h a (List.mem_cons_self ..)) fun v => ?_
    refine hP.bind (ih fun b hb => h b (List.mem_cons_of_mem _ hb)) fun vs => ?_
    exact hP.quiet (.value _)

/-- It holds of a call if it holds of the changes that the called function makes. -/
theorem Eval.Composable.call {r : Registry} {name : String}
    (hf : ∀ f, r.find? name = some f → f.implementation.Makes fun c => P (Eval.modifyTags c))
    {args : List Argument} (hargs : ∀ a ∈ args, P a.value) (position : Position) :
    P (r.call name args position) := by
  rw [Registry.call]
  rcases hr : r.find? name with _ | ⟨fname, implementation, arity, doc⟩
  · exact hP.quiet (.error _)
  · obtain ⟨p, missing, hw, hc⟩ := hf _ hr
    dsimp only at hw ⊢
    split
    · cases hw with
      | onValues hw =>
        refine hP.bind (hP.valuesOf hargs) fun values => hP.inFrame _ ?_
        exact (hw r.signatures values).holds hP hc nofun
      | onArguments hw =>
        refine hP.inFrame _ ((hw r.signatures args).holds hP hc ?_)
        rintro v ⟨a, ha, rfl⟩
        exact hargs a ha
    · exact hP.quiet (.error _)

/-- It holds of a tree if it holds of all changes that the called functions make. -/
theorem Eval.Composable.evalTree {r : Registry} (t : Tree)
    (h : ∀ call ∈ callsOf t, ∀ f, r.find? call.1 = some f →
      f.implementation.Makes fun c => P (Eval.modifyTags c)) : P (evalTree r t) := by
  have cons {n : Node} {rest : Tree} (hn : P (n.eval r)) (hrest : P (Script.evalTree r rest)) :
      P (Script.evalTree r (n :: rest)) := by
    rw [Script.evalTree]
    exact hP.bind hn fun first => hP.bind hrest fun others => hP.quiet (.value _)
  refine Tree.inductCalls (P := fun t => P (Script.evalTree r t)) ?nil ?text ?tag ?call t h
  case nil => exact evalTree.eq_1 r ▸ hP.quiet (.value "")
  case text =>
    refine fun content rest ih => cons ?_ ih
    exact Node.eval.eq_1 r content ▸ hP.quiet (.value content)
  case tag =>
    refine fun name rest ih => cons ?_ ih
    rw [Node.eval]
    exact hP.bind (hP.quiet .tags) fun _ => hP.quiet (.value _)
  case call =>
    refine fun name args position rest hcall iha ih => cons ?_ ih
    rw [Node.eval, argumentsOf_eq]
    refine hP.call hcall ?_ position
    intro a ha
    obtain ⟨t, ht, rfl⟩ := List.mem_map.mp ha
    exact iha t ht

end Composable

/-! ## The tags -/

/-- The changes that a function may make are changes that `R` allows. -/
def Implementation.Changes (R : TagStore → TagStore → Prop) (i : Implementation) : Prop :=
  ∃ p missing, i.Within p missing ∧ ∀ c, p.changes c → ∀ s, R s (c s)

/-- If every call in a tree only makes changes that `R` allows, so does every run of the tree. -/
theorem keeps_evalTree {R : TagStore → TagStore → Prop} (hrefl : ∀ s, R s s)
    (htrans : ∀ s₁ s₂ s₃, R s₁ s₂ → R s₂ s₃ → R s₁ s₃) {r : Registry} (t : Tree)
    (h : ∀ call ∈ callsOf t, ∀ f, r.find? call.1 = some f → f.implementation.Changes R) :
    (evalTree r t).Keeps R := by
  refine (Eval.Keeps.composable hrefl htrans).evalTree t fun call hcall f hf => ?_
  obtain ⟨p, missing, hw, hc⟩ := h call hcall f hf
  exact ⟨p, missing, hw, fun c hpc => .modifyTags (hc c hpc)⟩

theorem Session.registry_parse (s : Session) (source : String) :
    (s.parse source).2.registry = s.registry := by
  unfold Session.parse
  split
  · rfl
  · split <;> rfl

/-- A session runs trees that it kept or reads, and leaves the tags alone if there is no tree. -/
theorem Session.keeps_run {R : TagStore → TagStore → Prop} (hrefl : ∀ s, R s s) {s : Session}
    (h : ∀ t, (evalTree s.registry t).Keeps R) (source : String) (tags : TagStore) (host : Host) :
    R tags (s.run source tags host).2.1 := by
  have hregistry := s.registry_parse source
  rw [Session.run]
  rcases hp : s.parse source with ⟨e | stamped, s'⟩
  · exact hrefl tags
  · rw [hp] at hregistry
    have hkeeps := h stamped.tree host ⟨tags, []⟩
    rw [← hregistry] at hkeeps
    dsimp only at hkeeps ⊢
    rcases hrun : (evalTree s'.registry stamped.tree).runFrom host ⟨tags, []⟩ with
      ⟨e | value, after⟩
    · rw [hrun] at hkeeps
      exact hkeeps
    · rw [hrun] at hkeeps
      exact hkeeps

/-! ## The errors -/

/-- The errors that a function makes itself when it is called with an argument count that it
accepts, in the call `frame`, are among `Q`. -/
def Function.Raises (Q : RuntimeError → Prop) (frame : Frame) (f : Function) : Prop :=
  ∃ p missing, f.implementation.Within p missing ∧
    ∀ n, f.arity.accepts n → ∀ e, p.OwnError (missing n) frame e → Q e

theorem Function.Raises.mono {P Q : RuntimeError → Prop} {frame : Frame} {f : Function}
    (h : f.Raises P frame) (hPQ : ∀ e, P e → Q e) : f.Raises Q frame := by
  obtain ⟨p, missing, hw, hown⟩ := h
  exact ⟨p, missing, hw, fun n hn e he => hPQ e (hown n hn e he)⟩

/-- When a function is called in the call `frame`, with an argument count that it accepts, errors
outside `Q` only come from its arguments. -/
def Function.Confines (Q : RuntimeError → Prop) (frame : Frame) (f : Function) : Prop :=
  match f.implementation with
  | .onValues run => ∀ known values, f.arity.accepts values.length = true →
      (run known values).Fails fun here e => here = frame → Q e
  | .onArguments run => ∀ known args, f.arity.accepts args.length = true →
      (∀ a ∈ args, a.value.Fails fun _ e => Q e) →
      (run known args).Fails fun here e => here = frame → Q e

theorem Function.Raises.confines {Q : RuntimeError → Prop} {frame : Frame} {f : Function}
    (h : f.Raises Q frame) : f.Confines Q frame := by
  obtain ⟨fname, implementation, arity, doc⟩ := f
  obtain ⟨p, missing, hw, hown⟩ := h
  cases hw with
  | onValues hw =>
    refine fun known values hn => ((hw known values).fails (Q := Q) nofun).mono ?_
    rintro here e he rfl
    exact he.elim (hown _ hn e) id
  | onArguments hw =>
    refine fun known args hn hargs => ((hw known args).fails (Q := Q) ?_).mono ?_
    · rintro v ⟨a, ha, rfl⟩
      exact hargs a ha
    · rintro here e he rfl
      exact he.elim (hown _ hn e) id

/-- What goes on after the arguments is given as many values as there are arguments. -/
theorem Argument.fails_valuesOf {α : Type} {E : Frame → RuntimeError → Prop} {args : List Argument}
    (h : ∀ a ∈ args, a.value.Fails E) {f : List String → Eval α}
    (hf : ∀ values, values.length = args.length → (f values).Fails E) :
    (valuesOf args >>= f).Fails E := by
  induction args generalizing f with
  | nil =>
    rw [valuesOf, pure_bind]
    exact hf [] rfl
  | cons a rest ih =>
    simp only [valuesOf, bind_assoc, pure_bind]
    refine (h a (List.mem_cons_self ..)).bind fun v => ?_
    refine ih (fun b hb => h b (List.mem_cons_of_mem _ hb)) fun values hl => ?_
    exact hf (v :: values) (by rw [List.length_cons, hl, List.length_cons])

theorem Registry.fails_call {Q : RuntimeError → Prop} {r : Registry} {f : Function} {name : String}
    (hr : r.find? name = some f) {args : List Argument} (hn : f.arity.accepts args.length = true)
    {position : Position} (hf : f.Confines Q ⟨name, position⟩)
    (hargs : ∀ a ∈ args, a.value.Fails fun _ e => Q e) :
    (r.call name args position).Fails fun _ e => Q e := by
  obtain ⟨fname, implementation, arity, doc⟩ := f
  dsimp only at hn
  simp only [Registry.call, hr, hn, if_true]
  cases implementation with
  | onValues run =>
    refine Argument.fails_valuesOf hargs fun values hl => ?_
    exact ((hf r.signatures values (hl ▸ hn)).inFrame _).mono fun _ e he => he rfl
  | onArguments run =>
    exact ((hf r.signatures args hn hargs).inFrame _).mono fun _ e he => he rfl

/-- A tree that was read with a registry calls functions that are there with argument counts that
they accept, so a run of it with the same registry can only fail with an error that a called
function is the source of. -/
theorem fails_evalTree_of_confines {Q : RuntimeError → Prop} {r : Registry} {depth : Nat} {t : Tree}
    (ht : Canonical r.arity? depth t)
    (h : ∀ call ∈ callsOf t, ∀ f, r.find? call.1 = some f → f.Confines Q ⟨call.1, call.2⟩) :
    (evalTree r t).Fails fun _ e => Q e := by
  have cons {n : Node} {rest : Tree} (hn : (n.eval r).Fails fun _ e => Q e)
      (hrest : (evalTree r rest).Fails fun _ e => Q e) :
      (evalTree r (n :: rest)).Fails fun _ e => Q e := by
    rw [evalTree]
    exact hn.bind fun first => hrest.bind fun others => .pure _
  induction ht with
  | nil => exact evalTree.eq_1 r ▸ .pure ""
  | @text _ content rest _ _ _ ih =>
    refine cons ?_ (ih fun call hc => h call (by simpa [callsOf, Node.calls] using hc))
    exact Node.eval.eq_1 r content ▸ .pure content
  | @tag _ name rest _ _ ih =>
    refine cons ?_ (ih fun call hc => h call (by simpa [callsOf, Node.calls] using hc))
    rw [Node.eval]
    exact .of_ok fun host s => ⟨_, _, runFrom_tagValue name host s⟩
  | @call _ name arity args position rest _ ha _ hn _ _ _ iha ih =>
    simp only [callsOf, Node.calls, List.cons_append, List.mem_cons, List.mem_append,
      mem_callsOfAll] at h
    obtain ⟨f, hr, rfl⟩ := Option.map_eq_some_iff.mp ha
    refine cons ?_ (ih fun call hc => h call (.inr (.inr hc)))
    rw [Node.eval, argumentsOf_eq]
    refine Registry.fails_call hr (by rwa [List.length_map]) (h (name, position) (.inl rfl) f hr) ?_
    intro a hm
    obtain ⟨t, ht, rfl⟩ := List.mem_map.mp hm
    exact iha t ht fun call hc => h call (.inr (.inl ⟨t, ht, hc⟩))

/-- With functions that evaluate nothing but their arguments, it is an error that one makes itself. -/
theorem fails_evalTree {Q : RuntimeError → Prop} {r : Registry} {depth : Nat} {t : Tree}
    (ht : Canonical r.arity? depth t)
    (h : ∀ call ∈ callsOf t, ∀ f, r.find? call.1 = some f → f.Raises Q ⟨call.1, call.2⟩) :
    (evalTree r t).Fails fun _ e => Q e :=
  fails_evalTree_of_confines ht fun call hc f hf => (h call hc f hf).confines

end Retag.Script

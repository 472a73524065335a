import Retag.Proofs.Running.Loops
import Retag.Proofs.Running.Safety

/-!
# The tags of loops behind a run

A loop that ends with a value removes its tags. One that is stopped by an error in a round does not,
and only `datetime` fails, so a run leaves tags of loops only if the script writes to them itself or
if a `datetime` refuses its format in an argument that a loop evaluates again and again.

Whether a script writes to the tags itself is asked of its run: a watched function stops it as soon
as one of its calls changes what is found under them.
-/

namespace Retag.Library

open Script Grammar

/-! ## Watched functions -/

/-- What is found under the tags of loops. -/
def loopValues (tags : TagStore) : Option (List String) × Option (List String) :=
  (tags.values? (internalName loopCount), tags.values? (internalName loopValue))

/-- Stops with the error `stop` behind what changes the tags of loops. -/
def watched {α : Type} (stop : RuntimeError) (act : Eval α) : Eval α := fun host => ExceptT.mk do
  let before ← get
  let result ← (act.run host).run
  let behind ← get
  return if loopValues behind.tags = loopValues before.tags then result else .error stop

/-- A function of texts that stops behind a change to the tags of loops. Functions that evaluate
their arguments themselves are left as they are. -/
def watchedFunction (stop : RuntimeError) (f : Function) : Function :=
  { f with implementation := match f.implementation with
      | .onValues run => .onValues fun known values => watched stop (run known values)
      | .onArguments run => .onArguments run }

def watchedRegistry (stop : RuntimeError) (r : Registry) : Registry :=
  ⟨r.functions.map (watchedFunction stop)⟩

/-- No function of texts that a run of the script calls changes the tags of loops: it makes no
difference if the run is stopped there, with whatever error. -/
def LeavesLoopTags (source : String) (tags : TagStore) (host : Host) : Prop :=
  ∀ stop, runAfresh (watchedRegistry stop standard) source tags host
    = runAfresh standard source tags host

variable {stop : RuntimeError} {α : Type}

theorem runFrom_watched (act : Eval α) (host : Host) (s : RunState) :
    (watched stop act).runFrom host s =
      let run := act.runFrom host s
      (if loopValues run.2.tags = loopValues s.tags then run.1 else .error stop, run.2) := rfl

theorem find?_watchedRegistry (r : Registry) (name : String) :
    (watchedRegistry stop r).find? name = (r.find? name).map (watchedFunction stop) := by
  rw [Registry.find?, watchedRegistry, List.find?_map]
  rfl

theorem signatures_watchedRegistry (r : Registry) :
    (watchedRegistry stop r).signatures = r.signatures := by
  rw [Registry.signatures, Registry.signatures, watchedRegistry, List.map_map]
  refine List.map_congr_left fun f _ => ?_
  obtain ⟨name, implementation, arity, doc⟩ := f
  cases implementation <;> rfl

theorem arity?_watchedRegistry (r : Registry) : (watchedRegistry stop r).arity? = r.arity? := by
  funext name
  rw [Registry.arity?, find?_watchedRegistry, Option.map_map]
  rfl

theorem withoutLoopTags_congr {tags tags' : TagStore} (h : loopValues tags' = loopValues tags)
    (ht : WithoutLoopTags tags) : WithoutLoopTags tags' := by
  obtain ⟨hcount, hvalue⟩ := Prod.mk.inj h
  constructor
  · rw [TagStore.contains, hcount]
    exact ht.count
  · rw [TagStore.contains, hvalue]
    exact ht.value

/-- Where there are no tags of loops, none are left behind, but perhaps by an error of `Q`. -/
abbrev Tidy (Q : RuntimeError → Prop) (x : Eval α) : Prop :=
  x.Ensures WithoutLoopTags WithoutLoopTags fun e t => WithoutLoopTags t ∨ Q e

/-- Whatever is watched leaves no tags of loops, or is stopped. -/
theorem tidy_watched {Q : RuntimeError → Prop} (hstop : Q stop) (act : Eval α) :
    Tidy Q (watched stop act) := by
  intro host s hs
  rw [runFrom_watched]
  by_cases hsame : loopValues (act.runFrom host s).2.tags = loopValues s.tags
  · have hbehind := withoutLoopTags_congr hsame hs
    dsimp only
    rw [if_pos hsame]
    cases (act.runFrom host s).1 with
    | ok a => exact hbehind
    | error e => exact .inl hbehind
  · dsimp only
    rw [if_neg hsame]
    exact .inr hstop

theorem watched_fails {E : Frame → RuntimeError → Prop} {act : Eval α} (h : act.Fails E) :
    (watched stop act).Fails fun here e => E here e ∨ e = stop := by
  constructor
  · intro host s
    rw [runFrom_watched]
    exact h.frames host s
  · intro host s e he
    rw [runFrom_watched] at he
    dsimp only at he
    split at he
    · exact .inl (h.error host s e he)
    · exact .inr (Except.error.inj he).symm

theorem confines_watchedFunction {Q : RuntimeError → Prop} (hstop : Q stop) {frame : Frame}
    {f : Function} (h : f.Confines Q frame) : (watchedFunction stop f).Confines Q frame := by
  obtain ⟨name, implementation, arity, doc⟩ := f
  cases implementation with
  | onValues run =>
    refine fun known values hn => (watched_fails (h known values hn)).mono fun here e he hhere => ?_
    rcases he with he | rfl
    · exact he hhere
    · exact hstop
  | onArguments run => exact h

/-! ## What the other functions do to the tags -/

/-- The functions of texts that change tags. -/
def writers : List String :=
  ["set", "unset", "delete", "copy", "copymerge", "setmulti", "cleanmulti"]

theorem name_of_change {function : String} {c : TagStore → TagStore} (h : Change function c) :
    function ∈ writers ∨ function ∈ ["foreach", "while", "map"] := by
  cases h with
  | startRound _ hl _ => exact .inr hl
  | endLoop hl _ => exact .inr hl
  | _ => exact .inl (by decide)

theorem isEager_of_writer {f : Function} (hf : f ∈ standard.functions) (h : f.name ∈ writers) :
    f.implementation.isEager = true := by
  have hall : allFunctions.all (fun f => f.implementation.isEager || f.name ∉ writers) = true := rfl
  have hmem : f ∈ allFunctions := (Registry.mem_foldl_register hf).resolve_right List.not_mem_nil
  have hone := List.all_eq_true.mp hall f hmem
  simpa [h] using hone

/-! ## Calls that are made once a round -/

/-- A call in an argument that a loop of the tree evaluates once a round. -/
inductive InLoop (call : String × Position) : Tree → Prop
  | repeated {name : String} {args : List Tree} {position : Position} {rest a : Tree} {i : Nat} :
      i ∈ repeatedPlaces name → args[i]? = some a → call ∈ callsOf a →
      InLoop call (.call name args position :: rest)
  | argument {name : String} {args : List Tree} {position : Position} {rest a : Tree} :
      a ∈ args → InLoop call a → InLoop call (.call name args position :: rest)
  | rest {n : Node} {rest : Tree} : InLoop call rest → InLoop call (n :: rest)

theorem InLoop.mem_callsOf {call : String × Position} {t : Tree} (h : InLoop call t) :
    call ∈ callsOf t := by
  have argument {name : String} {args : List Tree} {position : Position} {rest a : Tree}
      (ha : a ∈ args) (hc : call ∈ callsOf a) :
      call ∈ callsOf (.call name args position :: rest) := by
    rw [callsOf, Node.calls]
    have hmem := mem_callsOfAll.mpr ⟨a, ha, hc⟩
    exact List.mem_append_left _ (List.mem_cons_of_mem _ hmem)
  induction h with
  | repeated _ hi hc => exact argument (List.mem_of_getElem? hi) hc
  | argument ha _ ih => exact argument ha ih
  | rest _ ih =>
    rw [callsOf]
    exact List.mem_append_right _ ih

section Evaluation

variable {Q : RuntimeError → Prop} (hstop : Q stop)

include hstop

/-- What is left behind a call, if errors outside `Q` only come from what a loop repeats. -/
theorem tidy_call {name : String} {f : Function} (hf : standard.find? name = some f)
    {args : List Argument} (hn : f.arity.accepts args.length = true)
    (hargs : ∀ a ∈ args, Tidy Q a.value)
    (hcode : ∀ i ∈ repeatedPlaces name, ∀ a, args[i]? = some a → a.value.Fails fun _ e => Q e)
    (position : Position) :
    Tidy Q ((watchedRegistry stop standard).call name args position) := by
  rw [Registry.call, find?_watchedRegistry, hf]
  have hmissing : ∀ e t, WithoutLoopTags t → WithoutLoopTags t ∨ Q e := fun _ _ => .inl
  by_cases hloop : name ∈ ["foreach", "while", "map"]
  · obtain ⟨run, arity, doc, hf', hl⟩ := find?_loop hloop
    obtain rfl := Option.some.inj (hf.symm.trans hf')
    have hrepeated : ∀ i ∈ repeatedPlaces name, ∀ a, args[i]? = some a →
        a.value.Ensures (fun _ => True) (fun _ => True) fun e t => WithoutLoopTags t ∨ Q e :=
      fun i hi a ha => (Eval.Ensures.of_fails (hcode i hi a ha)).mono (fun _ => id) (fun _ => id)
        fun _ _ => .inr
    dsimp only [Option.map_some, watchedFunction]
    rw [if_pos hn]
    exact (loop_ensures hl hmissing hargs hrepeated fun _ _ _ => id).inFrame _
  · obtain ⟨hmem, rfl⟩ := Registry.mem_of_find? hf
    have habide := standard_abide hmem
    have heager := isEager_of_writer hmem
    obtain ⟨fname, implementation, arity, doc⟩ := f
    dsimp only [Option.map_some, watchedFunction] at hn hloop heager ⊢
    rw [if_pos hn]
    cases habide with
    | onValues _ =>
      refine (Eval.Ensures.valuesOf hargs).bind fun values => ?_
      exact (tidy_watched hstop _).inFrame _
    | onArguments hw =>
      -- The other functions that evaluate their arguments themselves change no tags.
      have hkeeps : ∀ c, ¬ (powersOf fname).changes c := fun c hc =>
        (name_of_change hc).elim (fun h => by cases heager h) hloop
      refine ((hw _ args).ensures hkeeps hmissing ?_).inFrame _
      rintro v ⟨a, ha, rfl⟩
      exact hargs a ha

/-- A watched run ends in no error but those of `Q`, if `Q` has the errors of every `datetime`. -/
theorem evalTree_fails {depth : Nat} {t : Tree} (ht : Canonical standard.arity? depth t)
    (h : ∀ position, ("datetime", position) ∈ callsOf t →
      Q ⟨.unsupportedFormat "datetime", position⟩) :
    (evalTree (watchedRegistry stop standard) t).Fails fun _ e => Q e := by
  have harity : (watchedRegistry stop standard).arity? = standard.arity? :=
    arity?_watchedRegistry standard
  rw [← harity] at ht
  refine fails_evalTree_of_confines ht ?_
  rintro ⟨name, position⟩ hcall g hg
  rw [find?_watchedRegistry] at hg
  obtain ⟨f, hf, rfl⟩ := Option.map_eq_some_iff.mp hg
  obtain ⟨hmem, rfl⟩ := Registry.mem_of_find? hf
  have hraises := (Function.raises_of_standard hmem position).mono (Q := Q) ?_
  · exact confines_watchedFunction hstop hraises.confines
  · rintro e ⟨hname, rfl⟩
    exact h position (hname ▸ hcall)

/-- A run from tags without those of loops leaves none, or ends in an error of `Q`, if `Q` has the
errors of every `datetime` that a loop repeats. -/
theorem tidy_evalTree {depth : Nat} {t : Tree} (ht : Canonical standard.arity? depth t)
    (h : ∀ position, InLoop ("datetime", position) t →
      Q ⟨.unsupportedFormat "datetime", position⟩) :
    Tidy Q (evalTree (watchedRegistry stop standard) t) := by
  -- Only calls look at the registry; as a variable it is not unfolded before.
  generalize hr : watchedRegistry stop standard = r
  have cons {n : Node} {rest : Tree} (hn : Tidy Q (n.eval r)) (hrest : Tidy Q (evalTree r rest)) :
      Tidy Q (evalTree r (n :: rest)) := by
    rw [evalTree]
    exact hn.bind fun first => hrest.bind fun others => .pure _
  induction ht with
  | nil =>
    rw [evalTree]
    exact .pure ""
  | @text _ content rest _ _ _ ih =>
    refine cons ?_ (ih fun position hp => h position (.rest hp))
    rw [Node.eval]
    exact .pure content
  | @tag _ name rest _ _ ih =>
    refine cons ?_ (ih fun position hp => h position (.rest hp))
    rw [Node.eval]
    exact .of_same fun host s => ⟨_, runFrom_tagValue name host s⟩
  | @call depth name arity args position rest _ ha _ hn _ hargs _ iha ih =>
    refine cons ?_ (ih fun position hp => h position (.rest hp))
    obtain ⟨f, hf, rfl⟩ := Option.map_eq_some_iff.mp ha
    subst hr
    rw [Node.eval, argumentsOf_eq]
    refine tidy_call hstop hf (by rwa [List.length_map]) ?_ ?_ position
    · intro a hm
      obtain ⟨t, ht, rfl⟩ := List.mem_map.mp hm
      exact iha t ht fun position hp => h position (.argument ht hp)
    · intro i hi a hm
      obtain ⟨t, ht, rfl⟩ := Option.map_eq_some_iff.mp (List.getElem?_map .. ▸ hm)
      refine evalTree_fails hstop (hargs t (List.mem_of_getElem? ht)) fun position' hcall => ?_
      exact h position' (.repeated hi ht hcall)

end Evaluation

/-! ## Scripts without writers -/

theorem watched_eq {act : Eval α} (h : act.Keeps fun before behind => behind = before) :
    watched stop act = act := by
  refine Eval.ext fun host s => ?_
  rw [runFrom_watched]
  dsimp only
  rw [h host s, if_pos rfl]

/-- Watching makes no difference to a function of the library that is not a writer. -/
theorem watchedFunction_eq {f : Function} (hf : standard.find? f.name = some f)
    (hname : f.name ∉ writers) : watchedFunction stop f = f := by
  have habide := standard_abide (Registry.mem_of_find? hf).1
  obtain ⟨name, implementation, arity, doc⟩ := f
  cases habide with
  | onArguments _ => rfl
  | @onValues run hw =>
    have hkeeps : ∀ c, ¬ (powersOf name).changes c := by
      intro c hc
      obtain ⟨_, _, _, hf', -⟩ := find?_loop ((name_of_change hc).resolve_left hname)
      cases hf.symm.trans hf'
    have hrun (known : List Signature) (values : List String) :
        watched stop (run known values) = run known values := by
      have hcomposable := Eval.Keeps.composable (R := fun before behind => behind = before)
        (fun _ => rfl) fun _ _ _ h₁ h₂ => h₂.trans h₁
      refine watched_eq ((hw known values).holds hcomposable ?_ nofun)
      exact fun c hc => absurd hc (hkeeps c)
    have hsame := funext fun known => funext fun values => hrun known values
    exact congrArg (fun run => Function.mk name (.onValues run) arity doc) hsame

theorem call_watched {name : String} (hname : name ∉ writers) (args : List Argument)
    (position : Position) :
    (watchedRegistry stop standard).call name args position
      = standard.call name args position := by
  have hfind : (watchedRegistry stop standard).find? name = standard.find? name := by
    rw [find?_watchedRegistry]
    rcases hf : standard.find? name with _ | f
    · rfl
    · obtain ⟨-, rfl⟩ := Registry.mem_of_find? hf
      rw [Option.map_some, watchedFunction_eq hf hname]
  rw [Registry.call, Registry.call, hfind, signatures_watchedRegistry]

theorem evalTree_watched (t : Tree) (h : ∀ call ∈ callsOf t, call.1 ∉ writers) :
    evalTree (watchedRegistry stop standard) t = evalTree standard t :=
  evalTree_congr t fun call hc args => call_watched (h call hc) args call.2

/-- A script that calls no writer does not write to the tags of loops. -/
theorem leavesLoopTags_of_calls {source : String} {tree : Tree}
    (hparse : parse standard.arity? source = .ok tree)
    (h : ∀ call ∈ callsOf tree, call.1 ∉ writers) (tags : TagStore) (host : Host) :
    LeavesLoopTags source tags host := by
  intro stop
  have hwatched : parse (watchedRegistry stop standard).arity? source = .ok tree := by
    rw [arity?_watchedRegistry, hparse]
  rw [runAfresh_of_ok hwatched, runAfresh_of_ok hparse, evalTree_watched tree h]

/-! ## Whole runs -/

/-- There is always an error that a run did not end with. -/
theorem exists_other_error (result : Except ScriptError String) :
    ∃ stop, result ≠ .error (.runtime stop) := by
  rcases result with (e | e) | value
  · exact ⟨⟨.unknownFunction "", .start⟩, nofun⟩
  · refine ⟨⟨e.fault, { e.position with offset := e.position.offset + 1 }⟩, fun he => ?_⟩
    have hoffset := congrArg (·.position.offset) (ScriptError.runtime.inj (Except.error.inj he))
    exact absurd hoffset (Nat.ne_of_lt (Nat.lt_succ_self _))
  · exact ⟨⟨.unknownFunction "", .start⟩, nofun⟩

theorem runAfresh_leaves {source : String} {tags : TagStore} {host : Host}
    (htags : WithoutLoopTags tags) (hleaves : LeavesLoopTags source tags host) :
    WithoutLoopTags (runAfresh standard source tags host).2 ∨
      ∃ tree position, parse standard.arity? source = .ok tree ∧
        InLoop ("datetime", position) tree ∧ (runAfresh standard source tags host).1
          = .error (.runtime ⟨.unsupportedFormat "datetime", position⟩) := by
  rcases hparse : parse standard.arity? source with e | tree
  · rw [runAfresh, hparse]
    exact .inl htags
  -- Watched with an error that the run does not end with, the run is the same and never stopped.
  obtain ⟨stop, hstop⟩ := exists_other_error (runAfresh standard source tags host).1
  have hwatched : parse (watchedRegistry stop standard).arity? source = .ok tree := by
    rw [arity?_watchedRegistry, hparse]
  have htidy : Tidy (fun e => e = stop ∨ ∃ position, InLoop ("datetime", position) tree ∧
      e = ⟨.unsupportedFormat "datetime", position⟩)
      (evalTree (watchedRegistry stop standard) tree) :=
    tidy_evalTree (.inl rfl) (canonical_of_parse hparse) fun position h => .inr ⟨position, h, rfl⟩
  have hbehind := htidy host ⟨tags, []⟩ htags
  rw [← hleaves stop, runAfresh_of_ok hwatched] at hstop ⊢
  rcases hrun : (evalTree (watchedRegistry stop standard) tree).runFrom host ⟨tags, []⟩ with
    ⟨e | value, behind⟩
  · rw [hrun] at hstop hbehind
    rcases hbehind with h | rfl | ⟨position, hloop, rfl⟩
    · exact .inl h
    · exact absurd rfl hstop
    · exact .inr ⟨tree, position, rfl, hloop, rfl⟩
  · rw [hrun] at hbehind
    exact .inl hbehind

/-- A script that does not write to the tags of loops, run on tags without them, in a session over
the standard library that was asked for anything before: whether the run ends with a value or with
an error, they are absent again, unless a `datetime` refused its format in the code of a loop or in
the condition of a `while`. -/
theorem loop_tags_gone (requests : List Request) (source : String) (tags : TagStore) (host : Host)
    (htags : WithoutLoopTags tags) (hleaves : LeavesLoopTags source tags host) :
    let session := (Session.performAll { registry := standard } requests).2
    let run := session.run source tags host
    WithoutLoopTags run.2.1 ∨
      ∃ tree position, parse standard.arity? source = .ok tree ∧
        InLoop ("datetime", position) tree ∧
        run.1 = .error (.runtime ⟨.unsupportedFormat "datetime", position⟩) := by
  intro session run
  have hsound : session.Sound := (Session.sound_fresh _).performAll requests
  have hregistry : session.registry = standard := Session.registry_performAll _ requests
  have hrun := hsound.run_eq source tags host
  rw [hregistry] at hrun
  rw [show run = _ from hrun]
  exact runAfresh_leaves htags hleaves

/-- Two rounds of a loop that only reads its tags. -/
theorem loop_tags_gone_upper :
    let source := "$foreach(a; b,$upper(%_loop_value%))"
    let host : Host := ⟨none, ⟨⟨2024, 5, 6⟩, ⟨7, 8, 9, 0⟩, 0⟩⟩
    let session : Session := { registry := standard }
    WithoutLoopTags .empty ∧ LeavesLoopTags source .empty host ∧
    WithoutLoopTags (session.run source .empty host).2.1 := by
  intro source host session
  have htree : parse standard.arity? "$foreach(a; b,$upper(%_loop_value%))" = .ok
      [.call "foreach" [[.text "a; b"], [.call "upper" [[.tag "_loop_value"]] ⟨1, 15, 14⟩]]
        .start] := rfl
  have hfree : WithoutLoopTags .empty := ⟨rfl, rfl⟩
  have hleaves := leavesLoopTags_of_calls htree (by decide) .empty host
  have hgone := loop_tags_gone [] source .empty host hfree hleaves
  simp only [Session.performAll] at hgone
  refine ⟨hfree, hleaves, hgone.resolve_right ?_⟩
  rintro ⟨tree, position, hparse, hloop, -⟩
  obtain rfl := Except.ok.inj (htree.symm.trans hparse)
  have hcalled := hloop.mem_callsOf
  simp [callsOf, callsOfAll, Node.calls] at hcalled

/-- A format that is refused in a round leaves both tags behind the run. -/
theorem loop_tags_left :
    let source := "$foreach(a,$datetime(\\%))"
    let host : Host := ⟨none, ⟨⟨2024, 5, 6⟩, ⟨7, 8, 9, 0⟩, 0⟩⟩
    let behind := (runAfresh standard source .empty host).2
    WithoutLoopTags .empty ∧ LeavesLoopTags source .empty host ∧
    ¬ WithoutLoopTags behind ∧ loopTags behind = ("1", "a") := by
  intro source host behind
  have htree : parse standard.arity? "$foreach(a,$datetime(\\%))" = .ok
      [.call "foreach" [[.text "a"], [.call "datetime" [[.text "%"]] ⟨1, 12, 11⟩]] .start] := rfl
  have hread : loopTags behind = ("1", "a") := by decide +kernel
  refine ⟨⟨rfl, rfl⟩, leavesLoopTags_of_calls htree (by decide) .empty host, fun h => ?_, hread⟩
  have hcount := congrArg Prod.fst (h.loopTags.symm.trans hread)
  exact absurd hcount (by decide)

end Retag.Library

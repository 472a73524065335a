import Retag.Proofs.Running.Contracts
import Retag.Proofs.Running.Library
import Retag.Proofs.Running.Sessions
import Retag.Proofs.Store.Lookup

/-!
# The tags of loops

Every round of a loop over a list starts with the count and the value in the two tags of loops,
whatever the rounds before it did to them. There is one pair of tags for all loops, and a loop that
ends takes it away: what follows in the body of an outer loop reads nothing.
-/

namespace Retag.Library

open Script

/-! ## The two tags -/

/-- No tag of a loop is there. -/
structure WithoutLoopTags (tags : TagStore) : Prop where
  count : tags.contains (internalName loopCount) = false
  value : tags.contains (internalName loopValue) = false

/-- What a script reads under the count and the value. -/
def loopTags (tags : TagStore) : String × String :=
  (tags.get (internalName loopCount), tags.get (internalName loopValue))

theorem loopCount_ne_loopValue :
    storageName (internalName loopCount) ≠ storageName (internalName loopValue) := by decide

theorem namespace?_loopCount : Eval.namespace? (internalName loopCount) = none := rfl

theorem namespace?_loopValue : Eval.namespace? (internalName loopValue) = none := rfl

theorem WithoutLoopTags.loopTags {tags : TagStore} (h : WithoutLoopTags tags) :
    loopTags tags = ("", "") := by
  have absent {n : String} (hn : tags.contains n = false) : tags.get n = "" := by
    have hnone := Option.isSome_eq_false_iff.mp hn
    exact TagStore.get_of_values?_eq_none (Option.isNone_iff_eq_none.mp hnone)
  rw [Library.loopTags, absent h.count, absent h.value]

/-- At the end of a loop both tags are gone, whatever there was. -/
theorem withoutLoopTags_unset (tags : TagStore) :
    WithoutLoopTags (Eval.unsetIn loopValue (Eval.unsetIn loopCount tags)) := by
  constructor
  · rw [TagStore.contains, TagStore.values?_unsetIn namespace?_loopValue,
      if_neg loopCount_ne_loopValue, TagStore.values?_unsetIn namespace?_loopCount, if_pos rfl]
    rfl
  · rw [TagStore.contains, TagStore.values?_unsetIn namespace?_loopValue, if_pos rfl]
    rfl

theorem endLoop_ensures {pre : TagStore → Prop} {fail : RuntimeError → TagStore → Prop} :
    Control.endLoop.Ensures pre WithoutLoopTags fail :=
  fun _ s _ => withoutLoopTags_unset s.tags

/-! ## Rounds -/

/-- The start of a round sets both tags; an empty value is read as one that is absent. -/
theorem loopTags_startRound (count value : String) (tags : TagStore) :
    loopTags (Eval.setIn loopValue value (Eval.setIn loopCount count tags)) = (count, value) := by
  rw [loopTags, TagStore.get_setIn namespace?_loopValue, if_neg loopCount_ne_loopValue,
    TagStore.get_setIn namespace?_loopCount, if_pos rfl,
    TagStore.get_setIn namespace?_loopValue, if_pos rfl]

/-! ## Whole loops -/

section Loops

variable {pre : TagStore → Prop} {fail : RuntimeError → TagStore → Prop}

/-- What the tags are during the rounds is up to the code. -/
theorem rounds_ensures {code : Eval String}
    (hcode : code.Ensures (fun _ => True) (fun _ => True) fail) (values : List String) (i : Nat) :
    (Control.rounds code i values).Ensures (fun _ => True) (fun _ => True) fail := by
  induction values generalizing i with
  | nil => exact .pure []
  | cons value rest ih =>
    have hstart : (Control.startRound (i + 1) value).Ensures (fun _ => True) (fun _ => True) fail :=
      .bind (.change fun _ => id) fun _ => .change fun _ => id
    refine hstart.bind fun _ => hcode.bind fun result => ?_
    exact (ih (i + 1)).bind fun results => .pure (result :: results)

theorem whileRounds_ensures {condition code : Eval String}
    (hcondition : condition.Ensures (fun _ => True) (fun _ => True) fail)
    (hcode : code.Ensures (fun _ => True) (fun _ => True) fail) (left i : Nat) :
    (Control.whileRounds condition code i left).Ensures (fun _ => True) (fun _ => True) fail := by
  induction left generalizing i with
  | zero => exact hcondition.bind fun _ => .pure ()
  | succ left ih =>
    refine hcondition.bind fun go => ?_
    split
    · exact .pure ()
    · exact .bind (.change fun _ => id) fun _ => hcode.bind fun _ => ih (i + 1)

variable {args : List Argument} (hmissing : ∀ e t, pre t → fail e t)

include hmissing

/-- The loops over lists evaluate the list before their rounds, and remove the tags behind them. -/
theorem listLoop_ensures (hargs : ∀ a ∈ args, a.value.Ensures pre pre fail)
    (hcode : ∀ a, args[1]? = some a → a.value.Ensures (fun _ => True) (fun _ => True) fail)
    (value : ValueList → List String → String) :
    Eval.Ensures pre WithoutLoopTags fail (do
      let list ← listOf (← required args 0) args[2]?
      let code ← required args 1
      let results ← Control.rounds code.value 0 (list.values.take maxRounds)
      Control.endLoop
      return value list results) := by
  refine .required hmissing fun multi hmulti => ?_
  have hlist : (listOf multi args[2]?).Ensures pre pre fail := by
    have huses : Uses {} (fun _ => False) (ValueOf args) (listOf multi args[2]?) :=
      uses_listOf (List.mem_of_getElem? hmulti) fun _ => List.mem_of_getElem?
    refine huses.ensures (fun _ => id) hmissing ?_
    rintro v ⟨a, ha, rfl⟩
    exact hargs a ha
  refine hlist.bind fun list => .required hmissing fun code h => ?_
  have hrounds := rounds_ensures (hcode code h) (list.values.take maxRounds) 0
  refine .bind (hrounds.mono (fun _ _ => trivial) (fun _ => id) fun _ _ => id) fun results => ?_
  exact endLoop_ensures.bind fun _ => .pure (value list results)

theorem whileLoop_ensures
    (hcode : ∀ i ∈ [0, 1], ∀ a, args[i]? = some a →
      a.value.Ensures (fun _ => True) (fun _ => True) fail)
    (hidle : args.any (·.isBlank) = true → ∀ t, pre t → WithoutLoopTags t) :
    (Control.whileLoop args).Ensures pre WithoutLoopTags fail := by
  refine .required hmissing fun condition hc => .required hmissing fun code hd => ?_
  split
  · next hblank =>
    have hany : args.any (·.isBlank) = true := by
      rw [List.any_eq_true]
      rcases Bool.or_eq_true_iff.mp hblank with h | h
      · exact ⟨condition, List.mem_of_getElem? hc, h⟩
      · exact ⟨code, List.mem_of_getElem? hd, h⟩
    exact (Eval.Ensures.pure "").mono (fun _ => id) (hidle hany) fun _ _ => id
  · have hcondition := hcode 0 (by decide) condition hc
    have hrounds := whileRounds_ensures hcondition (hcode 1 (by decide) code hd) maxRounds 0
    refine .bind (hrounds.mono (fun _ _ => trivial) (fun _ => id) fun _ _ => id) fun _ => ?_
    exact endLoop_ensures.bind fun _ => .pure ""

end Loops

/-! ## Calls of loops -/

/-- The loops of the library. -/
inductive IsLoop : String → Arity → (List Argument → Eval String) → Prop
  | forEach : IsLoop "foreach" (.between 2 3) Control.forEach
  | whileLoop : IsLoop "while" (.exactly 2) Control.whileLoop
  | map : IsLoop "map" (.between 2 3) Control.map

/-- The places of the arguments that a loop evaluates once a round. -/
def repeatedPlaces (name : String) : List Nat :=
  if name = "while" then [0, 1] else if name ∈ ["foreach", "map"] then [1] else []

theorem find?_loop {name : String} (h : name ∈ ["foreach", "while", "map"]) :
    ∃ run arity doc, standard.find? name = some ⟨name, .lazy run, arity, doc⟩ ∧
      IsLoop name arity run := by
  rw [standard, Registry.find?_ofList]
  simp only [List.mem_cons, List.not_mem_nil, or_false] at h
  rcases h with rfl | rfl | rfl
  · exact ⟨_, _, _, rfl, .forEach⟩
  · exact ⟨_, _, _, rfl, .whileLoop⟩
  · exact ⟨_, _, _, rfl, .map⟩

/-- A `while` for whose condition or code nothing is written does nothing. -/
def Idle (name : String) (args : List Tree) : Prop :=
  name = "while" ∧ args.any (·.isEmpty) = true

instance (name : String) (args : List Tree) : Decidable (Idle name args) :=
  inferInstanceAs (Decidable (_ ∧ _))

section Calls

variable {name : String} {arity : Arity} {run : List Argument → Eval String}

theorem IsLoop.of_while (h : IsLoop name arity run) (hname : name = "while") :
    arity = .exactly 2 ∧ run = Control.whileLoop := by
  cases h with
  | forEach => exact absurd hname (by decide)
  | whileLoop => exact ⟨rfl, rfl⟩
  | map => exact absurd hname (by decide)

/-- A loop that ends with a value has removed the tags, or did nothing. -/
theorem loop_ensures {pre : TagStore → Prop} {fail : RuntimeError → TagStore → Prop}
    {args : List Argument} (h : IsLoop name arity run) (hmissing : ∀ e t, pre t → fail e t)
    (hargs : ∀ a ∈ args, a.value.Ensures pre pre fail)
    (hcode : ∀ i ∈ repeatedPlaces name, ∀ a, args[i]? = some a →
      a.value.Ensures (fun _ => True) (fun _ => True) fail)
    (hidle : name = "while" → args.any (·.isBlank) = true → ∀ t, pre t → WithoutLoopTags t) :
    (run args).Ensures pre WithoutLoopTags fail := by
  cases h with
  | forEach => exact listLoop_ensures hmissing hargs (hcode 1 (by decide)) fun _ _ => ""
  | whileLoop => exact whileLoop_ensures hmissing hcode (hidle rfl)
  | map =>
    exact listLoop_ensures hmissing hargs (hcode 1 (by decide)) fun list results =>
      ValueList.text { list with values := results ++ list.values.drop maxRounds }

theorem whileLoop_idle {args : List Argument} (hn : (Arity.exactly 2).accepts args.length = true)
    (h : args.any (·.isBlank) = true) : Control.whileLoop args = pure "" := by
  obtain ⟨condition, code, rfl⟩ : ∃ condition code, args = [condition, code] := by
    obtain ⟨hmin, hmax⟩ := Bool.and_eq_true_iff.mp hn
    exact List.length_eq_two.mp (Nat.le_antisymm (of_decide_eq_true hmax) (of_decide_eq_true hmin))
  have hblank : (condition.isBlank || code.isBlank) = true := by simpa using h
  simp only [Control.whileLoop, required, List.getElem?_cons_zero, List.getElem?_cons_succ,
    pure_bind, hblank, if_true]

end Calls

/-- What is read behind a loop that ends with a value. -/
theorem loopTags_behind {name : String} (hname : name ∈ ["foreach", "while", "map"])
    {args : List Tree} {position : Position} {host : Host} {s s' : RunState} {value : String}
    (hrun : ((Node.call name args position).eval standard).runFrom host s = (.ok value, s')) :
    loopTags s'.tags = if Idle name args then loopTags s.tags else ("", "") := by
  obtain ⟨run, arity, doc, hf, hloop⟩ := find?_loop hname
  rw [Node.eval, argumentsOf_eq, Registry.call, hf] at hrun
  have hany : (args.map fun t => (⟨t, evalTree standard t⟩ : Argument)).any (·.isBlank)
      = args.any (·.isEmpty) := by
    rw [List.any_map]
    rfl
  dsimp only at hrun
  split at hrun
  · next hn =>
    split
    · next hidle =>
      obtain ⟨rfl, rfl⟩ := hloop.of_while hidle.1
      rw [whileLoop_idle hn (hany.trans hidle.2), Eval.runFrom_inFrame] at hrun
      exact congrArg (loopTags ·.2.tags) hrun.symm
    · next hidle =>
      have hensures : (run (args.map fun t => ⟨t, evalTree standard t⟩)).Ensures (fun _ => True)
          WithoutLoopTags fun _ _ => True :=
        loop_ensures hloop (fun _ _ _ => trivial) (fun a _ => .trivial a.value)
          (fun _ _ a _ => .trivial a.value)
          fun hw hblank => absurd ⟨hw, hany.symm.trans hblank⟩ hidle
      have hbehind := hensures.inFrame ⟨name, position⟩ host s trivial
      rw [hrun] at hbehind
      exact hbehind.loopTags
  · cases hrun

/-- Behind an inner loop that ends normally the tags of loops read as before if it is a `while`
without a condition or without code; behind any other they read nothing. So they read as before if
and only if the inner loop is such a `while` or there was nothing to read. In a round that has not
written to them there was: the round started with its count and its value. -/
theorem inner_loops_take_tags {name : String} (hname : name ∈ ["foreach", "while", "map"])
    {args : List Tree} {position : Position} {host : Host} {s s' : RunState} {value : String}
    (hrun : ((Node.call name args position).eval standard).runFrom host s = (.ok value, s')) :
    loopTags s'.tags = (if Idle name args then loopTags s.tags else ("", "")) ∧
    (loopTags s'.tags = loopTags s.tags ↔ Idle name args ∨ loopTags s.tags = ("", "")) ∧
    ∀ (start : RunState) (i : Nat) (v : String),
      loopTags s.tags = loopTags ((Control.startRound i v).runFrom host start).2.tags →
        loopTags s.tags = (toString i, v) ∧
        (loopTags s'.tags = loopTags s.tags ↔ Idle name args) := by
  have hbehind := loopTags_behind hname hrun
  have hiff : loopTags s'.tags = loopTags s.tags ↔
      Idle name args ∨ loopTags s.tags = ("", "") := by
    rw [hbehind]
    split
    · next hidle => exact iff_of_true rfl (.inl hidle)
    · next hidle => rw [or_iff_right hidle, eq_comm]
  refine ⟨hbehind, hiff, fun start i v hs => ?_⟩
  have hround : loopTags s.tags = (toString i, v) := hs.trans (loopTags_startRound _ _ _)
  have hcount : toString i ≠ "" := by simp
  refine ⟨hround, ?_⟩
  rw [hiff, hround]
  exact or_iff_left fun he => hcount (Prod.mk.inj he).1

/-- The rest of a round of an outer loop, behind an inner one. -/
theorem inner_loops_take_tags_foreach :
    let host : Host := ⟨none, ⟨⟨2024, 5, 6⟩, ⟨7, 8, 9, 0⟩, 0⟩⟩
    let before := ((Control.startRound 1 "a").runFrom host ⟨.empty, []⟩).2
    let run := ((Node.call "foreach" [[.text "b"], []] .start).eval standard).runFrom host before
    run.1.toOption = some "" ∧ loopTags before.tags = ("1", "a") ∧
    loopTags run.2.tags = ("", "") ∧ loopTags run.2.tags ≠ loopTags before.tags := by
  intro host before run
  have hvalue : run.1.toOption = some "" := by decide +kernel
  obtain ⟨value, hrun⟩ : ∃ value, run = (.ok value, run.2) := by
    rcases h : run with ⟨e | value, behind⟩
    · rw [h] at hvalue
      cases hvalue
    · exact ⟨value, rfl⟩
  obtain ⟨hbehind, -, hround⟩ := inner_loops_take_tags (by decide) hrun
  obtain ⟨hbefore, hsame⟩ := hround ⟨.empty, []⟩ 1 "a" rfl
  refine ⟨hvalue, hbefore, hbehind, fun he => ?_⟩
  exact absurd (hsame.mp he) (by decide)

/-- The same count and value are read before an inner loop and nothing behind it. -/
theorem outer_tags_lost :
    let script := "$foreach(a,$set(before,%_loop_count%%_loop_value%)$foreach(b,)"
      ++ "$set(after,%_loop_count%%_loop_value%))"
    let host : Host := ⟨none, ⟨⟨2024, 5, 6⟩, ⟨7, 8, 9, 0⟩, 0⟩⟩
    let run := runAfresh standard script .empty host
    run.1.toOption = some "" ∧ run.2.get "before" = "1a" ∧ run.2.get "after" = "" := by
  decide +kernel

end Retag.Library

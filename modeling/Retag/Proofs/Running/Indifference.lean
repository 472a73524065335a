import Retag.Proofs.Running.Displacement
import Retag.Proofs.Running.Library

/-!
# The library wherever it is called

No function of the library does anything different because its call, or a call in its arguments,
stands elsewhere. For functions of texts this follows from what they may do; those that evaluate
their arguments themselves are compared on two lists of arguments that look alike.
-/

namespace Retag.Library

open Script

variable {f : Position → Position} {frame : Frame} {frames : List Frame}

/-- What a function of texts may do says that it does not look at its call. -/
theorem follows_of_eager {g : Function} (hg : Abides g) (he : g.implementation.isEager = true) :
    g.implementation.Follows f := by
  obtain ⟨name, implementation, arity, doc⟩ := g
  cases hg with
  | onValues h =>
    exact fun known frame frames values => (h known values).follows not_false nofun
  | onArguments _ => cases he

/-! ## Arguments -/

theorem rel_getElem? {α β : Type} {R : α → β → Prop} {as : List α} {bs : List β}
    (h : List.Forall₂ R as bs) (i : Nat) : Option.Rel R as[i]? bs[i]? := by
  induction h generalizing i with
  | nil => exact .none
  | cons hab _ ih =>
    cases i with
    | zero => exact .some hab
    | succ i => exact ih i

section Arguments

variable {args args' : List Argument}
  (h : List.Forall₂ (Argument.Follows f (frame :: frames)) args args')

include h

theorem follows_required {α : Type} (i : Nat) {k k' : Argument → Eval α}
    (hk : ∀ a a', a.Follows f (frame :: frames) a' →
      (k a).Follows f (frame :: frames) (k' a')) :
    (required args i >>= k).Follows f (frame :: frames) (required args' i >>= k') := by
  have hi := rel_getElem? h i
  rw [required, required]
  generalize args[i]? = o at hi
  generalize args'[i]? = o' at hi
  cases hi with
  | none =>
    dsimp only
    rw [bind_assoc, bind_assoc]
    exact .errorHere _
  | some ha => exact hk _ _ ha

end Arguments

theorem follows_listOf {multi multi' : Argument} (hm : multi.Follows f frames multi')
    {separator separator' : Option Argument}
    (hs : Option.Rel (Argument.Follows f frames) separator separator') :
    (listOf multi separator).Follows f frames (listOf multi' separator') := by
  unfold listOf
  rw [hm.tag]
  cases hs
  case' none => refine .bind (.pure joiner) fun text => ?_
  case' some ha => refine ha.value.bind fun text => ?_
  all_goals
    dsimp only
    split
    · exact .bind .tags fun _ => .pure _
    · exact hm.value.bind fun _ => .pure _

theorem follows_indexOf {a a' : Argument} (h : a.Follows f frames a') :
    (Lists.indexOf a).Follows f frames (Lists.indexOf a') := by
  rw [Lists.indexOf, Lists.indexOf, h.blank]
  split
  · exact .pure none
  · exact h.value.bind fun _ => .pure _

/-! ## Branches and loops -/

theorem follows_startRound (i : Nat) (value : String) :
    (Control.startRound i value).Follows f frames (Control.startRound i value) :=
  .bind (.change _) fun _ => .change _

theorem follows_endLoop : Control.endLoop.Follows f frames Control.endLoop :=
  .bind (.change _) fun _ => .change _

theorem follows_rounds {code code' : Eval String} (hc : code.Follows f frames code')
    (values : List String) (i : Nat) :
    (Control.rounds code i values).Follows f frames (Control.rounds code' i values) := by
  induction values generalizing i with
  | nil => exact .pure []
  | cons value rest ih =>
    refine (follows_startRound _ value).bind fun _ => hc.bind fun result => ?_
    exact (ih (i + 1)).bind fun results => .pure (result :: results)

theorem follows_whileRounds {condition condition' code code' : Eval String}
    (hcond : condition.Follows f frames condition') (hcode : code.Follows f frames code')
    (left i : Nat) :
    (Control.whileRounds condition code i left).Follows f frames
      (Control.whileRounds condition' code' i left) := by
  induction left generalizing i with
  | zero => exact hcond.bind fun _ => .pure ()
  | succ left ih =>
    refine hcond.bind fun go => ?_
    split
    · exact .pure ()
    · refine .bind (.change _) fun _ => ?_
      exact hcode.bind fun _ => ih (i + 1)

theorem follows_firstFilled {args args' : List Argument}
    (h : List.Forall₂ (Argument.Follows f frames) args args') :
    (Control.firstFilled args).Follows f frames (Control.firstFilled args') := by
  induction h with
  | nil => exact .pure ""
  | cons ha _ ih =>
    refine ha.value.bind fun v => ?_
    split
    · exact ih
    · exact .pure v

/-- The loops over lists read the list, make their rounds and end with a value of both. -/
theorem follows_loop {args args' : List Argument}
    (h : List.Forall₂ (Argument.Follows f (frame :: frames)) args args')
    (value : ValueList → List String → String) :
    Eval.Follows f (frame :: frames)
      (do
        let list ← listOf (← required args 0) args[2]?
        let code ← required args 1
        let results ← Control.rounds code.value 0 (list.values.take maxRounds)
        Control.endLoop
        return value list results)
      (do
        let list ← listOf (← required args' 0) args'[2]?
        let code ← required args' 1
        let results ← Control.rounds code.value 0 (list.values.take maxRounds)
        Control.endLoop
        return value list results) := by
  refine follows_required h 0 fun multi multi' hm => ?_
  refine (follows_listOf hm (rel_getElem? h 2)).bind fun list => ?_
  refine follows_required h 1 fun code code' hc => ?_
  refine (follows_rounds hc.value _ 0).bind fun results => ?_
  exact follows_endLoop.bind fun _ => .pure (value list results)

theorem controlFunctions_follow : ∀ g ∈ controlFunctions, g.implementation.Follows f := by
  simp only [controlFunctions, List.forall_mem_cons]
  refine ⟨?branch, ?firstFilled, ?noop, ?forEach, ?whileLoop, ?map, List.forall_mem_nil _⟩ <;>
    intro _ frame frames args args' h
  case branch =>
    refine follows_required h 0 fun condition condition' hc => hc.value.bind fun v => ?_
    split
    · have hother := rel_getElem? h 2
      generalize args[2]? = o at hother
      generalize args'[2]? = o' at hother
      cases hother with
      | none => exact .pure ""
      | some ho => exact ho.value
    · exact follows_required h 1 fun yes yes' hy => hy.value
  case firstFilled => exact follows_firstFilled h
  case noop => exact .pure ""
  case forEach => exact follows_loop h fun _ _ => ""
  case whileLoop =>
    refine follows_required h 0 fun condition condition' hcond => ?_
    refine follows_required h 1 fun code code' hcode => ?_
    rw [hcond.blank, hcode.blank]
    split
    · exact .pure ""
    · refine (follows_whileRounds hcond.value hcode.value _ 0).bind fun _ => ?_
      exact follows_endLoop.bind fun _ => .pure ""
  case map =>
    exact follows_loop h fun list results =>
      ValueList.text { list with values := results ++ list.values.drop maxRounds }

/-! ## Functions of lists -/

/-- Most functions of lists end so: they read the list and make a value of it. -/
theorem follows_list {args args' : List Argument}
    (h : List.Forall₂ (Argument.Follows f (frame :: frames)) args args')
    {separator separator' : Option Argument}
    (hs : Option.Rel (Argument.Follows f (frame :: frames)) separator separator')
    (value : ValueList → String) :
    Eval.Follows f (frame :: frames)
      (required args 0 >>= fun multi => listOf multi separator >>= fun list => pure (value list))
      (required args' 0 >>= fun multi =>
        listOf multi separator' >>= fun list => pure (value list)) :=
  follows_required h 0 fun _ _ hm => (follows_listOf hm hs).bind fun list => .pure (value list)

theorem listFunctions_follow : ∀ g ∈ listFunctions, g.implementation.Follows f := by
  have habide := listFunctions_abide
  simp only [listFunctions, List.forall_mem_cons] at habide ⊢
  obtain ⟨hset, -, -, -, -, -, -, -, -, -, hclean, -, -⟩ := habide
  refine ⟨follows_of_eager hset rfl, ?getMulti, ?lenMulti, ?inMulti, ?sortMulti, ?reverseMulti,
    ?unique, ?slice, ?join, ?isMulti, follows_of_eager hclean rfl, ?replaceMulti,
    List.forall_mem_nil _⟩ <;> intro _ frame frames args args' h
  case getMulti =>
    refine follows_required h 1 fun i i' hi => (follows_indexOf hi).bind fun index => ?_
    rcases index with _ | index
    · exact .pure ""
    · exact follows_list h (rel_getElem? h 2) _
  case lenMulti => exact follows_list h (rel_getElem? h 1) _
  case inMulti =>
    refine follows_required h 1 fun value value' hv => hv.value.bind fun v => ?_
    exact follows_list h (rel_getElem? h 2) _
  case sortMulti => exact follows_list h (rel_getElem? h 1) _
  case reverseMulti => exact follows_list h (rel_getElem? h 1) _
  case unique =>
    have hcase := rel_getElem? h 1
    unfold Lists.unique
    dsimp only
    generalize args[1]? = o at hcase
    generalize args'[1]? = o' at hcase
    cases hcase
    case' none => refine .bind (.pure "") fun caseSensitive => ?_
    case' some hc => refine hc.value.bind fun caseSensitive => ?_
    all_goals exact follows_list h (rel_getElem? h 2) _
  case slice =>
    refine follows_required h 1 fun i i' hi => (follows_indexOf hi).bind fun start => ?_
    refine follows_required h 2 fun j j' hj => (follows_indexOf hj).bind fun stop => ?_
    exact follows_list h (rel_getElem? h 3) _
  case join =>
    refine follows_required h 1 fun glue glue' hg => hg.value.bind fun text => ?_
    exact follows_list h (rel_getElem? h 2) _
  case isMulti => exact follows_list h .none _
  case replaceMulti =>
    have hseparator := rel_getElem? h 3
    have hblank : (args'[3]?).map Argument.isBlank = (args[3]?).map Argument.isBlank := by
      generalize args[3]? = o at hseparator
      generalize args'[3]? = o' at hseparator
      cases hseparator with
      | none => rfl
      | some hs => rw [Option.map_some, Option.map_some, hs.blank]
    refine follows_required h 1 fun search search' hs => ?_
    rw [hs.blank, hblank]
    split
    · exact follows_required h 0 fun _ _ hm => hm.value
    · refine hs.value.bind fun text => follows_required h 2 fun _ _ hr => ?_
      exact hr.value.bind fun replacement => follows_list h hseparator _

/-! ## The whole library -/

theorem factFunctions_follow : ∀ g ∈ factFunctions, g.implementation.Follows f := by
  have habide := factFunctions_abide
  simp only [factFunctions, List.forall_mem_cons] at habide ⊢
  obtain ⟨hperformer, -, hcomplete, haudio, hvideo, -⟩ := habide
  refine ⟨follows_of_eager hperformer rfl, ?matchedTracks, follows_of_eager hcomplete rfl,
    follows_of_eager haudio rfl, follows_of_eager hvideo rfl, List.forall_mem_nil _⟩
  intro _ frame frames args args' _
  refine .bind (.read fun host => .pure _) fun album => ?_
  rcases album with _ | a
  · exact .pure "0"
  · exact .pure (toString a.matched)

theorem follows_of_eagers {gs : List Function} (habide : ∀ g ∈ gs, Abides g)
    (heager : gs.all (·.implementation.isEager) = true) : ∀ g ∈ gs, g.implementation.Follows f :=
  fun g hg => follows_of_eager (habide g hg) (List.all_eq_true.mp heager g hg)

/-- The whole library does the same wherever its calls stand. -/
theorem standard_follows (f : Position → Position) :
    ∀ g ∈ standard.functions, g.implementation.Follows f := by
  intro g hg
  have hall : g ∈ allFunctions := (Registry.mem_foldl_register hg).resolve_right List.not_mem_nil
  simp only [allFunctions, List.mem_append] at hall
  rcases hall with (((((hg | hg) | hg) | hg) | hg) | hg) | hg
  · exact controlFunctions_follow g hg
  · exact follows_of_eagers tagFunctions_abide rfl g hg
  · exact follows_of_eagers textFunctions_abide rfl g hg
  · exact follows_of_eagers numberFunctions_abide rfl g hg
  · exact listFunctions_follow g hg
  · exact follows_of_eagers dateFunctions_abide rfl g hg
  · exact factFunctions_follow g hg

end Retag.Library

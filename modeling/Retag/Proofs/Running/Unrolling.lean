import Retag.Proofs.Running.LoneTags
import Retag.Proofs.Running.Loops

/-!
# Loops over lists, unrolled

A loop over a list makes its rounds one after the other: the tags of loops are set, and the code is
evaluated with whatever the rounds before left. The list is the one that was read on entry, so
nothing that the code does changes how many rounds there are, or their values. At the first error
the loop ends where it is; otherwise it removes the two tags.
-/

namespace Retag.Script

/-- The state inside a call. -/
def RunState.enter (s : RunState) (frame : Frame) : RunState :=
  { s with frames := frame :: s.frames }

/-- The state behind a call. -/
def RunState.leave (s : RunState) : RunState := { s with frames := s.frames.tail }

theorem Eval.runFrom_inFrame_of_eq {α : Type} {x : Eval α} {frame : Frame} {host : Host}
    {s s' : RunState} {result : Except RuntimeError α}
    (h : x.runFrom host (s.enter frame) = (result, s')) :
    (Eval.inFrame frame x).runFrom host s = (result, s'.leave) := by
  rw [RunState.enter] at h
  rw [Eval.runFrom_inFrame, h]
  rfl

end Retag.Script

namespace Retag.Library

open Script

/-! ## The tags of a round -/

/-- The tags with the count of a round. -/
def counted (count : Nat) (tags : TagStore) : TagStore :=
  tags.set (internalName loopCount) [toString count]

/-- The tags at the start of a round over a list; an empty value leaves no tag for it. -/
def atRound (count : Nat) (value : String) (tags : TagStore) : TagStore :=
  if value = "" then (counted count tags).unset (internalName loopValue)
  else (counted count tags).set (internalName loopValue) [value]

/-- The tags behind the last round. -/
def behindLoop (tags : TagStore) : TagStore :=
  (tags.unset (internalName loopCount)).unset (internalName loopValue)

theorem runFrom_setCount (count : Nat) (host : Host) (s : RunState) :
    (Eval.setTag loopCount (toString count)).runFrom host s
      = (.ok (), { s with tags := counted count s.tags }) := by
  have hfull : ¬ (toString count).isEmpty = true := by simp
  rw [Eval.setTag, Eval.runFrom_modifyTags, Eval.setIn, if_neg hfull, TagStore.setOne, counted]

theorem runFrom_startRound (count : Nat) (value : String) (host : Host) (s : RunState) :
    (Control.startRound count value).runFrom host s
      = (.ok (), { s with tags := atRound count value s.tags }) := by
  rw [Control.startRound, Eval.runFrom_bind_ok (runFrom_setCount count host s), Eval.setTag,
    Eval.runFrom_modifyTags, Eval.setIn, Eval.unsetIn, namespace?_loopValue, TagStore.setOne,
    atRound]
  simp only [String.isEmpty_iff]

theorem runFrom_endLoop (host : Host) (s : RunState) :
    Control.endLoop.runFrom host s = (.ok (), { s with tags := behindLoop s.tags }) := rfl

/-! ## Rounds -/

/-- The first rounds of a loop, with what the code gave in each of them and the state behind the
last. In every round the tags of loops are set and the code is evaluated. -/
inductive Unrolled (host : Host) (code : Eval String) (values : List String) (entry : RunState) :
    List String → RunState → Prop
  | start : Unrolled host code values entry [] entry
  | round {results : List String} {value result : String} {s s' : RunState} :
      Unrolled host code values entry results s → values[results.length]? = some value →
      code.runFrom host { s with tags := atRound (results.length + 1) value s.tags }
        = (.ok result, s') →
      Unrolled host code values entry (results ++ [result]) s'

/-- The round behind these results ends in an error. -/
def FailsNext (host : Host) (code : Eval String) (values results : List String) (s : RunState)
    (e : RuntimeError) (s' : RunState) : Prop :=
  ∃ value, values[results.length]? = some value ∧
    code.runFrom host { s with tags := atRound (results.length + 1) value s.tags } = (.error e, s')

section Rounds

variable {host : Host} {code : Eval String} {values results : List String} {entry s : RunState}

theorem Unrolled.length_le (h : Unrolled host code values entry results s) :
    results.length ≤ values.length := by
  cases h with
  | start => exact Nat.zero_le _
  | round _ hvalue _ =>
    rw [List.length_append]
    exact (List.getElem?_eq_some_iff.mp hvalue).1

/-- The rounds behind the first ones are made one after the other, up to the last one or to the
first that fails. -/
theorem Unrolled.rounds (h : Unrolled host code values entry results s) {rest : List String}
    (hrest : values.drop results.length = rest) :
    ∃ more s', Unrolled host code values entry (results ++ more) s' ∧
      ((results ++ more).length = values.length ∧
          (Control.rounds code results.length rest).runFrom host s = (.ok more, s') ∨
        ∃ e s'', FailsNext host code values (results ++ more) s' e s'' ∧
          (Control.rounds code results.length rest).runFrom host s = (.error e, s'')) := by
  -- Each round lengthens the results by one and takes one value off those that are left.
  induction rest generalizing results s with
  | nil =>
    have hall : results.length = values.length :=
      Nat.le_antisymm h.length_le (List.drop_eq_nil_iff.mp hrest)
    refine ⟨[], s, ?_⟩
    rw [List.append_nil]
    exact ⟨h, .inl ⟨hall, rfl⟩⟩
  | cons value rest ih =>
    have hvalue : values[results.length]? = some value := by
      rw [← List.head?_drop, hrest, List.head?_cons]
    have hstart := runFrom_startRound (results.length + 1) value host s
    rcases hcode : code.runFrom host { s with tags := atRound (results.length + 1) value s.tags }
      with ⟨e | result, s'⟩
    · refine ⟨[], s, ?_⟩
      rw [List.append_nil]
      refine ⟨h, .inr ⟨e, s', ⟨value, hvalue, hcode⟩, ?_⟩⟩
      rw [Control.rounds, Eval.runFrom_bind_ok hstart, Eval.runFrom_bind_error hcode]
    · have hlength : (results ++ [result]).length = results.length + 1 := by simp
      have hdrop : values.drop (results ++ [result]).length = rest := by
        rw [hlength, ← List.tail_drop, hrest, List.tail_cons]
      obtain ⟨more, s'', hmore, hend⟩ := ih (h.round hvalue hcode) hdrop
      rw [List.append_assoc, List.singleton_append] at hmore hend
      rw [hlength] at hend
      refine ⟨result :: more, s'', hmore, ?_⟩
      rw [Control.rounds, Eval.runFrom_bind_ok hstart, Eval.runFrom_bind_ok hcode]
      rcases hend with ⟨hlength, hrun⟩ | ⟨e, s₃, hfails, hrun⟩
      · exact .inl ⟨hlength, Eval.runFrom_bind_ok hrun⟩
      · exact .inr ⟨e, s₃, hfails, Eval.runFrom_bind_error hrun⟩

end Rounds

/-! ## Loops -/

/-- A loop over a list that makes its value of the results of the rounds. -/
def listLoop (list : Eval ValueList) (code : Eval String)
    (value : ValueList → List String → String) : Eval String := do
  let list ← list
  let results ← Control.rounds code 0 (list.values.take maxRounds)
  Control.endLoop
  return value list results

/-- What the loops over lists give. -/
def listLoopResult (name : String) (list : ValueList) (results : List String) : String :=
  if name = "map" then
    list.separator.intercalate ((results ++ list.values.drop maxRounds).filter (!·.isEmpty))
  else ""

theorem call_listLoop {r : Registry} {name : String} (hname : name ∈ ["foreach", "map"])
    (hr : r.find? name = standard.find? name) (multi code : Argument) (separator : Option Argument)
    (position : Position) :
    r.call name (multi :: code :: separator.toList) position
      = Eval.inFrame ⟨name, position⟩
          (listLoop (listOf multi separator) code.value (listLoopResult name)) := by
  have hlength : (Arity.between 2 3).accepts (multi :: code :: separator.toList).length = true := by
    cases separator <;> rfl
  rw [Registry.call, hr, find?_standard]
  simp only [List.mem_cons, List.not_mem_nil, or_false] at hname
  rcases hname with rfl | rfl
  · have hforEach : Control.forEach (multi :: code :: separator.toList)
        = listLoop (listOf multi separator) code.value (listLoopResult "foreach") :=
      forEach_eq multi separator code
    exact (if_pos hlength).trans (congrArg (Eval.inFrame _) hforEach)
  · have hmap : Control.map (multi :: code :: separator.toList)
        = listLoop (listOf multi separator) code.value (listLoopResult "map") :=
      map_eq multi separator code
    exact (if_pos hlength).trans (congrArg (Eval.inFrame _) hmap)

/-- A loop over a list does what its rounds do one after the other, whatever the code does and
whichever functions it may call: it reads its list on entry, makes a round for each of the first
values up to the last one or to the first that fails, and removes the tags of loops behind the last
one. An error ends it where it is. -/
theorem loops_unroll {r : Registry} {name : String} (hname : name ∈ ["foreach", "map"])
    (hr : r.find? name = standard.find? name) (multi code : Tree) (separator : Option Tree)
    (position : Position) (host : Host) (s : RunState) :
    let argument (t : Tree) : Argument := ⟨t, evalTree r t⟩
    let entry := (listOf (argument multi) (separator.map argument)).runFrom host
      (s.enter ⟨name, position⟩)
    let run := ((Node.call name (multi :: code :: separator.toList) position).eval r).runFrom host s
    (∀ e s₁, entry = (.error e, s₁) → run = (.error e, s₁.leave)) ∧
    ∀ list s₁, entry = (.ok list, s₁) →
      ∃ results s₂,
        Unrolled host (evalTree r code) (list.values.take 1000) s₁ results s₂ ∧
        (results.length = min 1000 list.size ∧
            run = (.ok (if name = "map" then list.separator.intercalate
                  ((results ++ list.values.drop 1000).filter (!·.isEmpty)) else ""),
                RunState.leave { s₂ with tags := behindLoop s₂.tags }) ∨
          ∃ e s₃, FailsNext host (evalTree r code) (list.values.take 1000) results s₂ e s₃ ∧
            run = (.error e, s₃.leave)) := by
  intro argument entry run
  have hargs : argumentsOf r (multi :: code :: separator.toList)
      = argument multi :: argument code :: (separator.map argument).toList := by
    rw [argumentsOf_eq]
    cases separator <;> rfl
  have hcall := call_listLoop hname hr (argument multi) (argument code) (separator.map argument)
    position
  have hrun {result : Except RuntimeError String} {s' : RunState}
      (h : (listLoop (listOf (argument multi) (separator.map argument)) (evalTree r code)
        (listLoopResult name)).runFrom host (s.enter ⟨name, position⟩) = (result, s')) :
      run = (result, s'.leave) := by
    simp only [run, Node.eval]
    rw [hargs, hcall]
    exact Eval.runFrom_inFrame_of_eq h
  refine ⟨fun e s₁ hentry => hrun (Eval.runFrom_bind_error hentry), fun list s₁ hentry => ?_⟩
  have hstart : Unrolled host (evalTree r code) (list.values.take 1000) s₁ [] s₁ := .start
  obtain ⟨results, s₂, hrounds, hend⟩ := hstart.rounds rfl
  refine ⟨results, s₂, hrounds, ?_⟩
  rcases hend with ⟨hlength, hall⟩ | ⟨e, s₃, hfails, herror⟩
  · refine .inl ⟨hlength.trans List.length_take, hrun ?_⟩
    rw [listLoop, Eval.runFrom_bind_ok hentry]
    exact (Eval.runFrom_bind_ok hall).trans (Eval.runFrom_bind_ok (runFrom_endLoop host s₂))
  · refine .inr ⟨e, s₃, hfails, hrun ?_⟩
    rw [listLoop, Eval.runFrom_bind_ok hentry]
    exact Eval.runFrom_bind_error herror

/-- The code writes to the tag that the loop is about and to the count, and the rounds go on with
the values that there were. One of them is empty, and so is what the code gives for it. -/
theorem loops_unroll_map :
    let host : Host := ⟨none, ⟨⟨2024, 5, 6⟩, ⟨7, 8, 9, 0⟩, 0⟩⟩
    let s : RunState := ⟨.ofPairs [("a", "p"), ("a", ""), ("a", "q")], []⟩
    let code : Tree := [.call "set" [[.text "a"], [.text "x"]] ⟨1, 10, 9⟩,
      .call "unset" [[.text "_loop_count"]] ⟨1, 19, 18⟩, .tag "_loop_value"]
    let inside := s.enter ⟨"map", .start⟩
    let run := ((Node.call "map" [[.tag "a"], code] .start).eval standard).runFrom host s
    "map" ∈ ["foreach", "map"] ∧
    (listOf ⟨[.tag "a"], evalTree standard [.tag "a"]⟩ none).runFrom host inside
      = (.ok ⟨["p", "", "q"], joiner⟩, inside) ∧
    run.1.toOption = some "p; q" ∧ run.2.tags = .ofPairs [("a", "x")] ∧
    ∃ results s', Unrolled host (evalTree standard code) ["p", "", "q"] inside results s' ∧
      results.length = 3 ∧ joiner.intercalate (results.filter (!·.isEmpty)) = "p; q" ∧
      behindLoop s'.tags = .ofPairs [("a", "x")] := by
  intro host s code inside run
  have hentry : (listOf ⟨[.tag "a"], evalTree standard [.tag "a"]⟩ none).runFrom host inside
      = (.ok ⟨["p", "", "q"], joiner⟩, inside) := rfl
  obtain ⟨hvalue, htags⟩ :
      run.1.toOption = some "p; q" ∧ run.2.tags = .ofPairs [("a", "x")] := by
    simp only [run, eval_standard]
    decide +kernel
  refine ⟨by decide, hentry, hvalue, htags, ?_⟩
  obtain ⟨results, s', hrounds, hend⟩ :=
    (loops_unroll (by decide) rfl [.tag "a"] code none .start host s).2 _ _ hentry
  refine ⟨results, s', hrounds, ?_⟩
  rcases hend with ⟨hlength, hall⟩ | ⟨e, s'', -, herror⟩
  · rw [show run = _ from hall] at hvalue htags
    have htext := Option.some.inj hvalue
    exact ⟨hlength, by simpa using htext, htags⟩
  · rw [show run = _ from herror] at hvalue
    cases hvalue

end Retag.Library

import Mathlib.Data.Nat.Find
import Mathlib.Order.Bounds.Basic
import Retag.Proofs.Running.Surroundings
import Retag.Proofs.Running.Unrolling

/-!
# Loops with a condition

A loop with a condition evaluates its condition and its code alternately, each in the state that the
one before left, and ends behind the first condition without a value or behind the one after the
last round that is allowed. That it evaluates them so often and in this order, and not once more,
is seen if each evaluation leaves a mark: behind the calls that are being executed, where nothing
looks.
-/

namespace Retag.Script

/-- Leaves a mark behind all calls that are being executed, and goes on. -/
def Eval.marked {α : Type} (mark : Frame) (x : Eval α) : Eval α := do
  modify fun s : RunState => { s with frames := s.frames ++ [mark] }
  x

theorem Eval.SeesOnly.runFrom_marked {α : Type} {x : Eval α} (hx : x.SeesOnly []) (mark : Frame)
    (host : Host) (s : RunState) (frames : List Frame) :
    (x.marked mark).runFrom host ⟨s.tags, frames⟩
      = ((x.runFrom host s).1, ⟨(x.runFrom host s).2.tags, frames ++ [mark]⟩) :=
  hx.runFrom_frames host s (frames ++ [mark])

end Retag.Script

namespace Retag.Library

open Script

/-- A condition and a code that are evaluated alternately, from a state. -/
structure Alternation where
  host : Host
  condition : Eval String
  code : Eval String
  entry : RunState

namespace Alternation

/-- The state behind the first rounds. In each the condition is evaluated, the count is set, and the
code is evaluated. -/
def behind (a : Alternation) : Nat → RunState
  | 0 => a.entry
  | i + 1 =>
    let s := (a.condition.runFrom a.host (a.behind i)).2
    (a.code.runFrom a.host { s with tags := counted (i + 1) s.tags }).2

variable (a : Alternation)

/-- The evaluation of the condition behind `i` rounds. -/
def conditionAt (i : Nat) : Except RuntimeError String × RunState :=
  a.condition.runFrom a.host (a.behind i)

/-- The state in which the code is evaluated behind `i` rounds. -/
def codeEntry (i : Nat) : RunState :=
  { (a.conditionAt i).2 with tags := counted (i + 1) (a.conditionAt i).2.tags }

/-- The evaluation of the code behind `i` rounds. -/
def codeAt (i : Nat) : Except RuntimeError String × RunState :=
  a.code.runFrom a.host (a.codeEntry i)

/-- No evaluation fails up to the condition behind `k` rounds. -/
structure Succeeds (k : Nat) : Prop where
  condition : ∀ i ≤ k, ∃ go, (a.conditionAt i).1 = .ok go
  code : ∀ i < k, ∃ result, (a.codeAt i).1 = .ok result

/-- The numbers of rounds behind which the loop may end. -/
def Ends (i : Nat) : Prop := (a.conditionAt i).1 = .ok "" ∨ i = maxRounds

theorem behind_succ (i : Nat) : a.behind (i + 1) = (a.codeAt i).2 := rfl

theorem exists_isLeast_ends : ∃ k, IsLeast {i | a.Ends i} k := by
  classical
  have hlimit : ∃ i, a.Ends i := ⟨maxRounds, .inr rfl⟩
  exact ⟨Nat.find hlimit, Nat.find_spec hlimit, fun i hi => Nat.find_min' hlimit hi⟩

variable {a} {k : Nat}

/-- The tags that the code starts with are those behind the condition, with the count set. -/
theorem codeEntry_tags (a : Alternation) (i : Nat) :
    (a.codeEntry i).tags.get (internalName loopCount) = toString (i + 1) ∧
    ∀ name, storageName name ≠ storageName (internalName loopCount) →
      (a.codeEntry i).tags.values? name = (a.conditionAt i).2.tags.values? name := by
  have hset (name : String) : (a.codeEntry i).tags.values? name
      = if storageName name = storageName (internalName loopCount) then some [toString (i + 1)]
        else (a.conditionAt i).2.tags.values? name :=
    TagStore.values?_set (List.cons_ne_nil _ [])
  constructor
  · exact TagStore.get_of_values?_eq_one ((hset _).trans (if_pos rfl))
  · intro name hname
    exact (hset name).trans (if_neg hname)

/-- Behind `i` rounds the loop makes the rounds up to the first behind which it ends. -/
theorem runFrom_whileRounds (hleast : IsLeast {i | a.Ends i} k) (h : a.Succeeds k)
    {left i : Nat} (hlimit : i + left = maxRounds) (hik : i ≤ k) :
    (Control.whileRounds a.condition a.code i left).runFrom a.host (a.behind i)
      = (.ok (), (a.conditionAt k).2) := by
  obtain ⟨hend, hfirst⟩ := hleast
  -- `i` never passes `k`: behind `k` rounds the condition has no value, or none are left.
  induction left generalizing i with
  | zero =>
    obtain rfl : i = k := Nat.le_antisymm hik (hfirst (.inr hlimit))
    obtain ⟨go, hgo⟩ := h.condition i le_rfl
    exact Eval.runFrom_bind_ok (Prod.ext hgo rfl)
  | succ left ih =>
    obtain ⟨go, hgo⟩ := h.condition i hik
    have hcondition : a.condition.runFrom a.host (a.behind i) = (.ok go, (a.conditionAt i).2) :=
      Prod.ext hgo rfl
    rw [Control.whileRounds, Eval.runFrom_bind_ok hcondition]
    by_cases hempty : go = ""
    · obtain rfl : i = k := Nat.le_antisymm hik (hfirst (.inl (hempty ▸ hgo)))
      rw [if_pos (String.isEmpty_iff.mpr hempty)]
      rfl
    · have hlt : i < k := by
        refine lt_of_le_of_ne hik ?_
        rintro rfl
        rcases hend with hnone | hmax
        · exact hempty (Except.ok.inj (hgo.symm.trans hnone))
        · omega
      obtain ⟨result, hresult⟩ := h.code i hlt
      have hcode : a.code.runFrom a.host (a.codeEntry i) = (.ok result, a.behind (i + 1)) :=
        Prod.ext hresult rfl
      rw [if_neg (mt String.isEmpty_iff.mp hempty),
        Eval.runFrom_bind_ok (runFrom_setCount (i + 1) a.host _)]
      exact (Eval.runFrom_bind_ok hcode).trans (ih (by omega) hlt)

/-! ## Marks -/

/-- The same with a mark for every evaluation of the condition and of the code. -/
def marked (a : Alternation) (c d : Frame) : Alternation :=
  { a with condition := a.condition.marked c, code := a.code.marked d }

/-- The calls that are being executed, and the marks of the first rounds behind them. -/
def marks (a : Alternation) (c d : Frame) (i : Nat) : List Frame :=
  a.entry.frames ++ (List.replicate i [c, d]).flatten

section Marks

variable (hcondition : a.condition.SeesOnly []) (hcode : a.code.SeesOnly []) (c d : Frame)

include hcondition hcode

theorem frames_conditionAt (i : Nat) : (a.conditionAt i).2.frames = a.entry.frames := by
  have hbehind : (a.behind i).frames = a.entry.frames := by
    induction i with
    | zero => rfl
    | succ i ih =>
      rw [behind_succ, codeAt, hcode.frames_runFrom, codeEntry, conditionAt,
        hcondition.frames_runFrom, ih]
  rw [conditionAt, hcondition.frames_runFrom, hbehind]

theorem behind_marked (i : Nat) :
    (a.marked c d).behind i = ⟨(a.behind i).tags, a.marks c d i⟩ := by
  induction i with
  | zero => simp [behind, marked, marks]
  | succ i ih =>
    have hmarked := hcondition.runFrom_marked c a.host (a.behind i) (a.marks c d i)
    have hround := hcode.runFrom_marked d a.host (a.codeEntry i) (a.marks c d i ++ [c])
    have hmarks : a.marks c d i ++ [c] ++ [d] = a.marks c d (i + 1) := by
      simp [marks, List.replicate_succ']
    rw [behind, ih]
    dsimp only [marked]
    rw [hmarked, ← hmarks]
    exact congrArg Prod.snd hround

theorem conditionAt_marked (i : Nat) :
    (a.marked c d).conditionAt i
      = ((a.conditionAt i).1, ⟨(a.conditionAt i).2.tags, a.marks c d i ++ [c]⟩) := by
  rw [conditionAt, behind_marked hcondition hcode]
  exact hcondition.runFrom_marked c a.host (a.behind i) (a.marks c d i)

theorem codeAt_marked (i : Nat) : ((a.marked c d).codeAt i).1 = (a.codeAt i).1 := by
  have hround := hcode.runFrom_marked d a.host (a.codeEntry i) (a.marks c d i ++ [c])
  have hresult := congrArg Prod.fst hround
  rw [codeAt, codeEntry, conditionAt_marked hcondition hcode]
  exact hresult

theorem ends_marked : (a.marked c d).Ends = a.Ends := by
  funext i
  rw [Ends, conditionAt_marked hcondition hcode, Ends]

theorem Succeeds.marked (h : a.Succeeds k) : (a.marked c d).Succeeds k where
  condition i hi := by
    rw [conditionAt_marked hcondition hcode]
    exact h.condition i hi
  code i hi := by
    rw [codeAt_marked hcondition hcode]
    exact h.code i hi

end Marks

end Alternation

/-! ## Calls -/

/-- The rounds that a call of `while` makes. -/
def alternation (host : Host) (condition code : Eval String) (position : Position) (s : RunState) :
    Alternation :=
  ⟨host, condition, code, s.enter ⟨"while", position⟩⟩

section Calls

variable {r : Registry} {condition code : Argument} {position : Position}

theorem call_while (hr : r.find? "while" = standard.find? "while") :
    r.call "while" [condition, code] position
      = Eval.inFrame ⟨"while", position⟩ (Control.whileLoop [condition, code]) := by
  rw [Registry.call, hr, find?_standard]
  exact if_pos rfl

theorem call_while_idle (hr : r.find? "while" = standard.find? "while")
    (hblank : condition.isBlank = true ∨ code.isBlank = true) :
    r.call "while" [condition, code] position = pure "" := by
  have hany : [condition, code].any (·.isBlank) = true := by simpa using hblank
  rw [call_while hr, whileLoop_idle rfl hany]
  exact (Eval.SeesOnly.pure "").inFrame_eq _

/-- If nothing fails, the loop leaves what the condition behind its last round left, without the
tags of loops. -/
theorem runFrom_call_while (condition code : Argument)
    (hr : r.find? "while" = standard.find? "while")
    (hfull : (condition.isBlank || code.isBlank) = false) {host : Host} {s : RunState} {k : Nat}
    (hleast : IsLeast {i | (alternation host condition.value code.value position s).Ends i} k)
    (h : (alternation host condition.value code.value position s).Succeeds k) :
    let behind := ((alternation host condition.value code.value position s).conditionAt k).2
    (r.call "while" [condition, code] position).runFrom host s
      = (.ok "", ⟨behindLoop behind.tags, behind.frames.tail⟩) := by
  intro behind
  have hrounds : (Control.whileRounds condition.value code.value 0 maxRounds).runFrom host
      (s.enter ⟨"while", position⟩) = (.ok (), behind) :=
    Alternation.runFrom_whileRounds hleast h (Nat.zero_add maxRounds) (Nat.zero_le k)
  have hloop : Control.whileLoop [condition, code] = (do
      Control.whileRounds condition.value code.value 0 maxRounds
      Control.endLoop
      return "") := by
    simp only [Control.whileLoop, required, List.getElem?_cons_zero, List.getElem?_cons_succ,
      pure_bind, hfull, Bool.false_eq_true, if_false]
  have hwhole : (Control.whileLoop [condition, code]).runFrom host (s.enter ⟨"while", position⟩)
      = (.ok "", { behind with tags := behindLoop behind.tags }) := by
    rw [hloop, Eval.runFrom_bind_ok hrounds]
    exact Eval.runFrom_bind_ok (runFrom_endLoop host behind)
  rw [call_while hr]
  exact Eval.runFrom_inFrame_of_eq hwhole

end Calls

/-- A loop with a condition and a code, if one of which nothing is written, does nothing at all.
Otherwise, if nothing fails, it makes `k` rounds, where `k` is the least number of rounds behind
which the condition has no value, but at most a thousand. In each the code starts with the count of
the round and with the other tags as the condition left them, and the loop leaves the other tags as
the last condition did. If each evaluation leaves a mark, the marks are those of the condition and
of the code `k` times by turns, and of the condition. Both may call the functions of the library and
any others that do no more than those can. -/
theorem while_repeats {r : Registry} (hr : r.find? "while" = standard.find? "while")
    (hf : ∀ f ∈ r.functions, f.implementation.OnlyEvaluates) (condition code : Tree)
    (position : Position) :
    (condition = [] ∨ code = [] → ∀ x y,
      r.call "while" [⟨condition, x⟩, ⟨code, y⟩] position = pure "") ∧
    (condition ≠ [] → code ≠ [] → ∀ host s,
      let a := alternation host (evalTree r condition) (evalTree r code) position s
      ∃ k, IsLeast {i | (a.conditionAt i).1 = .ok "" ∨ i = 1000} k ∧
        (∀ i < k, (a.codeEntry i).tags.get (internalName loopCount) = toString (i + 1) ∧
          ∀ name, storageName name ≠ storageName (internalName loopCount) →
            (a.codeEntry i).tags.values? name = (a.conditionAt i).2.tags.values? name) ∧
        (a.Succeeds k → ∃ after, after = behindLoop (a.conditionAt k).2.tags ∧
          WithoutLoopTags after ∧
          ((Node.call "while" [condition, code] position).eval r).runFrom host s
            = (.ok "", ⟨after, s.frames⟩) ∧
          ∀ c d, (r.call "while" [⟨condition, (evalTree r condition).marked c⟩,
              ⟨code, (evalTree r code).marked d⟩] position).runFrom host s
            = (.ok "", ⟨after, s.frames ++ ((List.replicate k [c, d]).flatten ++ [c])⟩))) := by
  constructor
  · intro hblank x y
    refine call_while_idle hr ?_
    simpa [Argument.isBlank] using hblank
  intro hcondition hcode host s a
  have hsees (t : Tree) : (evalTree r t).SeesOnly [] :=
    seesOnly_evalTree t fun _ _ f hfind => hf f (Registry.mem_of_find? hfind).1
  have hfull : (condition.isEmpty || code.isEmpty) = false := by simp [hcondition, hcode]
  obtain ⟨k, hleast⟩ := a.exists_isLeast_ends
  refine ⟨k, hleast, fun i _ => a.codeEntry_tags i, fun h => ?_⟩
  refine ⟨_, rfl, withoutLoopTags_unset _, ?_, fun c d => ?_⟩
  · let first : Argument := ⟨condition, evalTree r condition⟩
    let second : Argument := ⟨code, evalTree r code⟩
    have hrun : (r.call "while" [first, second] position).runFrom host s
        = (.ok "", ⟨behindLoop (a.conditionAt k).2.tags, (a.conditionAt k).2.frames.tail⟩) :=
      runFrom_call_while first second hr hfull hleast h
    have hframes : (a.conditionAt k).2.frames = ⟨"while", position⟩ :: s.frames :=
      Alternation.frames_conditionAt (hsees condition) (hsees code) k
    simp only [Node.eval, argumentsOf]
    rw [hrun, hframes, List.tail_cons]
  · let first : Argument := ⟨condition, (evalTree r condition).marked c⟩
    let second : Argument := ⟨code, (evalTree r code).marked d⟩
    have hends : (a.marked c d).Ends = a.Ends :=
      Alternation.ends_marked (hsees condition) (hsees code) c d
    have hrun : (r.call "while" [first, second] position).runFrom host s
        = (.ok "", ⟨behindLoop ((a.marked c d).conditionAt k).2.tags,
            ((a.marked c d).conditionAt k).2.frames.tail⟩) :=
      runFrom_call_while first second hr hfull (hends ▸ hleast)
        (h.marked (hsees condition) (hsees code) c d)
    have hmarked := Alternation.conditionAt_marked (a := a) (hsees condition) (hsees code) c d k
    rw [hrun, hmarked, ← List.append_assoc]
    rfl

/-- The code changes what the condition reads, and after two rounds there is nothing left of it. -/
theorem while_repeats_twice :
    let host : Host := ⟨none, ⟨⟨2024, 5, 6⟩, ⟨7, 8, 9, 0⟩, 0⟩⟩
    let s : RunState := ⟨.ofPairs [("a", "x"), ("b", "y")], []⟩
    let condition : Tree := [.tag "a"]
    let code : Tree := [.call "set" [[.text "a"], [.tag "b"]] ⟨1, 12, 11⟩,
      .call "unset" [[.text "b"]] ⟨1, 23, 22⟩]
    let a := alternation host (evalTree standard condition) (evalTree standard code) .start s
    IsLeast {i | (a.conditionAt i).1 = .ok "" ∨ i = 1000} 2 ∧ a.Succeeds 2 ∧
    ∀ c d, (standard.call "while" [⟨condition, (evalTree standard condition).marked c⟩,
        ⟨code, (evalTree standard code).marked d⟩] .start).runFrom host s
      = (.ok "", ⟨.empty, [c, d, c, d, c]⟩) := by
  intro host s condition code a
  obtain ⟨hconditions, hcodes, hgo, hbehind⟩ :
      (∀ i ≤ 2, (a.conditionAt i).1 = .ok (["x", "y", ""].getD i "")) ∧
      (∀ i < 2, (a.codeAt i).1 = .ok "") ∧ (∀ i < 2, (a.conditionAt i).1 ≠ .ok "") ∧
      behindLoop (a.conditionAt 2).2.tags = .empty := by
    simp only [a, evalTree_standard]
    decide +kernel
  have hsucceeds : a.Succeeds 2 :=
    ⟨fun i hi => ⟨_, hconditions i hi⟩, fun i hi => ⟨"", hcodes i hi⟩⟩
  have hleast : IsLeast {i | (a.conditionAt i).1 = .ok "" ∨ i = 1000} 2 := by
    refine ⟨.inl (hconditions 2 le_rfl), fun i hi => ?_⟩
    by_contra hlt
    rcases hi with hnone | hmax
    · exact hgo i (by omega) hnone
    · omega
  have hstandard : ∀ f ∈ standard.functions, f.implementation.OnlyEvaluates :=
    fun f hf => Implementation.onlyEvaluates_of_standard ⟨f, hf, rfl⟩
  have hnotBlank : condition ≠ [] ∧ code ≠ [] := ⟨by simp [condition], by simp [code]⟩
  refine ⟨hleast, hsucceeds, fun c d => ?_⟩
  obtain ⟨k, hk, -, hrun⟩ :=
    (while_repeats rfl hstandard condition code .start).2 hnotBlank.1 hnotBlank.2 host s
  obtain rfl : k = 2 := hk.unique hleast
  obtain ⟨after, rfl, -, -, hmarked⟩ := hrun hsucceeds
  rw [hmarked, hbehind]
  rfl

end Retag.Library

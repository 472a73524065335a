import Retag.Library.Conventions
import Retag.ValueList

/-!
# Branches and loops

These functions decide themselves which arguments are evaluated and how often. Loops keep their
count, and loops over lists the current value, in two hidden tags that are gone when a loop ends.
They end quietly after a thousand rounds.
-/

namespace Retag.Library

open Script

def loopCount : String := "_loop_count"

def loopValue : String := "_loop_value"

/-- The most rounds that a loop makes. -/
def maxRounds : Nat := 1000

/-- The list that an argument stands for. With the default separator a lone tag is its values as they
are stored; anything else is split. The separator is evaluated first. -/
def listOf (multi : Argument) (separator : Option Argument) : Eval ValueList := do
  let separator ← match separator with
    | some a => a.value
    | none => pure joiner
  match if separator = joiner then Tree.singleTag? multi.tree else none with
  | some name => return .ofTag (← Eval.tags) name
  | none => return .ofText (← multi.value) separator

namespace Control

def branch (args : List Argument) : Eval String := do
  let condition ← (← required args 0).value
  if condition.isEmpty then
    match args[2]? with
    | some other => other.value
    | none => return ""
  else (← required args 1).value

/-- The value of the first argument that is not empty. -/
def firstFilled : List Argument → Eval String
  | [] => return ""
  | a :: rest => do
    let v ← a.value
    if v.isEmpty then firstFilled rest else return v

/-- Removes the two tags of a loop. -/
def endLoop : Eval Unit := do
  Eval.unsetTag loopCount
  Eval.unsetTag loopValue

/-- Starts round `i` of a loop over a list. -/
def startRound (i : Nat) (value : String) : Eval Unit := do
  Eval.setTag loopCount (toString i)
  Eval.setTag loopValue value

/-- Runs `code` for each value, with `i` rounds before, and returns its values. -/
def rounds (code : Eval String) (i : Nat) : List String → Eval (List String)
  | [] => return []
  | value :: rest => do
    startRound (i + 1) value
    let result ← code
    return result :: (← rounds code (i + 1) rest)

def forEach (args : List Argument) : Eval String := do
  let list ← listOf (← required args 0) args[2]?
  let code ← required args 1
  let _ ← rounds code.value 0 (list.values.take maxRounds)
  endLoop
  return ""

/-- Replaces the first values by what the code makes of them; later ones stay. -/
def map (args : List Argument) : Eval String := do
  let list ← listOf (← required args 0) args[2]?
  let code ← required args 1
  let results ← rounds code.value 0 (list.values.take maxRounds)
  endLoop
  return ValueList.text { list with values := results ++ list.values.drop maxRounds }

/-- Runs `code` while `condition` is true, at most `left` times, with `i` rounds before. -/
def whileRounds (condition code : Eval String) (i : Nat) : Nat → Eval Unit
  | 0 => do
    let _ ← condition
  | left + 1 => do
    let go ← condition
    if go.isEmpty then return ()
    else
      Eval.setTag loopCount (toString (i + 1))
      let _ ← code
      whileRounds condition code (i + 1) left

def whileLoop (args : List Argument) : Eval String := do
  let condition ← required args 0
  let code ← required args 1
  if condition.isBlank || code.isBlank then return ""
  else
    whileRounds condition.value code.value 0 maxRounds
    endLoop
    return ""

end Control

/-- Branches and loops. -/
def controlFunctions : List Function := [
  ⟨"if", .lazy Control.branch, .between 2 3,
    "`$if(if,then,else)`\n\n"
      ++ "If `if` is not empty, returns `then`, otherwise returns `else`."⟩,
  ⟨"if2", .lazy Control.firstFilled, .any,
    "`$if2(a1,a2,a3,...)`\n\n"
      ++ "Returns the first non-empty argument."⟩,
  ⟨"noop", .lazy fun _ => return "", .any,
    "`$noop(...)`\n\n"
      ++ "Does nothing. Arguments are not evaluated, so it can comment out a block of "
      ++ "code."⟩,
  ⟨"foreach", .lazy Control.forEach, .between 2 3,
    "`$foreach(name,code,separator=\"; \")`\n\n"
      ++ "Iterates over each element in the multi-value `name`, executing `code`. "
      ++ "`%_loop_count%` holds the 1-based iteration and `%_loop_value%` the element."⟩,
  ⟨"while", .lazy Control.whileLoop, .exactly 2,
    "`$while(condition,code)`\n\n"
      ++ "Executes `code` repeatedly while `condition` is not empty. `%_loop_count%` "
      ++ "holds the 1-based iteration."⟩,
  ⟨"map", .lazy Control.map, .between 2 3,
    "`$map(name,code,separator=\"; \")`\n\n"
      ++ "Replaces each element of the multi-value `name` with the result of `code` and "
      ++ "returns the new list. Empty results are dropped."⟩]

end Retag.Library

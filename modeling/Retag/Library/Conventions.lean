import Retag.Script.Eval

/-!
# Conventions of the function library

A text is true when it is not empty, and a test answers `1` or nothing. Functions on texts read their
arguments by place; asking for one that the call does not have is an error, which no function of the
library makes for the argument counts it is registered with.
-/

namespace Retag.Library

open Script

def truth (b : Bool) : String := if b then "1" else ""

/-- The argument at a place. -/
def required (args : List α) (index : Nat) : Eval α := do
  match args[index]? with
  | some a => return a
  | none => throw (← Eval.errorHere (.missingArgument · index))

/-- The argument at a place; empty if the call does not have it. -/
def optional (args : List String) (index : Nat) : String := args.getD index ""

/-- A function of its first argument. -/
def ofOne (f : String → String) : Implementation :=
  .eager fun args => return f (← required args 0)

/-- A function of its first two arguments. -/
def ofTwo (f : String → String → String) : Implementation :=
  .eager fun args => do
    let a ← required args 0
    let b ← required args 1
    return f a b

/-- A function of its first three arguments. -/
def ofThree (f : String → String → String → String) : Implementation :=
  .eager fun args => do
    let a ← required args 0
    let b ← required args 1
    let c ← required args 2
    return f a b c

/-- A function of all its arguments. -/
def ofAll (f : List String → String) : Implementation := .eager fun args => return f args

/-- A function of its first argument and the others. -/
def ofFirst (f : String → List String → String) : Implementation :=
  .eager fun args => return f (← required args 0) args.tail

end Retag.Library

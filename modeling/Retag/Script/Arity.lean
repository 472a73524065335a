/-!
# Argument counts

How many arguments a function takes: at least a minimum, and at most a maximum if there is one.
-/

namespace Retag.Script

structure Arity where
  min : Nat
  max : Option Nat
  deriving DecidableEq, Repr

namespace Arity

def exactly (n : Nat) : Arity := ⟨n, some n⟩

def between (min max : Nat) : Arity := ⟨min, some max⟩

def atLeast (min : Nat) : Arity := ⟨min, none⟩

def any : Arity := atLeast 0

def accepts (a : Arity) (count : Nat) : Bool :=
  a.min ≤ count && (a.max.map fun m => decide (count ≤ m)).getD true

/-- In words. -/
def text (a : Arity) : String :=
  match a.max with
  | none => "at least " ++ toString a.min
  | some max =>
    if max = a.min then "exactly " ++ toString max
    else "between " ++ toString a.min ++ " and " ++ toString max

end Arity
end Retag.Script

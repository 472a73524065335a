import Retag.Script.Position

/-!
# Reading heads

A cursor stands between two characters of a script. It moves one character on, and the most recent
move can be taken back once. Moving on at the end of the script changes nothing.
-/

namespace Retag.Script

structure Cursor where
  /-- What is still to be read. -/
  rest : List Char
  position : Position
  /-- What was to be read before the most recent move, and where. -/
  undo : Option (List Char × Position)

namespace Cursor

def ofText (text : String) : Cursor := ⟨text.toList, .start, none⟩

/-- The next character. -/
def peek (c : Cursor) : Option Char := c.rest.head?

def atEnd (c : Cursor) : Bool := c.rest.isEmpty

/-- Takes the next character. -/
def advance (c : Cursor) : Option Char × Cursor :=
  match c.rest with
  | [] => (none, c)
  | ch :: rest => (some ch, ⟨rest, c.position.after ch, some (c.rest, c.position)⟩)

/-- Takes the most recent move back. -/
def pushback (c : Cursor) : Cursor :=
  match c.undo with
  | none => c
  | some (rest, position) => ⟨rest, position, none⟩

/-- Folds `step` over the characters from `position` on, each with its place. -/
def foldFrom (step : σ → Position → Char → Except ε σ) :
    σ → Position → List Char → Except ε (σ × Position)
  | state, position, [] => .ok (state, position)
  | state, position, ch :: rest =>
    match step state position ch with
    | .ok state => foldFrom step state (position.after ch) rest
    | .error e => .error e

/-- Reads to the end: folds `step` over the characters, and returns where the end is. -/
def fold (step : σ → Position → Char → Except ε σ) (state : σ) (c : Cursor) :
    Except ε (σ × Position) :=
  foldFrom step state c.position c.rest

/-- Folding is advancing one character and folding on. -/
theorem fold_eq (step : σ → Position → Char → Except ε σ) (state : σ) (c : Cursor) :
    fold step state c = match c.advance with
      | (none, c) => .ok (state, c.position)
      | (some ch, next) => match step state c.position ch with
        | .ok state => fold step state next
        | .error e => .error e := by
  obtain ⟨rest, position, undo⟩ := c
  cases rest <;> rfl

end Cursor
end Retag.Script

/-!
# Places in a script

Lines and columns count from 1, offsets from 0, all in code points.
-/

namespace Retag.Script

structure Position where
  line : Nat
  column : Nat
  offset : Nat
  deriving DecidableEq, Repr

namespace Position

def start : Position := ⟨1, 1, 0⟩

/-- The place after a character. -/
def after (p : Position) (c : Char) : Position :=
  if c = '\n' then ⟨p.line + 1, 1, p.offset + 1⟩ else ⟨p.line, p.column + 1, p.offset + 1⟩

/-- The place after a text. -/
def afterAll (p : Position) (cs : List Char) : Position := cs.foldl after p

/-- Line and column with a colon between. -/
def text (p : Position) : String := toString p.line ++ ":" ++ toString p.column

end Position
end Retag.Script

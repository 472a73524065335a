/-!
# Index and slice arithmetic

Sequences are indexed by integers: a negative index counts from the end. Single indexes outside the
sequence select nothing; slice bounds outside it move to its nearer end.
-/

namespace Retag.Text

/-- The place that `index` denotes in a sequence of length `len`. -/
def resolveIndex (len : Nat) (index : Int) : Option Nat :=
  if index < 0 then
    if index.natAbs ≤ len then some (len - index.natAbs) else none
  else if index.toNat < len then some index.toNat else none

/-- A slice bound as a place between `0` and `len`. -/
def clampBound (len : Nat) (bound : Int) : Nat :=
  if bound < 0 then len - bound.natAbs else min bound.toNat len

/-- The first place and the place after the last that `[start:stop]` selects. -/
def sliceRange (len : Nat) (start stop : Option Int) : Nat × Nat :=
  let first := (start.map (clampBound len)).getD 0
  let last := (stop.map (clampBound len)).getD len
  (first, max first last)

/-- The elements from `start` up to, not including, `stop`. -/
def slice (start stop : Option Int) (xs : List α) : List α :=
  let (first, last) := sliceRange xs.length start stop
  (xs.drop first).take (last - first)

/-- The characters from `start` up to, not including, `stop`. -/
def sliceText (start stop : Option Int) (text : String) : String :=
  String.ofList (slice start stop text.toList)

end Retag.Text

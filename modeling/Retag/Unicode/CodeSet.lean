import Retag.Unicode.Table

/-!
# Sets of code points

A set is kept as the sorted places where membership turns over, so a character is inside when an odd
number of turns lies at or below it. Sets that a pattern may ask for are kept with their names.
-/

namespace Retag.Unicode

/-- The sorted places where membership changes, starting from outside. -/
structure CodeSet where
  turns : Array Nat

namespace CodeSet

/-- Reads the distances between consecutive turns. -/
def ofGaps (text : String) : CodeSet :=
  ⟨(Table.sums 0 ((Table.readRuns text).map (·.2))).toArray⟩

def contains (s : CodeSet) (c : Char) : Bool :=
  Table.rank s.turns c.toNat % 2 == 1

/-- The number of separate ranges. -/
def ranges (s : CodeSet) : Nat := (s.turns.size + 1) / 2

/-- Whether `c` is in the set after the code points of `changes` went in or out of it. -/
def containsRevised (s changes : CodeSet) (c : Char) : Bool :=
  s.contains c != changes.contains c

end CodeSet

/-- A set and the names that it goes by, in lower case without separators. -/
structure NamedSet where
  names : List String
  members : CodeSet

/-- The first of the sets that goes by a given name. -/
def NamedSet.find? (sets : List NamedSet) (name : String) : Option CodeSet :=
  (sets.find? (·.names.contains name)).map (·.members)

end Retag.Unicode

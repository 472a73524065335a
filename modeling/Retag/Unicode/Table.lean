/-!
# Table texts

Character data is kept as text: words between blanks and line ends, each a label followed by a
decimal number. This module reads such words and looks a number up among sorted starting points.
-/

namespace Retag.Unicode.Table

/-- The words between blanks and line ends. -/
def words (text : List Char) : List (List Char) :=
  (text.foldr (fun c ws =>
    if c = ' ' || c = '\n' then [] :: ws else
      match ws with
      | [] => [[c]]
      | w :: ws => (c :: w) :: ws) [[]]).filter (!·.isEmpty)

/-- The number that a run of decimal digits denotes. -/
def number (digits : List Char) : Nat :=
  digits.foldl (fun n c => 10 * n + (c.toNat - 48)) 0

/-- A word cut before its first digit: the label and the number after it. -/
def labelled (word : List Char) : String × Nat :=
  (String.ofList (word.takeWhile fun c => !c.isDigit), number (word.dropWhile fun c => !c.isDigit))

/-- All labelled numbers of a text. -/
def readRuns (text : String) : List (String × Nat) :=
  (words text.toList).map labelled

/-- All bare numbers of a text; a leading `-` makes a number negative. -/
def readInts (text : String) : List Int :=
  (words text.toList).map fun w =>
    match w with
    | '-' :: digits => -(number digits : Int)
    | digits => (number digits : Int)

/-- Running sums: turns run lengths into the positions where the runs end. -/
def sums : Nat → List Nat → List Nat
  | _, [] => []
  | n, k :: ks => (n + k) :: sums (n + k) ks

/-- How many of the sorted `starts` lie at or below `n`: halves `[lo, hi)` at most `fuel` times. -/
def rankIn (starts : Array Nat) (n : Nat) : Nat → Nat → Nat → Nat
  | 0, lo, _ => lo
  | fuel + 1, lo, hi =>
    if lo < hi then
      let mid := (lo + hi) / 2
      if starts.getD mid 0 ≤ n then rankIn starts n fuel (mid + 1) hi
      else rankIn starts n fuel lo mid
    else lo

/-- How many of the sorted `starts` lie at or below `n`. -/
def rank (starts : Array Nat) (n : Nat) : Nat :=
  rankIn starts n starts.size 0 starts.size

end Retag.Unicode.Table

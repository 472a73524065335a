import Retag.Regex.Parser
import Retag.Regex.Program

/-!
# Searching

A search runs all partial matches side by side, in order of preference, and at most one for each
instruction, so that its time is bounded by the product of the lengths of pattern and text. The first
partial match to finish cuts off those that it is preferred to.
-/

namespace Retag.Regex

/-- What a partial match remembers: the ends of the groups it has passed. -/
abbrev Slots := Array (Option Nat)

/-- A partial match that waits at an instruction. -/
structure Thread where
  pc : Nat
  slots : Slots

/-- Threads in order of preference, and for each instruction the last place it was reached at, plus
one. -/
structure Threads where
  marks : Array Nat
  waiting : Array Thread

namespace Program

/-- Runs all instructions that take no character, starting from `stack`, at place `at`. Every
instruction is entered once for each place, so twice the size of the code is enough fuel. -/
def follow (p : Program) (place : Nat) (before after : Option Char) :
    Nat → List Thread → Threads → Threads
  | 0, _, ts => ts
  | _ + 1, [], ts => ts
  | fuel + 1, t :: stack, ⟨marks, waiting⟩ =>
    if marks.getD t.pc 0 == place + 1 then p.follow place before after fuel stack ⟨marks, waiting⟩
    else
      let marks := marks.setIfInBounds t.pc (place + 1)
      match p.code[t.pc]? with
      | none => p.follow place before after fuel stack ⟨marks, waiting⟩
      | some (.look l next) =>
        let stack := if l.holds before after then ⟨next, t.slots⟩ :: stack else stack
        p.follow place before after fuel stack ⟨marks, waiting⟩
      | some (.choice first second) =>
        p.follow place before after fuel (⟨first, t.slots⟩ :: ⟨second, t.slots⟩ :: stack)
          ⟨marks, waiting⟩
      | some (.save slot next) =>
        p.follow place before after fuel (⟨next, t.slots.setIfInBounds slot (some place)⟩ :: stack)
          ⟨marks, waiting⟩
      | some (.char _ _) | some .done =>
        p.follow place before after fuel stack ⟨marks, waiting.push t⟩

/-- Fuel for `follow`. -/
def fuel (p : Program) : Nat := 2 * p.code.size + 2

/-- Lets the waiting threads take `c`, in order of preference; a finished one is the match so far
and ends the round. -/
def advance (p : Program) (place : Nat) (c after : Option Char) :
    List Thread → Threads → Option Slots → Threads × Option Slots
  | [], ts, found => (ts, found)
  | t :: rest, ts, found =>
    match p.code[t.pc]? with
    | some .done => (ts, some t.slots)
    | some (.char s next) =>
      match c with
      | some c =>
        if s.mem c then
          p.advance place (some c) after rest
            (p.follow (place + 1) (some c) after p.fuel [⟨next, t.slots⟩] ts) found
        else p.advance place (some c) after rest ts found
      | none => p.advance place none after rest ts found
    | _ => p.advance place c after rest ts found

/-- Searches from `place` on, with `left` characters still to come. -/
def run (p : Program) (text : Array Char) (empty : Slots) :
    Nat → Nat → Threads → Option Slots → Option Slots
  | left, place, ts, found =>
    let before := if place = 0 then none else text[place - 1]?
    let here := text[place]?
    let ts := if found.isSome then ts
      else p.follow place before here p.fuel [⟨p.start, empty⟩] ts
    if ts.waiting.isEmpty && found.isSome then found
    else
      let (ts, found) := p.advance place here text[place + 1]? ts.waiting.toList
        { ts with waiting := #[] } found
      match left with
      | 0 => found
      | left + 1 => p.run text empty left (place + 1) ts found

end Program

/-- A match: the ends of its groups. -/
structure Captures where
  slots : Slots

namespace Captures

/-- Where group `i` starts and ends. -/
def span? (m : Captures) (i : Nat) : Option (Nat × Nat) :=
  match m.slots.getD (2 * i) none, m.slots.getD (2 * i + 1) none with
  | some a, some b => some (a, b)
  | _, _ => none

/-- The text of group `i`. -/
def text? (m : Captures) (text : Array Char) (i : Nat) : Option String :=
  (m.span? i).map fun (a, b) => String.ofList (text.extract a b).toList

end Captures

namespace Program

/-- The program of a pattern, if it is well formed. -/
def compile? (pattern : String) : Option Program :=
  (Pattern.parse? pattern).map fun (r, names) => ofPattern r names

/-- The leftmost match that starts at `place` or later, by order of preference. -/
def search (p : Program) (text : Array Char) (place : Nat) : Option Captures :=
  if text.size < place then none
  else
    let empty : Slots := Array.replicate (2 * p.groups) none
    let marks := Array.replicate p.code.size 0
    (p.run text empty (text.size - place) place ⟨marks, #[]⟩ none).map (⟨·⟩)

/-- Whether the pattern occurs in a text. -/
def isMatch (p : Program) (text : String) : Bool :=
  (p.search text.toList.toArray 0).isSome

/-- All matches from the left; an empty match right after another match does not count. `last` is
the end of the match before. -/
def matchesFrom (p : Program) (text : Array Char) :
    Nat → Nat → Option Nat → List Captures
  | 0, _, _ => []
  | fuel + 1, place, last =>
    let found := p.search text place
    let found := match found.bind (·.span? 0) with
      | some (a, b) => if a = b && some b = last then p.search text (place + 1) else found
      | none => none
    match found with
    | none => []
    | some m =>
      match m.span? 0 with
      | none => []
      | some (_, b) => m :: p.matchesFrom text fuel b (some b)

/-- All matches from the left. -/
def findAll (p : Program) (text : Array Char) : List Captures :=
  p.matchesFrom text (text.size + 2) 0 none

end Program
end Retag.Regex

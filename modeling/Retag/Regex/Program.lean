import Retag.Regex.Syntax

/-!
# Compiled patterns

A pattern compiles to a program: instructions that each name their successors. It is built from the
end, so an expression is compiled against the place to go on at. A choice prefers its first
successor.
-/

namespace Retag.Regex

/-- One instruction. -/
inductive Instruction where
  /-- Take one character of the class. -/
  | char (s : CharClass) (next : Nat)
  /-- Go on if the condition holds here. -/
  | look (l : Look) (next : Nat)
  /-- Try `first`, and `second` if that fails. -/
  | choice (first second : Nat)
  /-- Remember this place in a slot. -/
  | save (slot : Nat) (next : Nat)
  | done

abbrev Code := Array Instruction

/-- A choice between another round and going on. -/
def roundOr (greedy : Bool) (round next : Nat) : Instruction :=
  if greedy then .choice round next else .choice next round

/-- `n` times `f`. -/
def times (f : α → α) : Nat → α → α
  | 0, a => a
  | n + 1, a => times f n (f a)

namespace Pattern

/-- Adds the instructions for a match that then goes on at `next`, and returns where they start. A
body that may match nothing is compiled as one round or none, then further rounds, so that the order
of preference is that of the rounds. -/
def compile : Pattern → Nat → Code → Nat × Code
  | .empty, next, code => (next, code)
  | .char s, next, code => (code.size, code.push (.char s next))
  | .look l, next, code => (code.size, code.push (.look l next))
  | .seq a b, next, code =>
    let (mid, code) := b.compile next code
    a.compile mid code
  | .alt a b, next, code =>
    let (first, code) := a.compile next code
    let (second, code) := b.compile next code
    (code.size, code.push (.choice first second))
  | .capture i body, next, code =>
    let closing := code.size
    let (inner, code) := body.compile closing (code.push (.save (2 * i + 1) next))
    (code.size, code.push (.save (2 * i) inner))
  | .repeat body min none greedy, next, code =>
    let again := code.size
    let (round, code) := body.compile again (code.push .done)
    let code := code.setIfInBounds again (roundOr greedy round next)
    if min = 0 then
      if body.consumes then (again, code)
      else (code.size, code.push (roundOr greedy round next))
    else times (fun (next, code) => body.compile next code) (min - 1) (round, code)
  | .repeat body min (some max) greedy, next, code =>
    let optional := times (fun (inner, code) =>
      let (round, code) := body.compile inner code
      (code.size, code.push (roundOr greedy round next))) (max - min) (next, code)
    times (fun (next, code) => body.compile next code) min optional

end Pattern

/-- A compiled pattern. -/
structure Program where
  code : Code
  start : Nat
  /-- The number of groups, the whole match among them. -/
  groups : Nat
  names : List (String × Nat)

namespace Program

/-- Compiles an expression as group 0. -/
def ofPattern (r : Pattern) (names : List (String × Nat)) : Program :=
  let (start, code) := (Pattern.capture 0 r).compile 0 #[.done]
  { code, start, groups := r.lastGroup + 1, names }

end Program
end Retag.Regex

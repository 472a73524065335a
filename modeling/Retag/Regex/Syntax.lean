import Retag.Regex.CharClass

/-!
# Regular expressions

The tree of a pattern with all flags resolved. Alternatives are tried from the left, a greedy
repetition tries another round first, and a capturing group remembers its last round.
-/

namespace Retag.Regex

/-- Conditions on a place between two characters. -/
inductive Look where
  | textStart
  | textEnd
  | lineStart
  | lineEnd
  /-- Line ends may be a carriage return, a line feed, or the two together. -/
  | crlfStart
  | crlfEnd
  | wordBoundary (unicode : Bool)
  | notWordBoundary (unicode : Bool)
  | wordStart (unicode : Bool)
  | wordEnd (unicode : Bool)
  | wordStartHalf (unicode : Bool)
  | wordEndHalf (unicode : Bool)

namespace Look

/-- Whether a neighbouring character belongs to a word; the ends of the text do not. -/
def inWord (unicode : Bool) : Option Char → Bool
  | none => false
  | some c => if unicode then CharClass.isWordChar c else CharClass.isAsciiWordChar c

/-- Whether the place between two neighbours satisfies the condition. -/
def holds (before after : Option Char) : Look → Bool
  | .textStart => before.isNone
  | .textEnd => after.isNone
  | .lineStart => before.isNone || before == some '\n'
  | .lineEnd => after.isNone || after == some '\n'
  | .crlfStart =>
    before.isNone || before == some '\n' || (before == some '\r' && after != some '\n')
  | .crlfEnd =>
    after.isNone || after == some '\r' || (after == some '\n' && before != some '\r')
  | .wordBoundary u => inWord u before != inWord u after
  | .notWordBoundary u => inWord u before == inWord u after
  | .wordStart u => !inWord u before && inWord u after
  | .wordEnd u => inWord u before && !inWord u after
  | .wordStartHalf u => !inWord u before
  | .wordEndHalf u => !inWord u after

end Look

/-- Regular expressions. -/
inductive Pattern where
  | empty
  | char (s : CharClass)
  | look (l : Look)
  | seq (a b : Pattern)
  | alt (a b : Pattern)
  /-- From `min` to `max` rounds, without a bound if there is no `max`. -/
  | repeat (body : Pattern) (min : Nat) (max : Option Nat) (greedy : Bool)
  | capture (index : Nat) (body : Pattern)

namespace Pattern

/-- Every match takes at least one character. -/
def consumes : Pattern → Bool
  | .empty | .look _ => false
  | .char _ => true
  | .seq a b => a.consumes || b.consumes
  | .alt a b => a.consumes && b.consumes
  | .repeat body min _ _ => min ≠ 0 && body.consumes
  | .capture _ body => body.consumes

/-- No match takes a character. -/
def isEmptyOnly : Pattern → Bool
  | .empty | .look _ => true
  | .char _ => false
  | .seq a b | .alt a b => a.isEmptyOnly && b.isEmptyOnly
  | .repeat body _ _ _ | .capture _ body => body.isEmptyOnly

/-- A repetition in its simplest form: a body that takes no character is never repeated, no rounds
are the empty expression and one round is the body. -/
def mkRepeat (body : Pattern) (min : Nat) (max : Option Nat) (greedy : Bool) : Pattern :=
  let (min, max) := if body.isEmptyOnly then (Nat.min min 1, some (Nat.min (max.getD 1) 1))
    else (min, max)
  if max = some 0 then .empty
  else if min = 1 && max = some 1 then body
  else .repeat body min max greedy

/-- The highest index of a capturing group; group 0 is the whole match. -/
def lastGroup : Pattern → Nat
  | .empty | .look _ | .char _ => 0
  | .seq a b | .alt a b => max a.lastGroup b.lastGroup
  | .repeat body _ _ _ => body.lastGroup
  | .capture i body => max i body.lastGroup

/-- Estimated bytes of the compiled form. -/
def weight : Pattern → Nat
  | .empty => 32
  | .look _ => 32
  | .char s => s.weight
  | .seq a b => a.weight + b.weight
  | .alt a b => a.weight + b.weight + 40
  | .repeat body min max _ => 40 + match max with
    | none => (Nat.max min 1) * body.weight
    | some max => min * body.weight + (max - min) * (body.weight + 40)
  | .capture _ body => body.weight + 64

end Pattern
end Retag.Regex

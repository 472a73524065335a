import Retag.Script.Cursor
import Retag.Script.Error
import Retag.Script.Tree

/-!
# Reading scripts

A script is read in one pass, one character a step. The state holds the calls that are open, innermost
first, and what has been read of the innermost script or argument. A step never looks ahead, so an
error stands whatever follows, and only the end of the script can show that something is missing.

In an argument an open parenthesis in text starts a group, which runs to its closing parenthesis and
keeps commas as text. At the top a script has no groups and an open parenthesis is an error.
-/

namespace Retag.Script

namespace Parser

/-- A script or argument as far as it has been read: the nodes, last first; the characters of the text
that the last of them is followed by, last first; and how many groups are open. -/
structure Draft where
  nodes : List Node := []
  run : List Char := []
  groups : Nat := 0

namespace Draft

/-- Adds a character of text. -/
def push (d : Draft) (c : Char) : Draft := { d with run := c :: d.run }

/-- Ends a run of text; an empty run is no node. -/
def endRun (d : Draft) : Draft :=
  if d.run.isEmpty then d
  else { d with nodes := .text (String.ofList d.run.reverse) :: d.nodes, run := [] }

/-- Ends a run of text and adds a node. -/
def add (d : Draft) (n : Node) : Draft := { d.endRun with nodes := n :: d.endRun.nodes }

/-- The tree that has been read. -/
def tree (d : Draft) : Tree := d.endRun.nodes.reverse

end Draft

/-- A call that is open: its finished arguments, last first, and the draft that it stands in. -/
structure OpenCall where
  name : String
  arity : Arity
  position : Position
  args : List Tree
  outer : Draft

/-- What the next character belongs to. -/
inductive Mode where
  | plain
  /-- After a backslash. -/
  | escape
  /-- In the four characters after `\u`, which start at `first`. -/
  | unicode (first : Position) (digits : List Char)
  /-- In the name of a tag; `colon` once it has one. -/
  | tag (name : List Char) (colon : Bool)
  /-- In the name of a function whose dollar sign stands at `dollar`. -/
  | function (name : List Char) (dollar : Position)

/-- The state of the reader. -/
structure State where
  calls : List OpenCall := []
  draft : Draft := {}
  mode : Mode := .plain

def isNameChar (c : Char) : Bool := c.isAlphanum || c == '_'

/-- The characters that a backslash makes literal. -/
def isSpecial (c : Char) : Bool :=
  c == '$' || c == '%' || c == '(' || c == ')' || c == ',' || c == '\\'

def hexValue? (c : Char) : Option Nat :=
  if c.isDigit then some (c.toNat - 48)
  else if 'a' ≤ c && c ≤ 'f' then some (c.toNat - 87)
  else if 'A' ≤ c && c ≤ 'F' then some (c.toNat - 55)
  else none

/-- The character that hexadecimal digits name. -/
def scalar? (digits : List Char) : Option Char := do
  let n ← digits.foldlM (fun n c => (hexValue? c).map (16 * n + ·)) 0
  if n.isValidChar then some (Char.ofNat n) else none

namespace State

/-- Adds a character of text. -/
def push (st : State) (c : Char) : State := { st with draft := st.draft.push c, mode := .plain }

/-- Opens a call, if there is such a function and the nesting allows it. -/
def openCall (arityOf : String → Option Arity) (st : State) (name : String) (dollar : Position) :
    Except ParseError State :=
  match arityOf name with
  | none => .error ⟨.unknownFunction name, dollar⟩
  | some arity =>
    if st.calls.length = maxNesting then .error ⟨.tooDeep name, dollar⟩
    else .ok ⟨⟨name, arity, dollar, [], st.draft⟩ :: st.calls, {}, .plain⟩

/-- The arguments of a call, last first: a lone empty one is none. -/
def arguments (args : List Tree) : List Tree :=
  match args with
  | [[]] => []
  | _ => args.reverse

/-- Ends the last argument of `call` and the call, if the count is right. -/
def closeCall (st : State) (call : OpenCall) (calls : List OpenCall) : Except ParseError State :=
  let args := arguments (st.draft.tree :: call.args)
  if call.arity.accepts args.length then
    .ok ⟨calls, call.outer.add (.call call.name args call.position), .plain⟩
  else .error ⟨.wrongCount call.name call.arity args.length, call.position⟩

/-- A character of a script or argument. -/
def plain (st : State) (position : Position) (c : Char) : Except ParseError State :=
  if c = '\\' then .ok { st with mode := .escape }
  else if c = '$' then .ok { st with draft := st.draft.endRun, mode := .function [] position }
  else if c = '%' then .ok { st with draft := st.draft.endRun, mode := .tag [] false }
  else match st.calls with
    | [] => if c = '(' then .error ⟨.unexpected c, position⟩ else .ok (st.push c)
    | call :: calls =>
      if c = '(' then .ok { st.push c with draft.groups := st.draft.groups + 1 }
      else if st.draft.groups ≠ 0 then
        if c = ')' then .ok { st.push c with draft.groups := st.draft.groups - 1 }
        else .ok (st.push c)
      else if c = ',' then
        .ok { st with
          calls := { call with args := st.draft.tree :: call.args } :: calls, draft := {} }
      else if c = ')' then st.closeCall call calls
      else .ok (st.push c)

/-- The character after a backslash. -/
def escape (st : State) (position : Position) (c : Char) : Except ParseError State :=
  if c = 'n' then .ok (st.push '\n')
  else if c = 't' then .ok (st.push '\t')
  else if c = 'u' then .ok { st with mode := .unicode (position.after c) [] }
  else if isSpecial c then .ok (st.push c)
  else .error ⟨.unexpected c, position⟩

/-- One of the four characters after `\u`, with those before it, last first. -/
def unicode (st : State) (first : Position) (digits : List Char) (c : Char) :
    Except ParseError State :=
  let digits := c :: digits
  if digits.length < 4 then .ok { st with mode := .unicode first digits }
  else match scalar? digits.reverse with
    | some c => .ok (st.push c)
    | none => .error ⟨.notUnicode (String.ofList digits.reverse), first⟩

/-- A character of the name of a tag. -/
def tagName (st : State) (name : List Char) (colon : Bool) (position : Position) (c : Char) :
    Except ParseError State :=
  if c = '%' then
    .ok { st with draft := st.draft.add (.tag (String.ofList name.reverse)), mode := .plain }
  else if c = ':' && !colon then .ok { st with mode := .tag (c :: name) true }
  else if isNameChar c then .ok { st with mode := .tag (c :: name) colon }
  else .error ⟨.unexpected c, position⟩

/-- A character of the name of a function. -/
def functionName (arityOf : String → Option Arity) (st : State) (name : List Char)
    (dollar position : Position) (c : Char) : Except ParseError State :=
  if c = '(' then st.openCall arityOf (String.ofList name.reverse) dollar
  else if isNameChar c then .ok { st with mode := .function (c :: name) dollar }
  else .error ⟨.unexpected c, position⟩

/-- Reads one character. -/
def step (arityOf : String → Option Arity) (st : State) (position : Position) (c : Char) :
    Except ParseError State :=
  match st.mode with
  | .plain => st.plain position c
  | .escape => st.escape position c
  | .unicode first digits => st.unicode first digits c
  | .tag name colon => st.tagName name colon position c
  | .function name dollar => st.functionName arityOf name dollar position c

/-- The tree of a script that ends here; nothing may be open. -/
def finish (st : State) (position : Position) : Except ParseError Tree :=
  match st.mode, st.calls with
  | .plain, [] => .ok st.draft.tree
  | _, _ => .error ⟨.endOfScript, position⟩

end State
end Parser

/-- Reads a script, given the argument counts of the functions there are. -/
def parse (arityOf : String → Option Arity) (source : String) : Except ParseError Tree :=
  match (Cursor.ofText source).fold (Parser.State.step arityOf) {} with
  | .ok (st, position) => st.finish position
  | .error e => .error e

end Retag.Script

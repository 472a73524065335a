import Retag.Regex.Syntax
import Retag.Unicode.Letter

/-!
# Reading regular expressions

Reads a pattern from the left with a stack of open groups. Flags take effect from where they are
set to the end of the enclosing group, so every piece is built with its flags resolved. A pattern
that is not well formed is `none`.
-/

namespace Retag.Regex

open Unicode

/-- The flags in force. -/
structure Flags where
  ignoreCase : Bool := false
  multiLine : Bool := false
  dotNewline : Bool := false
  lazyFirst : Bool := false
  unicode : Bool := true
  crlf : Bool := false
  /-- Blanks and comments in the pattern are passed over. -/
  spaced : Bool := false

namespace Parser

/-- Passes over blanks and `#` comments; `inComment` while in one. -/
def skipBlanks (inComment : Bool) : List Char → List Char
  | [] => []
  | c :: rest =>
    if inComment then skipBlanks (c != '\n') rest
    else if isBlank c then skipBlanks false rest
    else if c == '#' then skipBlanks true rest
    else c :: rest

/-- The rest of the pattern from its next significant character on. -/
def next (f : Flags) (cs : List Char) : List Char := if f.spaced then skipBlanks false cs else cs

/-- One piece outside of groups, repetitions and brackets, or an escape. -/
inductive Atom where
  /-- A character; `coded` if it was written as `\x` and two digits. -/
  | literal (c : Char) (coded : Bool)
  | cls (s : CharClass)
  | look (l : Look)

/-! ## Classes under flags -/

/-- Folds case if the flags ask for it. -/
def foldCase (f : Flags) (s : CharClass) : CharClass :=
  if f.ignoreCase then (if f.unicode then s.fold else s.foldAscii) else s

/-- Folds case, then negates. Without Unicode a class must stay within ASCII. -/
def finish (f : Flags) (negated : Bool) (s : CharClass) : Option CharClass :=
  let s := (foldCase f s).negateIf negated
  if f.unicode || s.isAscii then some s else none

/-- The character that a literal stands for inside a class. -/
def classLiteral (f : Flags) (c : Char) : Option Char :=
  if f.unicode || c.toNat < 128 then some c else none

/-- `\d`, `\s`, `\w` and their negations. -/
def shorthand (f : Flags) (letter : Char) : Option CharClass :=
  let s := match letter.toLower, f.unicode with
    | 'd', true => CharClass.digit
    | 'd', false => CharClass.asciiDigit
    | 's', true => CharClass.space
    | 's', false => CharClass.asciiSpace
    | _, true => CharClass.word
    | _, false => CharClass.asciiWord
  let s := s.negateIf letter.isUpper
  if f.unicode || s.isAscii then some s else none

/-- The class of `\p{…}` with the given text between the braces. -/
def propertyClass (f : Flags) (negated : Bool) (name : List Char) : Option CharClass := do
  guard f.unicode
  let finish (negated : Bool) (s : CharClass) := ((foldCase f s).negateIf negated)
  let rec cutAt (before : List Char) : List Char → Option (List Char × List Char)
    | '!' :: '=' :: rest => some (before.reverse, rest)
    | c :: rest => cutAt (c :: before) rest
    | [] => none
  let cutOn (sep : Char) := (name.takeWhile (· != sep), (name.dropWhile (· != sep)).drop 1)
  match cutAt [] name with
  | some (n, v) => return finish (!negated) (← CharClass.valued? n v)
  | none =>
    if name.contains ':' then
      return finish negated (← CharClass.valued? (cutOn ':').1 (cutOn ':').2)
    else if name.contains '=' then
      return finish negated (← CharClass.valued? (cutOn '=').1 (cutOn '=').2)
    else return finish negated (← CharClass.named? name)

/-! ## Escapes -/

def hexValue? (c : Char) : Option Nat :=
  if c.isDigit then some (c.toNat - 48)
  else if 'a' ≤ c && c ≤ 'f' then some (c.toNat - 87)
  else if 'A' ≤ c && c ≤ 'F' then some (c.toNat - 55)
  else none

/-- The character with a hexadecimal number, if there is one. -/
def charOfHex? (digits : List Char) : Option Char := do
  let n ← digits.foldlM (fun n c => (hexValue? c).map (16 * n + ·)) 0
  if n.isValidChar then some (Char.ofNat n) else none

/-- Exactly `count` more hexadecimal digits. -/
def hexDigits (f : Flags) (digits : List Char) : Nat → List Char → Option (Char × List Char)
  | 0, cs => (charOfHex? digits.reverse).map (·, cs)
  | k + 1, c :: rest => do
    let _ ← hexValue? c
    hexDigits f (c :: digits) k (next f rest)
  | _ + 1, [] => none

/-- Characters up to a closing brace, blanks passed over where flags say so. -/
def untilBrace (f : Flags) (taken : List Char) : Nat → List Char → Option (List Char × List Char)
  | 0, _ => none
  | fuel + 1, cs =>
    match next f cs with
    | [] => none
    | '}' :: rest => some (taken.reverse, rest)
    | c :: rest => untilBrace f (c :: taken) fuel rest

/-- The number of a hexadecimal escape, after its letter. -/
def hexEscape (f : Flags) (size : Nat) (cs : List Char) : Option (Char × Bool × List Char) :=
  match next f cs with
  | [] => none
  | '{' :: rest => do
    let (digits, rest) ← untilBrace f [] (rest.length + 1) rest
    guard (!digits.isEmpty)
    return (← charOfHex? digits, false, next f rest)
  | cs => do
    let (c, rest) ← hexDigits f [] size cs
    return (c, size = 2, rest)

def isNameChar (c : Char) : Bool := c.isAlpha || c == '-'

/-- The letters of a special word boundary. -/
def boundaryName (f : Flags) (taken : List Char) : Nat → List Char → List Char × List Char
  | 0, cs => (taken.reverse, cs)
  | fuel + 1, cs =>
    match cs with
    | c :: rest =>
      if isNameChar c then boundaryName f (c :: taken) fuel (next f rest) else (taken.reverse, cs)
    | [] => (taken.reverse, [])

/-- A word boundary, after `\b`: a name in braces picks a special one; braces that hold no name are
left for a repetition. -/
def boundary (f : Flags) (cs : List Char) : Option (Look × List Char) :=
  let plain := some (Look.wordBoundary f.unicode, cs)
  match cs with
  | '{' :: rest =>
    match next f rest with
    | [] => none
    | c :: rest =>
      if !isNameChar c then plain
      else
        let (name, rest) := boundaryName f [] (rest.length + 1) (c :: rest)
        match rest with
        | '}' :: rest =>
          match String.ofList name with
          | "start" => some (.wordStart f.unicode, rest)
          | "end" => some (.wordEnd f.unicode, rest)
          | "start-half" => some (.wordStartHalf f.unicode, rest)
          | "end-half" => some (.wordEndHalf f.unicode, rest)
          | _ => none
        | _ => none
  | _ => plain

/-- An escape, after its backslash. -/
def escape (f : Flags) : List Char → Option (Atom × List Char)
  | [] => none
  | c :: rest =>
    match c with
    | 'x' => (hexEscape f 2 rest).map fun (c, coded, rest) => (.literal c coded, rest)
    | 'u' => (hexEscape f 4 rest).map fun (c, _, rest) => (.literal c false, rest)
    | 'U' => (hexEscape f 8 rest).map fun (c, _, rest) => (.literal c false, rest)
    | 'p' | 'P' =>
      match next f rest with
      | [] => none
      | '{' :: rest => do
        let (name, rest) ← untilBrace f [] (rest.length + 1) rest
        return (.cls (← propertyClass f (c == 'P') name), rest)
      | '\\' :: _ => none
      | letter :: rest => do
        return (.cls (← propertyClass f (c == 'P') [letter]), next f rest)
    | 'd' | 's' | 'w' | 'D' | 'S' | 'W' => (shorthand f c).map fun s => (.cls s, rest)
    | 'a' => some (.literal (Char.ofNat 7) false, rest)
    | 'f' => some (.literal (Char.ofNat 12) false, rest)
    | 't' => some (.literal '\t' false, rest)
    | 'n' => some (.literal '\n' false, rest)
    | 'r' => some (.literal '\r' false, rest)
    | 'v' => some (.literal (Char.ofNat 11) false, rest)
    | 'A' => some (.look .textStart, rest)
    | 'z' => some (.look .textEnd, rest)
    | 'b' => (boundary f rest).map fun (l, rest) => (.look l, rest)
    | 'B' => some (.look (.notWordBoundary f.unicode), rest)
    | '<' => some (.look (.wordStart f.unicode), rest)
    | '>' => some (.look (.wordEnd f.unicode), rest)
    | _ => if c.toNat < 128 && !c.isAlphanum then some (.literal c false, rest) else none

/-! ## Bracketed classes -/

inductive SetOp where
  | inter
  | diff
  | symmDiff

/-- What has been read of a bracketed class: the members since the last operator, and the operator
with everything before it. -/
structure OpenSet where
  members : List CharClass
  pending : Option (SetOp × CharClass)

namespace OpenSet

/-- The union of the members; the depth counts the union as a level if it has several. -/
def union (members : List CharClass) : CharClass :=
  let s := members.foldr CharClass.union CharClass.none
  { s with depth := if members.length < 2 then s.depth else s.depth + 1 }

/-- Everything read so far as one set. -/
def close (f : Flags) (o : OpenSet) : CharClass :=
  let right := union o.members
  match o.pending with
  | none => right
  | some (op, left) =>
    let (a, b) := (foldCase f left, foldCase f right)
    let s := match op with
      | .inter => a.inter b
      | .diff => a.diff b
      | .symmDiff => a.symmDiff b
    { s with depth := s.depth + 1 }

def add (o : OpenSet) (s : CharClass) : OpenSet := { o with members := s :: o.members }

def operate (f : Flags) (o : OpenSet) (op : SetOp) : OpenSet := ⟨[], some (op, o.close f)⟩

end OpenSet

/-- A class named as in `[:alpha:]`, after its `[`. -/
def posixClass (f : Flags) : List Char → Option (CharClass × List Char)
  | ':' :: rest =>
    let (negated, rest) := match rest with
      | '^' :: rest => (true, rest)
      | _ => (false, rest)
    let name := rest.takeWhile (· != ':')
    match rest.dropWhile (· != ':') with
    | ':' :: ']' :: rest => do
      return (← finish f negated (← CharClass.posix? (String.ofList name)), rest)
    | _ => none
  | _ => none

/-- Whether a text starts like a named class that exists, and so has to be read as one. -/
def isPosixClass : List Char → Bool
  | cs => (posixClass {} cs).isSome

/-- A class member: a literal or an escape. -/
def setItem (f : Flags) : List Char → Option (Atom × List Char)
  | [] => none
  | '\\' :: rest => escape f rest
  | c :: rest => some (.literal c false, rest)

/-- A class made of one atom; conditions on places are no members. -/
def atomClass (f : Flags) : Atom → Option CharClass
  | .literal c _ => (classLiteral f c).map CharClass.single
  | .cls s => some s
  | .look _ => none

/-- The next significant character after the first one. -/
def peekSecond (f : Flags) : List Char → Option Char
  | [] => none
  | _ :: rest =>
    if f.spaced then
      let rest := rest.dropWhile isBlank
      let rest := if rest.head? == some '#' then rest.drop 1 else rest
      (rest.dropWhile isBlank).head?
    else rest.head?

/-- A member or a range of members. -/
def setRange (f : Flags) (cs : List Char) : Option (CharClass × List Char) := do
  let (first, rest) ← setItem f cs
  let rest := next f rest
  guard (!rest.isEmpty)
  let second := peekSecond f rest
  if rest.head? != some '-' || second == some ']' || second == some '-' then
    return (← atomClass f first, rest)
  let rest := next f (rest.drop 1)
  guard (!rest.isEmpty)
  let (last, rest) ← setItem f rest
  match first, last with
  | .literal a _, .literal b _ =>
    guard (a ≤ b)
    return (.range (← classLiteral f a) (← classLiteral f b), rest)
  | _, _ => none

/-- Dashes at the start of a class stand for themselves. -/
def leadingDashes (f : Flags) (members : List CharClass) :
    Nat → List Char → List CharClass × List Char
  | 0, cs => (members, cs)
  | fuel + 1, cs =>
    match cs with
    | '-' :: rest => leadingDashes f (.single '-' :: members) fuel (next f rest)
    | _ => (members, cs)

/-- The start of a class, after its `[`: whether it is negated, and members that only the start
makes literal. -/
def openSet (f : Flags) (cs : List Char) : Option (Bool × OpenSet × List Char) := do
  let cs := next f cs
  let (negated, cs) := match cs with
    | '^' :: rest => (true, next f rest)
    | _ => (false, cs)
  let (members, cs) := leadingDashes f [] cs.length cs
  guard (!cs.isEmpty)
  match members, cs with
  | [], ']' :: rest =>
    let rest := next f rest
    guard (!rest.isEmpty)
    return (negated, ⟨[.single ']'], none⟩, rest)
  | _, _ => return (negated, ⟨members, none⟩, cs)

/-- The rest of a bracketed class up to its `]`. -/
def setBody (f : Flags) (negated : Bool) : Nat → OpenSet → List Char → Option (CharClass × List Char)
  | 0, _, _ => none
  | fuel + 1, o, cs =>
    match next f cs with
    | [] => none
    | '[' :: rest =>
      if isPosixClass rest then do
        let (s, rest) ← posixClass f rest
        setBody f negated fuel (o.add s) rest
      else do
        let (innerNegated, inner, rest) ← openSet f rest
        let (s, rest) ← setBody f innerNegated fuel inner rest
        setBody f negated fuel (o.add s) rest
    | ']' :: rest => do
      let s ← finish f negated (o.close f)
      return ({ s with depth := s.depth + 1 }, rest)
    | '&' :: '&' :: rest => setBody f negated fuel (o.operate f .inter) rest
    | '-' :: '-' :: rest => setBody f negated fuel (o.operate f .diff) rest
    | '~' :: '~' :: rest => setBody f negated fuel (o.operate f .symmDiff) rest
    | cs => do
      let (s, rest) ← setRange f cs
      setBody f negated fuel (o.add s) rest

/-- A bracketed class, after its `[`. -/
def bracketed (f : Flags) (cs : List Char) : Option (CharClass × List Char) := do
  let (negated, o, rest) ← openSet f cs
  setBody f negated (rest.length + 1) o rest

/-! ## Repetitions -/

/-- Counts of rounds are below this bound. -/
def countBound : Nat := 4294967296

/-- Decimal digits, with blanks around them, and blanks between them where flags say so. -/
def decimal (f : Flags) (cs : List Char) : Option Nat × List Char :=
  let rec digits (taken : List Char) : Nat → List Char → List Char × List Char
    | 0, cs => (taken.reverse, cs)
    | fuel + 1, cs =>
      match cs with
      | c :: rest =>
        if c.isDigit then digits (c :: taken) fuel (next f rest) else (taken.reverse, cs)
      | [] => (taken.reverse, [])
  let cs := cs.dropWhile isBlank
  let (ds, rest) := digits [] (cs.length + 1) cs
  let n := ds.foldl (fun n c => 10 * n + (c.toNat - 48)) 0
  (if ds.isEmpty || countBound ≤ n then none else some n, next f (rest.dropWhile isBlank))

/-- The counts of a repetition, after its `{`, up to and with its `}`. -/
def counts (f : Flags) (cs : List Char) : Option ((Nat × Option Nat) × List Char) := do
  let (min, rest) := decimal f (next f cs)
  let min ← min
  match rest with
  | ',' :: rest =>
    match next f rest with
    | '}' :: rest => return ((min, none), rest)
    | rest =>
      let (max, rest) := decimal f rest
      let max ← max
      guard (min ≤ max)
      match rest with
      | '}' :: rest => return ((min, some max), rest)
      | _ => none
  | '}' :: rest => return ((min, some min), rest)
  | _ => none

/-! ## Groups -/

/-- A piece of a sequence: an expression with its depth, or flags set on the way. -/
inductive Piece where
  | flags
  | expr (r : Pattern) (depth : Nat)

def Piece.pattern : Piece → Pattern
  | .flags => .empty
  | .expr r _ => r

def Piece.depth : Piece → Nat
  | .flags => 0
  | .expr _ d => d

/-- Several pieces as one: `op` over them, one level deeper if there is more than one. -/
def Piece.join (op : Pattern → Pattern → Pattern) (nearestFirst : List Piece) : Piece :=
  match nearestFirst with
  | [] => .expr .empty 0
  | [p] => p
  | p :: ps =>
    .expr (ps.foldl (fun r q => op q.pattern r) p.pattern)
      ((p :: ps).foldl (fun d q => max d q.depth) 0 + 1)

/-- An open group: what it will capture, and what surrounds it. -/
structure OpenGroup where
  index : Option Nat
  flags : Flags
  branches : List Piece
  pieces : List Piece

/-- The state of the reader: the open groups, and the finished branches and pieces of the innermost
one, nearest first. -/
structure State where
  flags : Flags := {}
  groups : List OpenGroup := []
  branches : List Piece := []
  pieces : List Piece := []
  captures : Nat := 0
  names : List (String × Nat) := []

namespace State

def push (st : State) (r : Pattern) (depth : Nat := 0) : State :=
  { st with pieces := .expr r depth :: st.pieces }

/-- The branches and pieces read so far as one expression. -/
def body (st : State) : Piece :=
  match st.branches with
  | [] => Piece.join .seq st.pieces
  | branches => Piece.join .alt (Piece.join .seq st.pieces :: branches)

/-- A literal under the flags in force. -/
def literal (f : Flags) (c : Char) (coded : Bool) : Option Pattern :=
  if !f.unicode && coded && 128 ≤ c.toNat then none
  else some (.char (if f.unicode then foldCase f (.single c)
    else if c.toNat < 128 then foldCase f (.single c) else .single c))

def atom (st : State) : Atom → Option State
  | .literal c coded => (literal st.flags c coded).map st.push
  | .cls s => some (st.push (.char s))
  | .look l => some (st.push (.look l))

/-- `.` under the flags in force. -/
def dot (f : Flags) : Option Pattern :=
  if !f.unicode then none
  else if f.dotNewline then some (.char .any)
  else if f.crlf then some (.char { CharClass.any with mem := fun c => c != '\n' && c != '\r' })
  else some (.char { CharClass.any with mem := fun c => c != '\n' })

/-- Repeats the last piece. -/
def repeated (st : State) (min : Nat) (max : Option Nat) (greedy : Bool) : Option State :=
  match st.pieces with
  | .expr r d :: rest =>
    some { st with
      pieces := .expr (.mkRepeat r min max (greedy != st.flags.lazyFirst)) (d + 1) :: rest }
  | _ => none

/-- Repeats the last piece, lazily if a `?` follows at once. -/
def repeatedThen (st : State) (min : Nat) (max : Option Nat) (rest : List Char) :
    Option (State × List Char) :=
  match rest with
  | '?' :: rest => (st.repeated min max false).map (·, rest)
  | _ => (st.repeated min max true).map (·, rest)

def openGroup (st : State) (index : Option Nat) (flags : Flags) : State :=
  { st with
    groups := ⟨index, st.flags, st.branches, st.pieces⟩ :: st.groups
    flags := flags, branches := [], pieces := [] }

def closeGroup (st : State) : Option State :=
  match st.groups with
  | [] => none
  | g :: groups =>
    let p := st.body
    let r := match g.index with
      | some i => .capture i p.pattern
      | none => p.pattern
    some { st with
      groups, flags := g.flags, branches := g.branches
      pieces := .expr r (p.depth + 1) :: g.pieces }

end State

/-- Flag letters up to `:` or `)`: the flags they lead to, whether there were any, and the end. -/
def flagLetters (f : Flags) (negated : Bool) (dangling : Bool) (seen : List Char) :
    List Char → Option (Flags × Bool × Char × List Char)
  | [] => none
  | c :: rest =>
    if c == ':' || c == ')' then
      if dangling then none else some (f, !seen.isEmpty, c, rest)
    else if seen.contains c then none
    else
      let on := !negated
      match c with
      | '-' => flagLetters f true true (c :: seen) rest
      | 'i' => flagLetters { f with ignoreCase := on } negated false (c :: seen) rest
      | 'm' => flagLetters { f with multiLine := on } negated false (c :: seen) rest
      | 's' => flagLetters { f with dotNewline := on } negated false (c :: seen) rest
      | 'U' => flagLetters { f with lazyFirst := on } negated false (c :: seen) rest
      | 'u' => flagLetters { f with unicode := on } negated false (c :: seen) rest
      | 'R' => flagLetters { f with crlf := on } negated false (c :: seen) rest
      | 'x' => flagLetters { f with spaced := on } negated false (c :: seen) rest
      | _ => none

/-- A group name up to its `>`. -/
def groupName (cs : List Char) : Option (String × List Char) := do
  let name := cs.takeWhile (· != '>')
  let (first, others) ← match name with
    | [] => none
    | c :: cs => some (c, cs)
  guard (first == '_' || isAlphabetic first)
  guard (others.all fun c => c == '_' || c == '.' || c == '[' || c == ']' || isAlphanumeric c)
  match cs.dropWhile (· != '>') with
  | [] => none
  | _ :: rest => return (String.ofList name, rest)

def isLookAround : List Char → Bool
  | '?' :: '=' :: _ | '?' :: '!' :: _ | '?' :: '<' :: '=' :: _ | '?' :: '<' :: '!' :: _ => true
  | _ => false

/-- A group or a flag setting, after its `(`. -/
def group (st : State) (cs : List Char) : Option (State × List Char) :=
  let cs := next st.flags cs
  let named (cs : List Char) : Option (State × List Char) := do
    let (name, rest) ← groupName cs
    guard ((st.names.lookup name).isNone)
    let index := st.captures + 1
    let st := { st with captures := index, names := (name, index) :: st.names }
    return (st.openGroup (some index) st.flags, rest)
  if isLookAround cs then none
  else match cs with
    | '?' :: 'P' :: '<' :: rest => named rest
    | '?' :: '<' :: rest => named rest
    | '?' :: rest => do
      let (flags, any, ending, rest) ← flagLetters st.flags false false [] rest
      if ending == ')' then
        guard any
        return ({ st with flags, pieces := .flags :: st.pieces }, rest)
      else return (st.openGroup none flags, rest)
    | rest =>
      let index := st.captures + 1
      some ({ st with captures := index }.openGroup (some index) st.flags, rest)

/-- Reads the next piece of the pattern `c :: rest`. -/
def step (st : State) (c : Char) (rest : List Char) : Option (State × List Char) :=
  let f := st.flags
  match c with
  | '(' => group st rest
  | ')' => st.closeGroup.map (·, rest)
  | '|' => some ({ st with
      branches := Piece.join .seq st.pieces :: st.branches, pieces := [] }, rest)
  | '[' => (bracketed f rest).map fun (s, rest) => (st.push (.char s) s.depth, rest)
  | '?' => st.repeatedThen 0 (some 1) rest
  | '*' => st.repeatedThen 0 none rest
  | '+' => st.repeatedThen 1 none rest
  | '{' => do
    let ((min, max), rest) ← counts f rest
    st.repeatedThen min max (next f rest)
  | '\\' => do
    let (a, rest) ← escape f rest
    return (← st.atom a, rest)
  | '.' => do return (st.push (← State.dot f), rest)
  | '^' => some (st.push (.look (if !f.multiLine then .textStart
      else if f.crlf then .crlfStart else .lineStart)), rest)
  | '$' => some (st.push (.look (if !f.multiLine then .textEnd
      else if f.crlf then .crlfEnd else .lineEnd)), rest)
  | _ => do return (← st.atom (.literal c false), rest)

/-- Reads the whole pattern; every step takes at least one character. -/
def run : Nat → State → List Char → Option State
  | 0, _, _ => none
  | fuel + 1, st, cs =>
    match next st.flags cs with
    | [] => some st
    | c :: rest => do
      let (st, rest) ← step st c rest
      run fuel st rest

end Parser

/-- The deepest nesting of groups, repetitions and brackets that is read. -/
def maxDepth : Nat := 250

/-- Largest estimated size of a compiled pattern: ten mebibytes. -/
def maxWeight : Nat := 10 * 1024 * 1024

/-- The expression that a pattern denotes, and the indexes of its named groups. -/
def Pattern.parse? (pattern : String) : Option (Pattern × List (String × Nat)) := do
  let cs := pattern.toList
  let st ← Parser.run (cs.length + 1) {} cs
  guard st.groups.isEmpty
  let p := st.body
  guard (p.depth ≤ maxDepth && p.pattern.weight ≤ maxWeight)
  return (p.pattern, st.names)

end Retag.Regex

import Retag.Unicode.Folding

/-!
# Globs

A glob matches a whole text without regard to case: `*` stands for any characters, `?` for one,
`[…]` for one of a class, and a backslash makes the next character literal. Matching works through
the text from its end and keeps, for each rest of the glob, whether it matches what has been seen,
so its time is the product of the two lengths.
-/

namespace Retag

open Unicode

namespace Glob

/-- A member of a class: a character, or a range that is empty if its ends are reversed. -/
inductive Member where
  | one (c : Char)
  | range (first last : Char)
  deriving DecidableEq, Repr

/-- One item of a glob. -/
inductive Item where
  | anything
  | any
  | char (c : Char)
  | cls (negated : Bool) (members : List Member)
  deriving DecidableEq, Repr

def Member.holds (m : Member) (c : Char) : Bool :=
  match m with
  | .one d => c == d
  | .range a b => a ≤ c && c ≤ b

/-- Whether an item that takes one character takes `c`. A negated class refuses every case variant
of its members. -/
def Item.takes (c : Char) : Item → Bool
  | .anything | .any => true
  | .char d => (caseVariants c).contains d
  | .cls negated members => (caseVariants c).any (fun d => members.any (·.holds d)) != negated

/-! ## Reading -/

/-- The members that the characters of a class denote, each with whether it was escaped: a dash
between two characters, neither it nor the first escaped, makes a range. -/
def membersOf : List (Char × Bool) → List Member
  | (a, false) :: ('-', false) :: (b, _) :: rest => .range a b :: membersOf rest
  | (a, _) :: rest => .one a :: membersOf rest
  | [] => []

/-- A class that is still open: whether it is negated, whether a `^` would negate it, and its
characters, last first. -/
structure OpenClass where
  negated : Bool := false
  atStart : Bool := true
  chars : List (Char × Bool) := []

/-- Reads on, inside a class if one is open. A class that is never closed is an error. -/
def readFrom : Option OpenClass → List Char → Option (List Item)
  | none, [] => some []
  | some _, [] => none
  | none, '*' :: rest => (readFrom none rest).map (.anything :: ·)
  | none, '?' :: rest => (readFrom none rest).map (.any :: ·)
  | none, ['\\'] => some [.char '\\']
  | none, '\\' :: c :: rest => (readFrom none rest).map (.char c :: ·)
  | none, '[' :: rest => readFrom (some {}) rest
  | none, c :: rest => (readFrom none rest).map (.char c :: ·)
  | some o, ']' :: rest =>
    (readFrom none rest).map (.cls o.negated (membersOf o.chars.reverse) :: ·)
  | some _, ['\\'] => none
  | some o, '\\' :: c :: rest =>
    readFrom (some { o with atStart := false, chars := (c, true) :: o.chars }) rest
  | some o, c :: rest =>
    if c = '^' && o.atStart then readFrom (some { o with negated := true, atStart := false }) rest
    else readFrom (some { o with atStart := false, chars := (c, false) :: o.chars }) rest

/-- The items of a glob; `none` if a class is never closed. -/
def read? (glob : String) : Option (List Item) := readFrom none glob.toList

/-- What is said of a glob with a class that is never closed. -/
def unclosedMessage : String := "unmatched '['"

/-! ## Matching -/

/-- For each rest of the glob, longest first, whether it matches the empty text. -/
def emptyRow : List Item → List Bool
  | [] => [true]
  | .anything :: rest =>
    let row := emptyRow rest
    (row.head?.getD false) :: row
  | _ :: rest => false :: emptyRow rest

/-- From the row of a text, the row of the text with `c` put before it. -/
def extendRow (c : Char) : List Item → List Bool → List Bool
  | [], _ => [false]
  | item :: rest, row =>
    let below := extendRow c rest row.tail
    match item with
    | .anything => (below.head?.getD false || row.head?.getD false) :: below
    | item => (item.takes c && row.tail.head?.getD false) :: below

/-- Whether the items match the whole text. -/
def accepts (items : List Item) (text : List Char) : Bool :=
  (text.foldr (fun c row => extendRow c items row) (emptyRow items)).head?.getD false

/-! ## As a regular expression -/

/-- The characters that a regular expression writes with a backslash. -/
def isMeta (c : Char) : Bool :=
  ['\\', '.', '+', '*', '?', '(', ')', '|', '[', ']', '\x7b', '\x7d', '^', '$', '#', '&', '-', '~'].contains c

def quote (c : Char) : List Char := if isMeta c then ['\\', c] else [c]

/-- A member as part of a bracketed class; an empty range leaves no trace. -/
def Member.pattern : Member → List Char
  | .one c => quote c
  | .range a b => if a ≤ b then quote a ++ '-' :: quote b else []

/-- An item as a regular expression. -/
def Item.pattern : Item → List Char
  | .anything => ['.', '*']
  | .any => ['.']
  | .char c => quote c
  | .cls false [] => "[^\\s\\S]".toList
  | .cls true [] => "[\\s\\S]".toList
  | .cls negated members =>
    '[' :: (if negated then ['^'] else []) ++ members.flatMap Member.pattern ++ [']']

/-- The items as a regular expression for whole texts. -/
def pattern (items : List Item) : String :=
  String.ofList ("(?is)\\A".toList ++ items.flatMap Item.pattern ++ "\\z".toList)

/-- Whether the regular expression of an item is well formed: brackets that hold nothing but empty
ranges would not be closed. -/
def Item.isWritable : Item → Bool
  | .cls _ members => members.isEmpty || members.any fun m => !m.pattern.isEmpty
  | _ => true

/-- Whether a glob is well formed and matches the whole of a text. -/
def acceptsText (glob text : String) : Bool :=
  match read? glob with
  | some items => items.all Item.isWritable && accepts items text.toList
  | none => false

end Glob
end Retag

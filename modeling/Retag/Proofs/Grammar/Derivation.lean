import Retag.Script.Error
import Retag.Script.Tree

/-!
# The grammar of scripts

A derivation is what was written, cut into pieces: it keeps how every character of text is spelled,
which the tree of a script forgets. The rules below are stated on pieces alone and know nothing of
states or steps of a reader.
-/

namespace Retag.Script.Grammar

/-- How many groups are open in an argument; `none` at the top, where there are no groups. -/
abbrev Level := Option Nat

/-- Letters and digits in ASCII, and the underscore. -/
def IsWord (c : Char) : Prop :=
  ('A' ≤ c ∧ c ≤ 'Z') ∨ ('a' ≤ c ∧ c ≤ 'z') ∨ ('0' ≤ c ∧ c ≤ '9') ∨ c = '_'

/-- A tag may have one colon, anywhere in its name. -/
def IsTagName (name : List Char) : Prop :=
  (∀ c ∈ name, IsWord c ∨ c = ':') ∧ name.count ':' ≤ 1

def IsFunctionName (name : List Char) : Prop := ∀ c ∈ name, IsWord c

instance : DecidablePred IsWord := fun c => inferInstanceAs
  (Decidable (('A' ≤ c ∧ c ≤ 'Z') ∨ ('a' ≤ c ∧ c ≤ 'z') ∨ ('0' ≤ c ∧ c ≤ '9') ∨ c = '_'))

instance : DecidablePred IsFunctionName := fun name => List.decidableBAll IsWord name

/-- The characters that a backslash takes the meaning from. -/
def specials : List Char := ['$', '%', '(', ')', ',', '\\']

/-- The value of a hexadecimal digit in either case. -/
def hexDigit? (c : Char) : Option Nat := "0123456789abcdef".toList.idxOf? c.toLower

/-- A character of text in one of its spellings. -/
inductive Glyph where
  | plain (c : Char)
  /-- A special character behind a backslash. -/
  | special (c : Char)
  | newline
  | tab
  /-- Four hexadecimal digits behind `\u`, and the character that they name. -/
  | unicode (d₁ d₂ d₃ d₄ c : Char)
  deriving DecidableEq

namespace Glyph

def written : Glyph → List Char
  | plain c => [c]
  | special c => ['\\', c]
  | newline => ['\\', 'n']
  | tab => ['\\', 't']
  | unicode d₁ d₂ d₃ d₄ _ => ['\\', 'u', d₁, d₂, d₃, d₄]

def value : Glyph → Char
  | plain c => c
  | special c => c
  | newline => '\n'
  | tab => '\t'
  | unicode _ _ _ _ c => c

/-- `l.Reads g l'`: the glyph may stand at level `l`, and what follows it is at level `l'`. A bare
parenthesis in an argument opens or closes a group, and a bare comma needs an open group. -/
inductive Reads : Level → Glyph → Level → Prop
  | top {c : Char} : c ∉ ['\\', '$', '%', '('] → Reads none (.plain c) none
  | inside {c : Char} {n : Nat} : c ∉ specials → Reads (some n) (.plain c) (some n)
  | opening {n : Nat} : Reads (some n) (.plain '(') (some (n + 1))
  | closing {n : Nat} : Reads (some (n + 1)) (.plain ')') (some n)
  | comma {n : Nat} : Reads (some (n + 1)) (.plain ',') (some (n + 1))
  | special {c : Char} {l : Level} : c ∈ specials → Reads l (.special c) l
  | newline {l : Level} : Reads l .newline l
  | tab {l : Level} : Reads l .tab l
  | unicode {d₁ d₂ d₃ d₄ c : Char} {n₁ n₂ n₃ n₄ : Nat} {l : Level} :
      hexDigit? d₁ = some n₁ → hexDigit? d₂ = some n₂ → hexDigit? d₃ = some n₃ →
      hexDigit? d₄ = some n₄ → c.toNat = ((n₁ * 16 + n₂) * 16 + n₃) * 16 + n₄ →
      Reads l (.unicode d₁ d₂ d₃ d₄ c) l

/-- Glyphs one after the other. -/
inductive Run : Level → List Glyph → Level → Prop
  | nil {l : Level} : Run l [] l
  | cons {l l₁ l₂ : Level} {g : Glyph} {gs : List Glyph} :
      Reads l g l₁ → Run l₁ gs l₂ → Run l (g :: gs) l₂

end Glyph

/-- A piece of a script or argument. A call has a first argument, which may be blank, and more
behind commas. -/
inductive Piece where
  | text (glyphs : List Glyph)
  | tag (name : String)
  | call (name : String) (first : List Piece) (more : List (List Piece))

def startsText : List Piece → Bool
  | .text _ :: _ => true
  | _ => false

/-- A lone blank argument is none. -/
def argumentCount (first : List Piece) (more : List (List Piece)) : Nat :=
  if first.isEmpty && more.isEmpty then 0 else more.length + 1

/-! ## What pieces are written as -/

mutual

def Piece.written : Piece → List Char
  | .text glyphs => glyphs.flatMap Glyph.written
  | .tag name => '%' :: (name.toList ++ ['%'])
  | .call name first more =>
    '$' :: (name.toList ++ '(' :: (writtenAll first ++ (writtenMore more ++ [')'])))

def writtenAll : List Piece → List Char
  | [] => []
  | x :: rest => x.written ++ writtenAll rest

/-- Every argument behind a comma. -/
def writtenMore : List (List Piece) → List Char
  | [] => []
  | a :: rest => ',' :: (writtenAll a ++ writtenMore rest)

end

/-! ## The tree that pieces stand for -/

mutual

/-- The node of a piece that starts at a place. -/
def Piece.nodeAt : Piece → Position → Node
  | .text glyphs, _ => .text (String.ofList (glyphs.map Glyph.value))
  | .tag name, _ => .tag name
  | .call name first more, p =>
    let start := p.afterAll ('$' :: (name.toList ++ ['(']))
    .call name
      (if first.isEmpty && more.isEmpty then []
        else treeAt first start :: treesAt more (start.afterAll (writtenAll first))) p

def treeAt : List Piece → Position → Tree
  | [], _ => []
  | x :: rest, p => x.nodeAt p :: treeAt rest (p.afterAll x.written)

/-- The trees of arguments that stand behind commas. -/
def treesAt : List (List Piece) → Position → List Tree
  | [], _ => []
  | a :: rest, p =>
    treeAt a (p.after ',') :: treesAt rest ((p.after ',').afterAll (writtenAll a))

end

/-! ## The rules -/

variable (arityOf : String → Option Arity)

/-- `Derives arityOf depth l ps l'`: with `depth` calls around them, the pieces `ps` may stand at
level `l`, and leave level `l'`. Text is a maximal run: not empty and not next to other text. -/
inductive Derives : Nat → Level → List Piece → Level → Prop
  | nil {depth : Nat} {l : Level} : Derives depth l [] l
  | text {depth : Nat} {l l₁ l₂ : Level} {glyphs : List Glyph} {rest : List Piece} :
      glyphs ≠ [] → Glyph.Run l glyphs l₁ → startsText rest = false → Derives depth l₁ rest l₂ →
      Derives depth l (.text glyphs :: rest) l₂
  | tag {depth : Nat} {l l₂ : Level} {name : String} {rest : List Piece} :
      IsTagName name.toList → Derives depth l rest l₂ → Derives depth l (.tag name :: rest) l₂
  | call {depth : Nat} {l l₂ : Level} {name : String} {arity : Arity} {first rest : List Piece}
      {more : List (List Piece)} :
      IsFunctionName name.toList → arityOf name = some arity → depth < maxNesting →
      Derives (depth + 1) (some 0) first (some 0) →
      (∀ a ∈ more, Derives (depth + 1) (some 0) a (some 0)) →
      arity.accepts (argumentCount first more) = true → Derives depth l rest l₂ →
      Derives depth l (.call name first more :: rest) l₂

/-- A whole script, cut into pieces by the rules. -/
structure Derivation where
  pieces : List Piece
  derives : Derives arityOf 0 none pieces none

namespace Derivation

variable {arityOf}

def source (d : Derivation arityOf) : String := String.ofList (writtenAll d.pieces)

def tree (d : Derivation arityOf) : Tree := treeAt d.pieces .start

end Derivation
end Retag.Script.Grammar

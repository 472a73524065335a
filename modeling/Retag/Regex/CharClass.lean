import Retag.Unicode.Age
import Retag.Unicode.Break
import Retag.Unicode.Category
import Retag.Unicode.Folding
import Retag.Unicode.Script
import Retag.Unicode.Blank

/-!
# Character classes

A class is a set of characters, with an estimate of the room that it and its complement take in a
compiled pattern and the depth to which its brackets nest. Case is folded over whole classes: a
folded class holds every character that equals a member up to case.
-/

namespace Retag.Regex

open Unicode

/-- A set of characters. -/
structure CharClass where
  mem : Char → Bool
  /-- Estimated bytes in a compiled pattern. -/
  weight : Nat
  /-- The same for all characters outside. -/
  outside : Nat
  /-- How deep the brackets nest. -/
  depth : Nat := 0

namespace CharClass

/-- Estimated room for all characters. -/
def fullWeight : Nat := 964

def none : CharClass := { mem := fun _ => false, weight := 0, outside := fullWeight }

def any : CharClass := { mem := fun _ => true, weight := fullWeight, outside := 0 }

def single (c : Char) : CharClass :=
  { mem := (· == c), weight := 32 * c.utf8Size, outside := fullWeight + 36 }

/-- A set of `n` ranges of ASCII characters. -/
def ofAscii (n : Nat) (mem : Char → Bool) : CharClass :=
  { mem, weight := 64 + 8 * n, outside := fullWeight + 36 * n }

/-- A set of `n` ranges, most of them beyond ASCII. -/
def ofRanges (n : Nat) (mem : Char → Bool) : CharClass :=
  { mem, weight := 64 + 62 * n, outside := fullWeight + 62 * n }

def range (a b : Char) : CharClass :=
  let mem (c : Char) := a ≤ c && c ≤ b
  if b.toNat < 128 then ofAscii 1 mem else ofRanges 4 mem

def ofCodeSet (s : CodeSet) : CharClass := ofRanges s.ranges s.contains

def ofCategories (p : Category → Bool) : CharClass :=
  ofRanges (Category.ranges p) fun c => p (category c)

def union (s t : CharClass) : CharClass where
  mem c := s.mem c || t.mem c
  weight := s.weight + t.weight
  outside := max s.outside t.outside
  depth := max s.depth t.depth

def negate (s : CharClass) : CharClass :=
  { s with mem := fun c => !s.mem c, weight := s.outside, outside := s.weight }

def inter (s t : CharClass) : CharClass where
  mem c := s.mem c && t.mem c
  weight := max s.weight t.weight
  outside := s.outside + t.outside
  depth := max s.depth t.depth

def diff (s t : CharClass) : CharClass := s.inter t.negate

def symmDiff (s t : CharClass) : CharClass where
  mem c := s.mem c != t.mem c
  weight := s.weight + t.weight
  outside := s.outside + t.outside
  depth := max s.depth t.depth

def negateIf (b : Bool) (s : CharClass) : CharClass := if b then s.negate else s

/-- The other letter case of an ASCII letter. -/
def swapAscii (c : Char) : Char :=
  if c.isUpper then c.toLower else if c.isLower then c.toUpper else c

/-- All characters that equal a member up to the case of ASCII letters. -/
def foldAscii (s : CharClass) : CharClass :=
  { s with mem := fun c => s.mem c || s.mem (swapAscii c), weight := s.weight + 48 }

/-- All characters that equal a member up to case; `k` and `s` equal characters beyond ASCII. -/
def fold (s : CharClass) : CharClass :=
  let added := if ['K', 'S', 'k', 's'].any s.mem then 204 else 48
  { s with mem := fun c => (caseVariants c).any s.mem, weight := s.weight + added }

/-- Whether a class of bytes stays within ASCII; its members beyond are all or none. -/
def isAscii (s : CharClass) : Bool := !s.mem (Char.ofNat 0x80)

def digit : CharClass :=
  { mem := fun c => category c == .decimalNumber, weight := 5116, outside := 12720 }

def space : CharClass := { mem := isBlank, weight := 680, outside := 1924 }

def isAsciiWordChar (c : Char) : Bool := c.isAlphanum || c == '_'

/-- Letters, marks, digits, connectors and joiners. -/
def isWordChar (c : Char) : Bool :=
  if c.toNat < 128 then isAsciiWordChar c
  else Property.alphabetic.contains c || Property.joinControl.contains c ||
    match category c with
    | .decimalNumber | .connectorPunctuation => true
    | k => k.isMark

def word : CharClass := { mem := isWordChar, weight := 49836, outside := 46420 }

def asciiDigit : CharClass := ofAscii 1 Char.isDigit

/-- Tab, line feed, vertical tab, form feed, carriage return and blank. -/
def asciiSpace : CharClass := ofAscii 2 fun c => (9 ≤ c.toNat && c.toNat ≤ 13) || c == ' '

def asciiWord : CharClass := ofAscii 4 isAsciiWordChar

/-- The classes that may be named between `[:` and `:]`. -/
def posix? (name : String) : Option CharClass :=
  let cls (p : Char → Bool) : Option CharClass := some (ofAscii 3 fun c => c.toNat < 128 && p c)
  match name with
  | "alnum" => cls Char.isAlphanum
  | "alpha" => cls Char.isAlpha
  | "ascii" => cls fun _ => true
  | "blank" => cls fun c => c == ' ' || c == '\t'
  | "cntrl" => cls fun c => c.toNat < 32 || c.toNat == 127
  | "digit" => cls Char.isDigit
  | "graph" => cls fun c => 33 ≤ c.toNat && c.toNat ≤ 126
  | "lower" => cls Char.isLower
  | "print" => cls fun c => 32 ≤ c.toNat && c.toNat ≤ 126
  | "punct" => cls fun c => 33 ≤ c.toNat && c.toNat ≤ 126 && !c.isAlphanum
  | "space" => cls asciiSpace.mem
  | "upper" => cls Char.isUpper
  | "word" => cls isAsciiWordChar
  | "xdigit" => cls fun c => c.isDigit || ('a' ≤ c && c ≤ 'f') || ('A' ≤ c && c ≤ 'F')
  | _ => Option.none

/-! ## Classes named by a Unicode property -/

/-- A property name in its lookup form: without a leading `is`, blanks, `_`, `-` and characters
beyond ASCII, in lower case. -/
def lookupForm (name : List Char) : String :=
  let plain (cs : List Char) :=
    (cs.filter fun c => c.toNat < 128 && c != ' ' && c != '_' && c != '-').map Char.toLower
  match name with
  | i :: s :: rest =>
    if i.toLower == 'i' && s.toLower == 's' then
      if plain rest == ['c'] then "isc" else String.ofList (plain rest)
    else String.ofList (plain name)
  | _ => String.ofList (plain name)

/-- The classes named by a general category or a group of them, in lookup form. -/
def generalCategory? (name : String) : Option CharClass :=
  let one (k : Category) : Option CharClass := some (ofCategories (· == k))
  match name with
  | "any" => some any
  | "ascii" => some (ofAscii 1 fun c => c.toNat < 128)
  | "assigned" => some (ofCategories (· != .unassigned))
  | "l" | "letter" => some (ofCategories (·.isLetter))
  | "lc" | "casedletter" => some (ofCategories fun k =>
      k == .uppercaseLetter || k == .lowercaseLetter || k == .titlecaseLetter)
  | "m" | "mark" | "combiningmark" => some (ofCategories (·.isMark))
  | "n" | "number" => some (ofCategories (·.isNumber))
  | "p" | "punctuation" | "punct" => some (ofCategories (·.isPunctuation))
  | "s" | "symbol" => some (ofCategories (·.isSymbol))
  | "z" | "separator" => some (ofCategories (·.isSeparator))
  | "c" | "other" => some (ofCategories (·.isOther))
  | "lu" | "uppercaseletter" => one .uppercaseLetter
  | "ll" | "lowercaseletter" => one .lowercaseLetter
  | "lt" | "titlecaseletter" => one .titlecaseLetter
  | "lm" | "modifierletter" => one .modifierLetter
  | "lo" | "otherletter" => one .otherLetter
  | "mn" | "nonspacingmark" => one .nonspacingMark
  | "mc" | "spacingmark" => one .spacingMark
  | "me" | "enclosingmark" => one .enclosingMark
  | "nd" | "decimalnumber" | "digit" => one .decimalNumber
  | "nl" | "letternumber" => one .letterNumber
  | "no" | "othernumber" => one .otherNumber
  | "pc" | "connectorpunctuation" => one .connectorPunctuation
  | "pd" | "dashpunctuation" => one .dashPunctuation
  | "ps" | "openpunctuation" => one .openPunctuation
  | "pe" | "closepunctuation" => one .closePunctuation
  | "pi" | "initialpunctuation" => one .initialPunctuation
  | "pf" | "finalpunctuation" => one .finalPunctuation
  | "po" | "otherpunctuation" => one .otherPunctuation
  | "sm" | "mathsymbol" => one .mathSymbol
  | "sc" | "currencysymbol" => one .currencySymbol
  | "sk" | "modifiersymbol" => one .modifierSymbol
  | "so" | "othersymbol" => one .otherSymbol
  | "zs" | "spaceseparator" => one .spaceSeparator
  | "zl" | "lineseparator" => one .lineSeparator
  | "zp" | "paragraphseparator" => one .paragraphSeparator
  | "cc" | "control" | "cntrl" => one .control
  | "cf" | "format" => one .format
  | "co" | "privateuse" => one .privateUse
  | "cn" | "unassigned" => one .unassigned
  | _ => Option.none

/-- The characters of a script. -/
def script? (name : String) : Option CharClass :=
  (Script.find? name).map fun s => ofRanges (Script.ranges s) fun c => Script.ofChar c == s

/-- The characters used with a script. -/
def scriptExtension? (name : String) : Option CharClass :=
  (Script.find? name).map fun s =>
    ofRanges (Script.ranges s) fun c => (Script.sharing c).contains s

/-- The characters of an age or older. -/
def age? (name : String) : Option CharClass :=
  (Age.upTo? name).map fun sets => sets.foldl (fun s t => s.union (ofCodeSet t)) none

/-- The class that a single name stands for: a binary property, else a general category, else a
script. -/
def named? (name : List Char) : Option CharClass :=
  let n := lookupForm name
  ((Property.find? n).map ofCodeSet).or ((generalCategory? n).or (script? n))

/-- The class that a property name and a value stand for. -/
def valued? (name value : List Char) : Option CharClass :=
  let v := lookupForm value
  let oneOf (sets : List NamedSet) := (NamedSet.find? sets v).map ofCodeSet
  match lookupForm name with
  | "generalcategory" | "gc" => generalCategory? v
  | "script" | "sc" => script? v
  | "scriptextensions" | "scx" => scriptExtension? v
  | "age" => age? v
  | "graphemeclusterbreak" | "gcb" => oneOf Break.graphemeCluster
  | "wordbreak" | "wb" => oneOf Break.word
  | "sentencebreak" | "sb" => oneOf Break.sentence
  | _ => Option.none

end CharClass
end Retag.Regex

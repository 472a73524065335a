/-!
# Searching and cutting text

Everything is counted in code points. Occurrences are found from the left and do not overlap; the
empty text occurs before every character and at the end.
-/

namespace Retag.Text

/-- How many characters stand before the first occurrence of `needle`. -/
def indexOf? (needle : List Char) : List Char → Option Nat
  | [] => if needle.isEmpty then some 0 else none
  | c :: rest =>
    if needle.isPrefixOf (c :: rest) then some 0 else (indexOf? needle rest).map (· + 1)

/-- Where `needle` first occurs in `text`. -/
def find? (text needle : String) : Option Nat := indexOf? needle.toList text.toList

def contains (text needle : String) : Bool := (find? text needle).isSome

def startsWith (text start : String) : Bool := start.toList.isPrefixOf text.toList

def endsWith (text ending : String) : Bool := ending.toList.isSuffixOf text.toList

/-- What follows `start` in a text that begins with it. -/
def afterPrefix? (start text : List Char) : Option (List Char) := List.isPrefixOf? start text

/-- The pieces between occurrences of the non-empty `sep`. `skip` characters of an occurrence are
still to be passed over, and `piece` holds the characters since the last one, nearest first. -/
def cutFrom (sep : List Char) : Nat → List Char → List Char → List (List Char)
  | _, piece, [] => [piece.reverse]
  | skip + 1, piece, _ :: rest => cutFrom sep skip piece rest
  | 0, piece, c :: rest =>
    if sep.isPrefixOf (c :: rest) then piece.reverse :: cutFrom sep (sep.length - 1) [] rest
    else cutFrom sep 0 (c :: piece) rest

/-- The pieces between occurrences of `sep`; the empty `sep` occurs around every character. -/
def cut (sep text : List Char) : List (List Char) :=
  if sep.isEmpty then [] :: (text.map fun c => [c]) ++ [[]] else cutFrom sep 0 [] text

/-- The pieces of `text` between occurrences of `sep`. -/
def split (text sep : String) : List String := (cut sep.toList text.toList).map String.ofList

/-- `text` with every `old` written as `new`. -/
def replace (text old new : String) : String := String.intercalate new (split text old)

/-- The parts before and after the first character that satisfies `p`. -/
def splitFirst? (p : Char → Bool) (text : List Char) : Option (List Char × List Char) :=
  match text.dropWhile (!p ·) with
  | [] => none
  | _ :: after => some (text.takeWhile (!p ·), after)

/-- The maximal runs of characters that do not satisfy `p`. -/
def fields (p : Char → Bool) (text : List Char) : List (List Char) :=
  (text.foldr (fun c ws =>
    if p c then [] :: ws else
      match ws with
      | [] => [[c]]
      | w :: ws => (c :: w) :: ws) [[]]).filter (!·.isEmpty)

/-- What stands before the last `c`, if there is one. -/
def beforeLast? (c : Char) (text : List Char) : Option (List Char) :=
  match text.reverse.dropWhile (· != c) with
  | [] => none
  | _ :: before => some before.reverse

end Retag.Text

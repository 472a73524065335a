import Retag.Library.Conventions
import Retag.Regex.Template
import Retag.Text.Integer
import Retag.Text.Search
import Retag.Text.Slice
import Retag.Unicode.Case
import Retag.Unicode.Category
import Retag.Unicode.Letter

/-!
# Texts

Lengths, places and slices count code points. A pattern that is not well formed changes and finds
nothing.
-/

namespace Retag.Library

open Script Unicode Retag.Text

namespace Texts

/-! ## Slices -/

def left (text number : String) : String :=
  match readInteger? number with
  | some n => sliceText none (some n) text
  | none => ""

def right (text number : String) : String :=
  match readInteger? number with
  | some n => sliceText (some (-n)) none text
  | none => ""

def substr (text start stop : String) : String :=
  sliceText (readInteger? start) (readInteger? stop) text

/-- The words that fit into a length: a text that is cut inside a word is cut back to the blank
before it, if there is one. -/
def firstWords (text length : String) : String :=
  let n := (readInteger? length).getD 0
  let chars := text.toList
  if (chars.length : Int) ≤ n then text
  else match (resolveIndex chars.length n).bind (chars[·]?) with
    | none => ""
    | some next =>
      let head := slice none (some n) chars
      if next = ' ' then String.ofList head
      else String.ofList ((beforeLast? ' ' head).getD head)

def truncate (text length : String) : String :=
  trimEnd (sliceText none (readInteger? length) text)

/-! ## Case and white space -/

def isWordBoundary (c : Char) : Bool := (category c).separatesWords

def isApostrophe (c : Char) : Bool := c.toNat = 0x27 || c.toNat = 0x2019

/-- The rest of a title after the character `before`; `capital` if that ended a word. -/
def titleFrom (before : Char) (capital : Bool) : List Char → List Char
  | [] => []
  | c :: rest =>
    if isApostrophe c && isAlphabetic before then c :: titleFrom c false rest
    else if isWordBoundary c then c :: titleFrom c true rest
    else if capital && isAlphabetic c then upperChar c ++ titleFrom c false rest
    else c :: titleFrom c false rest

/-- The first character, and the first letter of every word, in upper case. An apostrophe after a
letter does not end a word. -/
def title (text : String) : String :=
  match text.toList with
  | [] => ""
  | c :: rest => String.ofList (upperChar c ++ titleFrom c false rest)

/-- White space as single blanks, and none at the ends. -/
def strip (text : String) : String :=
  String.intercalate " " ((fields isBlank text.toList).map String.ofList)

def trimOf (text chars : String) : String :=
  if chars.isEmpty then trim text
  else String.ofList (stripWhile (chars.toList.contains ·) text.toList)

/-! ## Filling up -/

/-- The most bytes that padding may take. -/
def maxPadding : Nat := 64 * 1024

def repeated (text : String) (n : Nat) : String :=
  if text.isEmpty then "" else String.join (List.replicate n text)

def pad (text length filler : String) : String :=
  match readInteger? length with
  | none => ""
  | some length =>
    let missing := (length - text.length).toNat
    if filler.utf8ByteSize * missing ≤ maxPadding then repeated filler missing ++ text else ""

def num (number length : String) : String :=
  match readInteger? length with
  | none => ""
  | some length => padded (min length.toNat 20) ((readInteger? number).getD 0)

/-! ## Searching and replacing -/

/-- A replacement in the notation of scripts as a template: `\1` and `\12` are groups by number,
`\g<name>` by name, `\n`, `\t` and `\\` are characters, and everything else is literal. `skip`
characters are still to be passed over. -/
def templateFrom : Nat → List Char → List Char
  | _, [] => []
  | skip + 1, _ :: rest => templateFrom skip rest
  | 0, c :: rest =>
    if c = '$' then '$' :: '$' :: templateFrom 0 rest
    else if c = '\\' then
      match rest with
      | [] => ['\\']
      | 'g' :: '<' :: inner =>
        let name := inner.takeWhile (· != '>')
        ['$', '\x7b'] ++ name ++ '\x7d' :: templateFrom (name.length + 3) rest
      | 'g' :: _ => '\\' :: 'g' :: templateFrom 1 rest
      | 'n' :: _ => '\n' :: templateFrom 1 rest
      | 't' :: _ => '\t' :: templateFrom 1 rest
      | '\\' :: _ => '\\' :: templateFrom 1 rest
      | d :: e :: _ =>
        if d.isDigit && e.isDigit then ['$', '\x7b', d, e, '\x7d'] ++ templateFrom 2 rest
        else if d.isDigit then ['$', '\x7b', d, '\x7d'] ++ templateFrom 1 rest
        else '\\' :: templateFrom 0 rest
      | [d] =>
        if d.isDigit then ['$', '\x7b', d, '\x7d'] else '\\' :: templateFrom 0 rest
    else c :: templateFrom 0 rest

/-- A replacement in the notation of scripts as a template. -/
def template (replacement : String) : String := String.ofList (templateFrom 0 replacement.toList)

def replacePattern (text pattern replacement : String) : String :=
  match Regex.Program.compile? pattern with
  | some p => p.replaceAll text (template replacement)
  | none => text

/-- The first group of the first match, or the whole match of a pattern without groups. -/
def searchPattern (text pattern : String) : String :=
  match Regex.Program.compile? pattern with
  | none => ""
  | some p =>
    let chars := text.toList.toArray
    match p.search chars 0 with
    | none => ""
    | some m => (m.text? chars (if 1 < p.groups then 1 else 0)).getD ""

def findText (text needle : String) : String :=
  match find? text needle with
  | some n => toString n
  | none => ""

/-! ## Prefixes and first letters -/

/-- What follows a word at the start of a text and the white space after it. -/
def afterWord? (text : List Char) (word : String) : Option (List Char × String) :=
  match afterPrefix? word.toList text with
  | some (c :: rest) =>
    if isBlank c then some (rest.dropWhile isBlank, trim word) else none
  | _ => none

/-- The words that are cut off if none are named. -/
def defaultPrefixes : List String := ["A", "The"]

/-- The trimmed text without the first of the words that it starts with, and that word. -/
def cutPrefix (text : String) (words : List String) : String × Option String :=
  let text := trim text
  match (if words.isEmpty then defaultPrefixes else words).findSome? (afterWord? text.toList) with
  | some (rest, word) => (String.ofList rest, some word)
  | none => (text, none)

def swapPrefix (text : String) (words : List String) : String :=
  match cutPrefix text words with
  | (rest, some word) => rest ++ ", " ++ word
  | (text, none) => text

def deletePrefix (text : String) (words : List String) : String := (cutPrefix text words).1

def firstAlpha (args : List String) : String :=
  match (optional args 0).toList with
  | c :: _ => if isAlphabetic c then String.ofList (upperChar c) else args.getD 1 "#"
  | [] => args.getD 1 "#"

def initials (text : String) : String :=
  String.ofList (((split text " ").filterMap (·.toList.head?)).filter isAlphabetic)

end Texts

/-- Texts. -/
def textFunctions : List Function := [
  ⟨"left", ofTwo Texts.left, .exactly 2,
    "`$left(text,number)`\n\n"
      ++ "Returns the first `number` characters from `text`."⟩,
  ⟨"right", ofTwo Texts.right, .exactly 2,
    "`$right(text,number)`\n\n"
      ++ "Returns the last `number` characters from `text`."⟩,
  ⟨"substr", ofThree Texts.substr, .exactly 3,
    "`$substr(text,start,end)`\n\n"
      ++ "Returns the characters from `start` up to (excluding) `end`. Negative indexes "
      ++ "count from the end; a blank index means the start or end of `text`."⟩,
  ⟨"firstwords", ofTwo Texts.firstWords, .exactly 2,
    "`$firstwords(text,length)`\n\n"
      ++ "Like `$truncate()` but only returns whole words."⟩,
  ⟨"truncate", ofTwo Texts.truncate, .exactly 2,
    "`$truncate(text,length)`\n\n"
      ++ "Truncates `text` to `length` characters and strips trailing whitespace."⟩,
  ⟨"lower", ofOne lowercase, .exactly 1,
    "`$lower(text)`\n\n"
      ++ "Returns `text` in lower case."⟩,
  ⟨"upper", ofOne uppercase, .exactly 1,
    "`$upper(text)`\n\n"
      ++ "Returns `text` in upper case."⟩,
  ⟨"title", ofOne Texts.title, .exactly 1,
    "`$title(text)`\n\n"
      ++ "Capitalizes the first character of every word in `text`."⟩,
  ⟨"strip", ofOne Texts.strip, .exactly 1,
    "`$strip(text)`\n\n"
      ++ "Replaces all whitespace runs in `text` with a single space and removes leading "
      ++ "and trailing whitespace."⟩,
  ⟨"trim", ofFirst fun text rest => Texts.trimOf text (optional rest 0), .between 1 2,
    "`$trim(text,char)`\n\n"
      ++ "Trims leading and trailing whitespace from `text`. If `char` is given, any of "
      ++ "its characters are trimmed instead."⟩,
  ⟨"pad", ofThree Texts.pad, .exactly 3,
    "`$pad(text,length,char)`\n\n"
      ++ "Pads `text` on the left with `char` repeated up to `length` characters.\n"
      ++ "Returns an empty string if the padding would exceed 64 KiB."⟩,
  ⟨"num", ofTwo Texts.num, .exactly 2,
    "`$num(number,length)`\n\n"
      ++ "Returns `number` zero-padded to `length` digits (at most 20)."⟩,
  ⟨"replace", ofThree Retag.Text.replace, .exactly 3,
    "`$replace(text,search,replace)`\n\n"
      ++ "Replaces every `search` in `text` with `replace`."⟩,
  ⟨"rreplace", ofThree Texts.replacePattern, .exactly 3,
    "`$rreplace(text,pattern,replace)`\n\n"
      ++ "Replaces every match of the regular expression `pattern` with `replace`. `\\1` "
      ++ "and `\\g<name>` refer to captured groups."⟩,
  ⟨"rsearch", ofTwo Texts.searchPattern, .exactly 2,
    "`$rsearch(text,pattern)`\n\n"
      ++ "Searches `text` for the regular expression `pattern`. Returns the first "
      ++ "captured group, or the whole match when the pattern has no groups."⟩,
  ⟨"find", ofTwo Texts.findText, .exactly 2,
    "`$find(haystack,needle)`\n\n"
      ++ "Returns the 0-based position of `needle` in `haystack`, or empty if absent."⟩,
  ⟨"startswith", ofTwo fun text start => truth (startsWith text start), .exactly 2,
    "`$startswith(text,prefix)`\n\n"
      ++ "Returns true if `text` starts with `prefix`."⟩,
  ⟨"endswith", ofTwo fun text ending => truth (endsWith text ending), .exactly 2,
    "`$endswith(text,suffix)`\n\n"
      ++ "Returns true if `text` ends with `suffix`."⟩,
  ⟨"len", ofAll fun args => toString (optional args 0).length, .between 0 1,
    "`$len(text)`\n\n"
      ++ "Returns the number of characters in `text`."⟩,
  ⟨"reverse", ofOne fun text => String.ofList text.toList.reverse, .exactly 1,
    "`$reverse(text)`\n\n"
      ++ "Returns `text` in reverse order."⟩,
  ⟨"swapprefix", ofFirst Texts.swapPrefix, .atLeast 1,
    "`$swapprefix(text,prefix1,prefix2,...)`\n\n"
      ++ "Moves a leading prefix to the end: `The Beatles` becomes `Beatles, The`. "
      ++ "Without prefixes `A` and `The` are used."⟩,
  ⟨"delprefix", ofFirst Texts.deletePrefix, .atLeast 1,
    "`$delprefix(text,prefix1,prefix2,...)`\n\n"
      ++ "Deletes a leading prefix from `text`. Without prefixes `A` and `The` are used."⟩,
  ⟨"firstalphachar", ofAll Texts.firstAlpha, .between 0 2,
    "`$firstalphachar(text,nonalpha=\"#\")`\n\n"
      ++ "Returns the first character of `text` in upper case, or `nonalpha` if it is not "
      ++ "a letter."⟩,
  ⟨"initials", ofAll fun args => Texts.initials (optional args 0), .between 0 1,
    "`$initials(text)`\n\n"
      ++ "Returns the first letter of each word in `text`."⟩]

end Retag.Library

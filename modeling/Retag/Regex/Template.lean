import Retag.Regex.Search
import Retag.Text.Integer

/-!
# Replacement templates

A template is text in which `$` refers to groups of a match: by number or name, bare or in braces.
`$$` is a dollar sign, and a `$` that starts no reference stands for itself. Groups that do not exist
or took no part in the match are empty.
-/

namespace Retag.Regex

/-- A reference to a group. -/
inductive GroupRef where
  | number (index : Nat)
  | name (name : String)

namespace GroupRef

/-- A text that reads as a number is one. -/
def ofText (text : List Char) : GroupRef :=
  match Text.readNat? text with
  | some n => .number n
  | none => .name (String.ofList text)

/-- The text of the group in a match, given the texts of groups by number and the numbers of named
groups. -/
def value (group : Nat → String) (names : List (String × Nat)) : GroupRef → String
  | .number i => group i
  | .name n => ((names.lookup n).map group).getD ""

end GroupRef

/-- A piece of a template. -/
inductive TemplatePiece where
  | char (c : Char)
  | ref (r : GroupRef)

namespace Template

def isNameChar (c : Char) : Bool := c.isAlphanum || c == '_'

/-- How to read on: plain text, `skip` characters of a reference that is already read. -/
def read : Nat → List Char → List TemplatePiece
  | _, [] => []
  | skip + 1, _ :: rest => read skip rest
  | 0, c :: rest =>
    if c = '$' then
      match rest with
      | '$' :: _ => .char '$' :: read 1 rest
      | '\x7b' :: inner =>
        let name := inner.takeWhile (· != '\x7d')
        if name.length < inner.length then
          .ref (GroupRef.ofText name) :: read (name.length + 2) rest
        else .char '$' :: read 0 rest
      | _ =>
        let name := rest.takeWhile isNameChar
        if name.isEmpty then .char '$' :: read 0 rest
        else .ref (GroupRef.ofText name) :: read name.length rest
    else .char c :: read 0 rest

/-- Fills in a template. -/
def fill (group : Nat → String) (names : List (String × Nat)) (pieces : List TemplatePiece) :
    String :=
  String.join (pieces.map fun
    | .char c => String.singleton c
    | .ref r => r.value group names)

/-- The text that a template stands for, given the texts of the groups. -/
def expand (template : String) (group : Nat → String) (names : List (String × Nat)) : String :=
  fill group names (read 0 template.toList)

end Template

namespace Program

/-- The rest of a text after `place`, with each match replaced. -/
def replaceFrom (text : Array Char) (replacement : Captures → String) :
    Nat → List Captures → List String
  | place, [] => [String.ofList (text.extract place text.size).toList]
  | place, m :: rest =>
    match m.span? 0 with
    | none => replaceFrom text replacement place rest
    | some (a, b) =>
      String.ofList (text.extract place a).toList :: replacement m
        :: replaceFrom text replacement b rest

/-- `text` with every match replaced by what the template gives for it. -/
def replaceAll (p : Program) (text template : String) : String :=
  let chars := text.toList.toArray
  let pieces := Template.read 0 template.toList
  let replacement (m : Captures) : String :=
    Template.fill (fun i => (m.text? chars i).getD "") p.names pieces
  String.join (replaceFrom chars replacement 0 (p.findAll chars))

end Program
end Retag.Regex

import Retag.Glob
import Retag.Regex.Search
import Retag.Text.Search

/-!
# Name filters

A filter selects names: by a regular expression written between slashes, by a glob if it holds a
wildcard, and otherwise by a substring. The empty filter selects every name.
-/

namespace Retag

/-- How a filter compares. -/
inductive FilterMode where
  | regexp
  | glob
  | substring
  deriving DecidableEq, Repr

inductive FilterError where
  | invalidRegex
  | unclosedClass
  deriving DecidableEq, Repr

/-- What is said of a filter, where its wording is this library's own. -/
def FilterError.message? : FilterError → Option String
  | .invalidRegex => none
  | .unclosedClass => some ("glob error: " ++ Glob.unclosedMessage)

namespace Filter

/-- A filter made ready. -/
inductive Compiled where
  | regexp (p : Regex.Program)
  | glob (items : List Glob.Item)
  | substring

end Filter

structure Filter where
  source : String
  mode : FilterMode
  compiled : Filter.Compiled

namespace Filter

/-- Makes a filter of a given mode. -/
def make (source : String) : FilterMode → Except FilterError Filter
  | .regexp =>
    match Regex.Program.compile? source with
    | some p => .ok ⟨source, .regexp, .regexp p⟩
    | none => .error .invalidRegex
  | .glob =>
    match Glob.read? source with
    | none => .error .unclosedClass
    | some items =>
      if items.all Glob.Item.isWritable then .ok ⟨source, .glob, .glob items⟩
      else .error .invalidRegex
  | .substring => .ok ⟨source, .substring, .substring⟩

/-- What stands between two slashes that enclose a text. -/
def betweenSlashes? (text : List Char) : Option (List Char) :=
  match text with
  | '/' :: rest => if rest.getLast? = some '/' then some rest.dropLast else none
  | _ => none

/-- Makes a filter of the mode that its shape asks for. -/
def ofText (text : String) : Except FilterError Filter :=
  match betweenSlashes? text.toList with
  | some re => make (String.ofList re) .regexp
  | none =>
    if text.toList.any fun c => c = '*' || c = '?' || c = '[' then make text .glob
    else make text .substring

/-- Whether a filter selects a name. -/
def selects (f : Filter) (name : String) : Bool :=
  f.source.isEmpty || match f.compiled with
    | .regexp p => p.isMatch name
    | .glob items => Glob.accepts items name.toList
    | .substring => Text.contains name f.source

end Filter
end Retag

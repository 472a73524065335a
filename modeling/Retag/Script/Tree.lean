import Retag.Script.Position

/-!
# Script trees

A script is a sequence of nodes: plain text, tags to read, and calls whose arguments are scripts
again.
-/

namespace Retag.Script

inductive Node where
  | text (content : String)
  /-- A tag, in the spelling of scripts. -/
  | tag (name : String)
  /-- A call, with the place of its dollar sign. -/
  | call (name : String) (args : List (List Node)) (position : Position)
  deriving Repr

/-- A script or an argument: a sequence of nodes. -/
abbrev Tree := List Node

namespace Tree

/-- The tag that a tree consists of, if it is a single one. -/
def singleTag? : Tree → Option String
  | [.tag name] => some name
  | _ => none

end Tree
end Retag.Script

import Retag.Library.Conventions

/-!
# Reading and writing tags
-/

namespace Retag.Library

open Script

namespace Tags

/-- The first occurrences of the values; `seen` have occurred before. -/
def distinct (seen : List String) : List String → List String
  | [] => []
  | v :: rest =>
    if seen.contains v then distinct seen rest else v :: distinct (v :: seen) rest

/-- The store with all values of `old` copied to `new`. -/
def copyIn (new old : String) (tags : TagStore) : TagStore :=
  tags.set (internalName new) (tags.values (internalName old))

/-- The store with the values of `old` appended to those of `new`, each once unless duplicates are
kept. -/
def mergeIn (new old : String) (keepDuplicates : Bool) (tags : TagStore) : TagStore :=
  let merged := tags.values (internalName new) ++ tags.values (internalName old)
  tags.set (internalName new) (if keepDuplicates then merged else distinct [] merged)

def getTag (args : List String) : Eval String := do Eval.tagValue (← required args 0)

/-- Changes the tags and has no value. -/
def changing (change : TagStore → TagStore) : Eval String := do
  Eval.modifyTags change
  return ""

def setTag (args : List String) : Eval String := do
  let name ← required args 0
  let value ← required args 1
  changing (Eval.setIn name value)

def unsetTag (args : List String) : Eval String := do
  let name ← required args 0
  changing (Eval.unsetIn name)

def deleteTag (args : List String) : Eval String := do
  let name ← required args 0
  changing (·.delete (internalName name))

def copyTag (args : List String) : Eval String := do
  let new ← required args 0
  let old ← required args 1
  changing (copyIn new old)

def mergeTag (args : List String) : Eval String := do
  let new ← required args 0
  let old ← required args 1
  changing (mergeIn new old (!(optional args 2).isEmpty))

end Tags

/-- Reading and writing tags. -/
def tagFunctions : List Function := [
  ⟨"get", .eager Tags.getTag, .exactly 1,
    "`$get(name)`\n\n"
      ++ "Returns the variable `name` (equivalent to `%name%`)."⟩,
  ⟨"set", .eager Tags.setTag, .exactly 2,
    "`$set(name,value)`\n\n"
      ++ "Sets the variable `name` to `value`. An empty value unsets it."⟩,
  ⟨"unset", .eager Tags.unsetTag, .exactly 1,
    "`$unset(name)`\n\n"
      ++ "Unsets the variable `name`. `name:*` unsets every tag in the namespace."⟩,
  ⟨"delete", .eager Tags.deleteTag, .exactly 1,
    "`$delete(name)`\n\n"
      ++ "Unsets the variable `name` and marks the tag for deletion from the file."⟩,
  ⟨"copy", .eager Tags.copyTag, .exactly 2,
    "`$copy(new,old)`\n\n"
      ++ "Copies all values of `old` into `new`, replacing them."⟩,
  ⟨"copymerge", .eager Tags.mergeTag, .between 2 3,
    "`$copymerge(new,old,keep_duplicates=\"\")`\n\n"
      ++ "Appends the values of `old` to `new`. Duplicates are removed unless "
      ++ "`keep_duplicates` is set."⟩]

end Retag.Library

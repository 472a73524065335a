import Retag.Unicode.Blank
import Std.Data.ExtTreeMap

/-!
# Tag stores

A tag store maps tag names to lists of values and remembers the order in which names first came in.
The values are in a table, in which the names have no order, and the names in a list beside it; each
operation keeps the two in step. Deleting a tag leaves a tombstone until the tag has a value again.
Names that differ only by colons at the end denote the same tag; names that start with `~` are
hidden, and scripts spell that `_`.
-/

namespace Retag

/-- What stands between the values of a tag that is read as one text. -/
def joiner : String := "; "

/-- The internal spelling of a name that a script writes: a leading `_` becomes `~`. -/
def internalName (name : String) : String :=
  match name.toList with
  | '_' :: rest => String.ofList ('~' :: rest)
  | _ => name

/-- Hidden tags are computed and never saved. -/
def isHidden (name : String) : Bool := name.toList.head? == some '~'

/-- The name under which a tag is kept: without colons at the end. -/
def storageName (name : String) : String :=
  String.ofList (Unicode.dropEndWhile (· == ':') name.toList)

/-- A tag with its values. -/
structure Tag where
  name : String
  values : List String
  deriving DecidableEq, Repr

/-- A store as its three collections, which only the operations below keep in step. -/
structure TagStore where
  /-- The values under each name. -/
  table : Std.ExtTreeMap String (List String) := ∅
  /-- The names in the order in which they came in. -/
  names : List String := []
  /-- The tombstones in the order of their names. -/
  deleted : List String := []
  deriving DecidableEq, Repr

namespace TagStore

def empty : TagStore := {}

/-- Adds a name to a sorted list that may hold it already. -/
def insertName (name : String) : List String → List String
  | [] => [name]
  | n :: rest =>
    if name = n then n :: rest
    else if name < n then name :: n :: rest
    else n :: insertName name rest

/-- The values kept under `name`, if it is present. -/
def values? (s : TagStore) (name : String) : Option (List String) := s.table[storageName name]?

/-- The values of a tag; none if it is absent. -/
def values (s : TagStore) (name : String) : List String := (s.values? name).getD []

/-- The values of a tag as one text, if it has any. -/
def get? (s : TagStore) (name : String) : Option String :=
  match s.values? name with
  | none | some [] => none
  | some vs => some (String.intercalate joiner vs)

/-- The values of a tag as one text; the empty text if it is absent. -/
def get (s : TagStore) (name : String) : String := (s.get? name).getD ""

def contains (s : TagStore) (name : String) : Bool := (s.values? name).isSome

/-- The tags in the order in which they came in. The values of each are looked up under its name. -/
def tags (s : TagStore) : List Tag := s.names.map fun name => ⟨name, s.values name⟩

/-- Removes a tag without a tombstone. -/
def unset (s : TagStore) (name : String) : TagStore :=
  let key := storageName name
  if s.table.contains key then
    { s with table := s.table.erase key, names := s.names.filter (· != key) }
  else s

/-- Gives a tag new values, which clears its tombstone; without values the tag is removed. -/
def set (s : TagStore) (name : String) (values : List String) : TagStore :=
  let key := storageName name
  if values.isEmpty then s.unset key
  else
    { table := s.table.insert key values
      names := if s.table.contains key then s.names else s.names ++ [key]
      deleted := s.deleted.filter (· != key) }

/-- Gives a tag one value. -/
def setOne (s : TagStore) (name value : String) : TagStore := s.set name [value]

/-- Appends a value, which clears the tombstone. -/
def add (s : TagStore) (name value : String) : TagStore :=
  let key := storageName name
  let deleted := s.deleted.filter (· != key)
  match s.table[key]? with
  | some values => { s with table := s.table.insert key (values ++ [value]), deleted }
  | none => { table := s.table.insert key [value], names := s.names ++ [key], deleted }

/-- Removes a tag and leaves a tombstone. -/
def delete (s : TagStore) (name : String) : TagStore :=
  let key := storageName name
  let s := s.unset key
  { s with deleted := insertName key s.deleted }

/-- The store of pairs of names and values; a repeated name collects values. -/
def ofPairs (pairs : List (String × String)) : TagStore :=
  pairs.foldl (fun s (name, value) => s.add name value) empty

/-- The names of the tags that are saved. -/
def savedNames (s : TagStore) : List String := s.names.filter (!isHidden ·)

def isDeleted (s : TagStore) (name : String) : Bool := s.deleted.contains (storageName name)

def size (s : TagStore) : Nat := s.names.length

def isEmpty (s : TagStore) : Bool := s.names.isEmpty

/-- Removes every tag whose name starts with `start`, one after the other. -/
def unsetAll (s : TagStore) (start : String) : TagStore :=
  (s.names.filter fun name => start.toList.isPrefixOf name.toList).foldl unset s

end TagStore
end Retag

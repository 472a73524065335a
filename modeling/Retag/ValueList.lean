import Retag.TagStore
import Retag.Text.Search
import Retag.Text.Slice

/-!
# Value lists

An ordered list of values with the separator that it was split with. A list is the values of a tag
or the non-empty pieces of a text; its text leaves empty values out.
-/

namespace Retag

structure ValueList where
  values : List String
  separator : String
  deriving DecidableEq, Repr

namespace ValueList

/-- The values of the tag that a script calls `name`. -/
def ofTag (tags : TagStore) (name : String) : ValueList :=
  ⟨tags.values (internalName name), joiner⟩

/-- The non-empty pieces between separators; without a separator the whole text is one piece. -/
def ofText (text separator : String) : ValueList :=
  ⟨(if separator.isEmpty then [text] else Text.split text separator).filter (!·.isEmpty), separator⟩

def size (l : ValueList) : Nat := l.values.length

def isEmpty (l : ValueList) : Bool := l.values.isEmpty

/-- The value at an index; negative indexes count from the end. -/
def get? (l : ValueList) (index : Int) : Option String :=
  (Text.resolveIndex l.size index).bind (l.values[·]?)

/-- Puts a value at an index, if there is one. -/
def set? (l : ValueList) (index : Int) (value : String) : Option ValueList :=
  (Text.resolveIndex l.size index).map fun i => { l with values := l.values.set i value }

def slice (l : ValueList) (start stop : Option Int) : List String := Text.slice start stop l.values

def contains (l : ValueList) (value : String) : Bool := l.values.contains value

/-- The values that are not empty. -/
def shown (l : ValueList) : List String := l.values.filter (!·.isEmpty)

/-- The non-empty values with the separator between them. -/
def text (l : ValueList) : String := String.intercalate l.separator l.shown

/-- Stores the non-empty values in the tag that a script calls `name`. -/
def store (l : ValueList) (tags : TagStore) (name : String) : TagStore :=
  tags.set (internalName name) l.shown

end ValueList
end Retag

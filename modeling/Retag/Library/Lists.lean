import Retag.Library.Control
import Retag.Text.Integer
import Retag.Unicode.Case

/-!
# Lists

Most of these functions take their list argument unevaluated, so that a lone tag is read as its stored
values. The other arguments are evaluated before the list.
-/

namespace Retag.Library

open Script

namespace Lists

/-- An index; none if nothing is written for it or it is no integer. -/
def indexOf (a : Argument) : Eval (Option Int) := do
  if a.isBlank then return none else return Text.readInteger? (← a.value)

/-- Values in the order of their code points. -/
def sorted (values : List String) : List String := values.mergeSort (fun a b => decide (a ≤ b))

/-- Without values that equal the one before. -/
def dropRepeats : List String → List String
  | a :: b :: rest => if a = b then dropRepeats (b :: rest) else a :: dropRepeats (b :: rest)
  | values => values

/-- The last value for each key. -/
def lastByKey : List (String × String) → List String
  | [] => []
  | (key, value) :: rest =>
    if rest.any (·.1 == key) then lastByKey rest else value :: lastByKey rest

/-- The distinct values in order; without regard to case, the last spelling stands for all. -/
def distinct (caseSensitive : Bool) (values : List String) : List String :=
  dropRepeats (sorted (if caseSensitive then values
    else lastByKey (values.map fun v => (Unicode.lowercase v, v))))

def joined (l : ValueList) (values : List String) : String :=
  String.intercalate l.separator values

def setMulti (args : List String) : Eval String := do
  let name ← required args 0
  let text ← required args 1
  Eval.modifyTags fun tags => (ValueList.ofText text (args.getD 2 joiner)).store tags name
  return ""

def getMulti (args : List Argument) : Eval String := do
  match ← indexOf (← required args 1) with
  | none => return ""
  | some index =>
    let list ← listOf (← required args 0) args[2]?
    return (list.get? index).getD ""

def lenMulti (args : List Argument) : Eval String := do
  let list ← listOf (← required args 0) args[1]?
  return toString list.size

def inMulti (args : List Argument) : Eval String := do
  let value ← (← required args 1).value
  let list ← listOf (← required args 0) args[2]?
  return truth (list.contains value)

def sortMulti (args : List Argument) : Eval String := do
  let list ← listOf (← required args 0) args[1]?
  return joined list (sorted list.values)

def reverseMulti (args : List Argument) : Eval String := do
  let list ← listOf (← required args 0) args[1]?
  return joined list list.values.reverse

def unique (args : List Argument) : Eval String := do
  let caseSensitive ← match args[1]? with
    | some a => a.value
    | none => pure ""
  let list ← listOf (← required args 0) args[2]?
  return joined list (distinct (!caseSensitive.isEmpty) list.values)

def slice (args : List Argument) : Eval String := do
  let start ← indexOf (← required args 1)
  let stop ← indexOf (← required args 2)
  let list ← listOf (← required args 0) args[3]?
  return joined list (list.slice start stop)

def join (args : List Argument) : Eval String := do
  let glue ← (← required args 1).value
  let list ← listOf (← required args 0) args[2]?
  return String.intercalate glue list.values

def isMulti (args : List Argument) : Eval String := do
  let list ← listOf (← required args 0) none
  return truth (1 < list.size)

/-- The store with the empty values of a tag removed. -/
def cleanIn (name : String) (tags : TagStore) : TagStore :=
  let name := internalName name
  if tags.contains name then tags.set name ((tags.values name).filter (!·.isEmpty)) else tags

def cleanMulti (args : List String) : Eval String := do
  let name ← required args 0
  Eval.modifyTags (cleanIn name)
  return ""

def replaceMulti (args : List Argument) : Eval String := do
  let search ← required args 1
  if search.isBlank || ((args[3]?).map Argument.isBlank).getD false then
    (← required args 0).value
  else
    let search ← search.value
    let replacement ← (← required args 2).value
    let list ← listOf (← required args 0) args[3]?
    return ValueList.text
      { list with values := list.values.map fun v => if v = search then replacement else v }

end Lists

/-- Lists. -/
def listFunctions : List Function := [
  ⟨"setmulti", .eager Lists.setMulti, .between 2 3,
    "`$setmulti(name,value,separator=\"; \")`\n\n"
      ++ "Sets the variable `name` to `value`, split on `separator` into multiple values. "
      ++ "Empty elements are dropped."⟩,
  ⟨"getmulti", .lazy Lists.getMulti, .between 2 3,
    "`$getmulti(name,index,separator=\"; \")`\n\n"
      ++ "Returns the element at `index` (0-based, negative counts from the end) of the "
      ++ "multi-value `name`."⟩,
  ⟨"lenmulti", .lazy Lists.lenMulti, .between 1 2,
    "`$lenmulti(name,separator=\"; \")`\n\n"
      ++ "Returns the number of elements in `name`."⟩,
  ⟨"inmulti", .lazy Lists.inMulti, .between 2 3,
    "`$inmulti(name,value,separator=\"; \")`\n\n"
      ++ "Returns true if the multi-value `name` contains exactly `value` as an element."⟩,
  ⟨"sortmulti", .lazy Lists.sortMulti, .between 1 2,
    "`$sortmulti(name,separator=\"; \")`\n\n"
      ++ "Returns the elements of `name` in sorted order."⟩,
  ⟨"reversemulti", .lazy Lists.reverseMulti, .between 1 2,
    "`$reversemulti(name,separator=\"; \")`\n\n"
      ++ "Returns the elements of `name` in reverse order."⟩,
  ⟨"unique", .lazy Lists.unique, .between 1 3,
    "`$unique(name,case_sensitive=\"\",separator=\"; \")`\n\n"
      ++ "Returns the distinct elements of `name`, sorted. Comparison ignores case unless "
      ++ "`case_sensitive` is set."⟩,
  ⟨"slice", .lazy Lists.slice, .between 3 4,
    "`$slice(name,start,end,separator=\"; \")`\n\n"
      ++ "Returns the elements of `name` from `start` up to (excluding) `end`. A blank "
      ++ "index means the start or end of the list."⟩,
  ⟨"join", .lazy Lists.join, .between 2 3,
    "`$join(name,text,separator=\"; \")`\n\n"
      ++ "Joins the elements of `name` with `text`."⟩,
  ⟨"is_multi", .lazy Lists.isMulti, .exactly 1,
    "`$is_multi(name)`\n\n"
      ++ "Returns true if `name` has more than one value."⟩,
  ⟨"cleanmulti", .eager Lists.cleanMulti, .exactly 1,
    "`$cleanmulti(name)`\n\n"
      ++ "Removes all empty values from the multi-valued tag `name`."⟩,
  ⟨"replacemulti", .lazy Lists.replaceMulti, .between 3 4,
    "`$replacemulti(name,search,replace,separator=\"; \")`\n\n"
      ++ "Replaces every element of `name` equal to `search` with `replace`. Elements "
      ++ "that become empty are dropped."⟩]

end Retag.Library

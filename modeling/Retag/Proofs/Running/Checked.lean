import Mathlib.Data.List.Basic
import Retag.Library.Standard
import Retag.Proofs.Glob.Places
import Retag.Proofs.Text.Bounds

/-!
# The library with its accesses

Functions of the library read their arguments, the elements of lists and the characters of texts by
places that they compute. Here the accesses of those that read more than single arguments are written
out: each of them asks for a place, and is an error if there is nothing. None of these functions
differs from that of the library.
-/

namespace Retag.Library

open Script Retag.Text

namespace Checked

/-- The value behind accesses, if these are all inside; otherwise an error as for an argument. -/
def inside {α : Type} (accessed : Option α) : Eval α := required accessed.toList 0

def ofTwo (f : String → String → Option String) : Implementation :=
  .eager fun args => do
    let a ← required args 0
    let b ← required args 1
    inside (f a b)

def ofThree (f : String → String → String → Option String) : Implementation :=
  .eager fun args => do
    let a ← required args 0
    let b ← required args 1
    let c ← required args 2
    inside (f a b c)

/-- A function of its first argument and the range of the others. -/
def ofFirst (f : String → List String → Option String) : Implementation :=
  .eager fun args => do
    let first ← required args 0
    let others ← inside (between? (1, args.length) args)
    inside (f first others)

/-- The argument at a place if the call has it, and otherwise a default. -/
def argumentOr (default : String) (args : List String) (index : Nat) : Eval String :=
  if index < args.length then required args index else return default

/-! ### Texts -/

def sliceText? (start stop : Option Int) (text : String) : Option String :=
  let chars := text.toList
  (between? (sliceRange chars.length start stop) chars).map String.ofList

def left? (text number : String) : Option String :=
  match readInteger? number with
  | some n => sliceText? none (some n) text
  | none => some ""

def right? (text number : String) : Option String :=
  match readInteger? number with
  | some n => sliceText? (some (-n)) none text
  | none => some ""

def substr? (text start stop : String) : Option String :=
  sliceText? (readInteger? start) (readInteger? stop) text

def truncate? (text length : String) : Option String :=
  (sliceText? none (readInteger? length) text).map Unicode.trimEnd

def firstWords? (text length : String) : Option String :=
  let n := (readInteger? length).getD 0
  let chars := text.toList
  if (chars.length : Int) ≤ n then some text
  else match resolveIndex chars.length n with
    | none => some ""
    | some place => do
      let head ← between? (sliceRange chars.length none (some n)) chars
      let next ← chars[place]?
      return if next = ' ' then String.ofList head
        else String.ofList ((beforeLast? ' ' head).getD head)

/-- The search counts bytes, and the part of the text before them is counted again in characters. -/
def findText? (text needle : String) : Option String :=
  match byteOf? needle.toList text.toList with
  | some byte => (cutBytes? byte text.toList).map fun (before, _) => toString before.length
  | none => some ""

/-- How many bytes a word at the start of a text and the white space after it take. -/
def wordEnd? (text : List Char) (word : String) : Option (Nat × String) :=
  match afterPrefix? word.toList text with
  | some (c :: rest) =>
    if Unicode.isBlank c then
      some (bytes (word.toList ++ (c :: rest).takeWhile Unicode.isBlank), Unicode.trim word)
    else none
  | _ => none

def cutPrefix? (text : String) (words : List String) : Option (String × Option String) :=
  let text := Unicode.trim text
  let words := if words.isEmpty then Texts.defaultPrefixes else words
  match words.findSome? (wordEnd? text.toList) with
  | some (stop, word) =>
    (cutBytes? stop text.toList).map fun (_, rest) => (String.ofList rest, some word)
  | none => some (text, none)

def swapPrefix? (text : String) (words : List String) : Option String :=
  (cutPrefix? text words).map fun
    | (rest, some word) => rest ++ ", " ++ word
    | (text, none) => text

def deletePrefix? (text : String) (words : List String) : Option String :=
  (cutPrefix? text words).map (·.1)

def firstAlpha (args : List String) : Eval String := do
  let other ← argumentOr "#" args 1
  match (optional args 0).toList with
  | c :: _ =>
    return if Unicode.isAlphabetic c then String.ofList (Unicode.upperChar c) else other
  | [] => return other

/-! ### Lists -/

def setMulti (args : List String) : Eval String := do
  let name ← required args 0
  let text ← required args 1
  let separator ← argumentOr joiner args 2
  Eval.modifyTags fun tags => (ValueList.ofText text separator).store tags name
  return ""

/-- The value at an index of a list; empty if the index denotes none. -/
def valueAt? (list : ValueList) (index : Int) : Option String :=
  match resolveIndex list.size index with
  | some place => list.values[place]?
  | none => some ""

def getMulti (args : List Argument) : Eval String := do
  match ← Lists.indexOf (← required args 1) with
  | none => return ""
  | some index =>
    let list ← listOf (← required args 0) args[2]?
    inside (valueAt? list index)

def slice (args : List Argument) : Eval String := do
  let start ← Lists.indexOf (← required args 1)
  let stop ← Lists.indexOf (← required args 2)
  let list ← listOf (← required args 0) args[3]?
  let values ← inside (between? (sliceRange list.size start stop) list.values)
  return Lists.joined list values

/-- Puts a value at an index of a list, in place of the one there. -/
def put? (list : ValueList) (index : Int) (value : String) : Option ValueList :=
  match resolveIndex list.size index with
  | some place =>
    list.values[place]?.map fun _ => { list with values := list.values.set place value }
  | none => some list

/-- Runs `code` on the values at the next `left` places, with `i` before, and puts its values
there. -/
def rounds (code : Eval String) (i : Nat) : Nat → ValueList → Eval ValueList
  | 0, list => return list
  | left + 1, list => do
    let value ← required list.values i
    Control.startRound (i + 1) value
    let result ← code
    let list ← inside (put? list i result)
    rounds code (i + 1) left list

def map (args : List Argument) : Eval String := do
  let list ← listOf (← required args 0) args[2]?
  let code ← required args 1
  let list ← rounds code.value 0 (min list.size maxRounds) list
  Control.endLoop
  return list.text

/-! ### Filters -/

def globOf? (source : String) : Option (Except FilterError Filter) :=
  (Glob.readFrom? none source.toList).map fun
    | none => .error .unclosedClass
    | some items =>
      if items.all Glob.Item.isWritable then .ok ⟨source, .glob, .glob items⟩
      else .error .invalidRegex

def filterOf? (text : String) : Option (Except FilterError Filter) :=
  match Filter.betweenSlashes? text.toList with
  | some re => some (Filter.make (String.ofList re) .regexp)
  | none =>
    if text.toList.any fun c => c = '*' || c = '?' || c = '[' then globOf? text
    else some (Filter.make text .substring)

def performer (args : List String) : Eval String := do
  let glue ← argumentOr ", " args 1
  match ← inside (filterOf? (optional args 0)) with
  | .ok filter => return String.intercalate glue (Facts.performers filter (← Eval.tags))
  | .error _ => return ""

variable {α : Type}

@[simp] theorem inside_some (a : α) : inside (some a) = pure a := rfl

/-! ## Functions of texts -/

theorem ofTwo_eq {f : String → String → Option String} {g : String → String → String}
    (h : ∀ a b, f a b = some (g a b)) : ofTwo f = Library.ofTwo g := by
  simp only [ofTwo, Library.ofTwo, h, inside_some]

theorem ofThree_eq {f : String → String → String → Option String}
    {g : String → String → String → String} (h : ∀ a b c, f a b c = some (g a b c)) :
    ofThree f = Library.ofThree g := by
  simp only [ofThree, Library.ofThree, h, inside_some]

theorem ofFirst_eq {f : String → List String → Option String} {g : String → List String → String}
    (h : ∀ first others, f first others = some (g first others)) :
    ofFirst f = Library.ofFirst g := by
  refine congrArg Implementation.eager (funext fun args => ?_)
  cases args with
  | nil =>
    simp only [required, List.getElem?_nil, bind_assoc]
    rfl
  | cons first others =>
    have hothers : between? (1, (first :: others).length) (first :: others) = some others :=
      between?_tail first others
    simp only [hothers, h, inside_some, pure_bind, List.tail_cons]

theorem argumentOr_eq (default : String) (args : List String) (index : Nat) :
    argumentOr default args index = pure (args.getD index default) := by
  rw [argumentOr, List.getD_eq_getElem?_getD]
  split
  case isTrue h => rw [required, List.getElem?_eq_getElem h, Option.getD_some]
  case isFalse h =>
    rw [List.getElem?_eq_none (Nat.le_of_not_lt h), Option.getD_none]

theorem sliceText?_eq (start stop : Option Int) (text : String) :
    sliceText? start stop text = some (sliceText start stop text) := by
  simp only [sliceText?, between?_sliceRange, Option.map_some, sliceText]

theorem left?_eq (text number : String) : left? text number = some (Texts.left text number) := by
  rw [left?, Texts.left]
  cases readInteger? number with
  | none => rfl
  | some n => exact sliceText?_eq ..

theorem right?_eq (text number : String) : right? text number = some (Texts.right text number) := by
  rw [right?, Texts.right]
  cases readInteger? number with
  | none => rfl
  | some n => exact sliceText?_eq ..

theorem truncate?_eq (text length : String) :
    truncate? text length = some (Texts.truncate text length) := by
  rw [truncate?, sliceText?_eq, Option.map_some, Texts.truncate]

theorem firstWords?_eq (text length : String) :
    firstWords? text length = some (Texts.firstWords text length) := by
  simp only [firstWords?, Texts.firstWords, between?_sliceRange]
  split
  · rfl
  · rcases hplace : resolveIndex text.toList.length ((readInteger? length).getD 0) with _ | place
    · rfl
    · have hnext := List.getElem?_eq_getElem (resolveIndex_lt hplace)
      simp only [Option.bind_some, Option.bind_eq_bind, hnext, Option.pure_def]

theorem findText?_eq (text needle : String) :
    findText? text needle = some (Texts.findText text needle) := by
  rw [findText?, Texts.findText, find?]
  rcases hfound : indexOf? needle.toList text.toList with _ | n
  · rw [byteOf?_eq, hfound, Option.map_none]
  · obtain ⟨byte, before, after, hbyte, hcut, hlength⟩ := cutBytes?_byteOf? hfound
    simp only [hbyte, hcut, Option.map_some, hlength]

/-- Cutting the text at the place says what follows the word. -/
def Leaves (text : List Char) (found : Nat × String) (after : List Char × String) : Prop :=
  (cutBytes? found.1 text).map (·.2) = some after.1 ∧ found.2 = after.2

theorem rel_wordEnd? (text : List Char) (word : String) :
    Option.Rel (Leaves text) (wordEnd? text word) (Texts.afterWord? text word) := by
  rw [wordEnd?, Texts.afterWord?]
  rcases hafter : afterPrefix? word.toList text with _ | _ | ⟨c, rest⟩
  · exact .none
  · exact .none
  · dsimp only
    split
    case isFalse _ => exact .none
    case isTrue hblank =>
      have htext : word.toList ++ (c :: rest) = text :=
        List.isPrefixOf?_eq_some_iff_append_eq.mp hafter
      have hcut := cutBytes?_append (word.toList ++ (c :: rest).takeWhile Unicode.isBlank)
        ((c :: rest).dropWhile Unicode.isBlank)
      rw [List.append_assoc, List.takeWhile_append_dropWhile, htext] at hcut
      refine .some ⟨?_, rfl⟩
      rw [hcut, Option.map_some, List.dropWhile_cons_of_pos hblank]

theorem rel_findSome? {β γ : Type} {R : β → γ → Prop} {f : α → Option β} {g : α → Option γ}
    (h : ∀ a, Option.Rel R (f a) (g a)) (as : List α) :
    Option.Rel R (as.findSome? f) (as.findSome? g) := by
  induction as with
  | nil => exact .none
  | cons a rest ih =>
    have ha := h a
    rw [List.findSome?_cons, List.findSome?_cons]
    generalize f a = found at ha
    generalize g a = found' at ha
    cases ha with
    | none => exact ih
    | some hfound => exact .some hfound

theorem cutPrefix?_eq (text : String) (words : List String) :
    cutPrefix? text words = some (Texts.cutPrefix text words) := by
  rw [cutPrefix?, Texts.cutPrefix]
  dsimp only
  have hfound := rel_findSome? (rel_wordEnd? (Unicode.trim text).toList)
    (if words.isEmpty then Texts.defaultPrefixes else words)
  revert hfound
  generalize List.findSome? (wordEnd? _) _ = found
  generalize List.findSome? (Texts.afterWord? _) _ = after
  intro hfound
  cases hfound with
  | none => rfl
  | @some found after hleaves =>
    obtain ⟨hcut, hword⟩ := hleaves
    obtain ⟨⟨before, rest⟩, hcut, hrest⟩ := Option.map_eq_some_iff.mp hcut
    simp only [hcut, Option.map_some, hword, ← hrest]

theorem swapPrefix?_eq (text : String) (words : List String) :
    swapPrefix? text words = some (Texts.swapPrefix text words) :=
  congrArg (Option.map _) (cutPrefix?_eq text words)

theorem deletePrefix?_eq (text : String) (words : List String) :
    deletePrefix? text words = some (Texts.deletePrefix text words) :=
  congrArg (Option.map _) (cutPrefix?_eq text words)

theorem firstAlpha_eq : firstAlpha = fun args => pure (Texts.firstAlpha args) := by
  funext args
  simp only [firstAlpha, argumentOr_eq, pure_bind, Texts.firstAlpha]
  cases (optional args 0).toList with
  | nil => rfl
  | cons c _ => rfl

/-! ## Functions of lists -/

theorem setMulti_eq : setMulti = Lists.setMulti := by
  funext args
  simp only [setMulti, Lists.setMulti, argumentOr_eq, pure_bind]

theorem valueAt?_eq (list : ValueList) (index : Int) :
    valueAt? list index = some ((list.get? index).getD "") := by
  rw [valueAt?, ValueList.get?]
  rcases hplace : resolveIndex list.size index with _ | place
  · rfl
  · have hvalue := List.getElem?_eq_getElem (resolveIndex_lt hplace)
    rw [Option.bind_some]
    exact hvalue.trans (congrArg some (by rw [hvalue, Option.getD_some]))

theorem getMulti_eq : getMulti = Lists.getMulti := by
  funext args
  refine bind_congr fun i => bind_congr fun index => ?_
  cases index with
  | none => rfl
  | some index =>
    exact bind_congr fun multi => bind_congr fun list => congrArg inside (valueAt?_eq list index)

theorem slice_eq : slice = Lists.slice := by
  funext args
  have hrange (list : ValueList) (start stop : Option Int) :
      between? (sliceRange list.size start stop) list.values = some (list.slice start stop) :=
    between?_sliceRange start stop list.values
  simp only [slice, Lists.slice, hrange, inside_some, pure_bind]

theorem put?_eq (separator : String) (done : List String) (value result : String)
    (rest : List String) :
    put? ⟨done ++ value :: rest, separator⟩ done.length result
      = some ⟨done ++ result :: rest, separator⟩ := by
  have hlength : done.length < (done ++ value :: rest).length := by simp
  have hplace : resolveIndex (ValueList.size ⟨done ++ value :: rest, separator⟩) done.length
      = some done.length := if_pos hlength
  simp [put?, hplace]

/-- While the loop puts its values at the places that it is done with, the places ahead keep
theirs. -/
theorem rounds_eq (code : Eval String) (separator : String) (left : Nat) (done rest : List String)
    (hleft : left ≤ rest.length) :
    rounds code done.length left ⟨done ++ rest, separator⟩
      = Control.rounds code done.length (rest.take left) >>= fun results =>
          pure ⟨done ++ results ++ rest.drop left, separator⟩ := by
  induction left generalizing done rest with
  | zero =>
    rw [rounds, List.take_zero, Control.rounds, pure_bind, List.drop_zero, List.append_nil]
  | succ left ih =>
    -- The place of this round is the first of those ahead; its value joins those that are done.
    obtain ⟨value, rest, rfl⟩ :=
      List.exists_cons_of_length_pos (Nat.lt_of_lt_of_le left.succ_pos hleft)
    have hvalue : required (done ++ value :: rest) done.length = pure value := by
      rw [required, List.getElem?_append_right (Nat.le_refl _), Nat.sub_self,
        List.getElem?_cons_zero]
    have hnext (result : String) := ih (done ++ [result]) rest (Nat.le_of_succ_le_succ hleft)
    simp only [List.length_append, List.length_singleton, List.append_assoc, List.singleton_append]
      at hnext
    simp only [rounds, hvalue, pure_bind, put?_eq, inside_some, hnext, List.take_succ_cons,
      Control.rounds, bind_assoc, List.drop_succ_cons, List.cons_append, List.append_assoc]

theorem map_eq : map = Control.map := by
  funext args
  have hrounds (code : Eval String) (list : ValueList) :
      rounds code 0 (min list.size maxRounds) list
        = Control.rounds code 0 (list.values.take maxRounds) >>= fun results =>
            pure { list with values := results ++ list.values.drop maxRounds } := by
    have hall := rounds_eq code list.separator (min list.size maxRounds) [] list.values
      (Nat.min_le_left ..)
    rw [ValueList.size] at hall
    rcases Nat.le_total list.values.length maxRounds with h | h
    · rw [Nat.min_eq_left h, List.take_length, List.drop_length] at hall
      rw [List.take_of_length_le h, List.drop_eq_nil_of_le h, ValueList.size, Nat.min_eq_left h]
      exact hall
    · rw [Nat.min_eq_right h] at hall
      rw [ValueList.size, Nat.min_eq_right h]
      exact hall
  simp only [map, Control.map, hrounds, bind_assoc, pure_bind]

/-! ## Filters -/

theorem filterOf?_eq (text : String) : filterOf? text = some (Filter.ofText text) := by
  rw [filterOf?, Filter.ofText]
  cases Filter.betweenSlashes? text.toList with
  | some re => rfl
  | none =>
    dsimp only
    split
    · rw [globOf?, Glob.readFrom?_eq, Filter.make, Glob.read?]
      cases Glob.readFrom none text.toList <;> rfl
    · rfl

theorem performer_eq : performer = Facts.performer := by
  funext args
  cases hfilter : Filter.ofText (optional args 0) <;>
    simp only [performer, Facts.performer, argumentOr_eq, filterOf?_eq, hfilter, inside_some,
      pure_bind]

end Checked

end Retag.Library

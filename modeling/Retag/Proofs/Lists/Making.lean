import Retag.Proofs.Lists.Normal
import Retag.Proofs.Lists.Order
import Retag.Proofs.Running.LoneTags
import Retag.Proofs.Running.Surroundings

/-!
# Functions that make lists of lists

Functions of lists hand their lists on as joined text. Where the separator does not overlap itself,
what one of them made is what the next one reads: its values are some of those that it read, which
are not empty and do not hold the separator. So calls compose as the functions on lists do.
-/

namespace Retag.Library

open Script

/-! ## Calls with a text for a list -/

section Calls

variable {t : Tree} {others : List Tree}

/-- The list that an argument stands for, unless it is a lone tag. -/
theorem listOf_text {multi : Argument} (h : Tree.singleTag? multi.tree = none)
    (separator : Option Argument) :
    listOf multi separator = (do
      let values ← Argument.valuesOf separator.toList
      let text ← multi.value
      return .ofText text (values.getD 0 joiner)) := by
  cases separator <;> simp [listOf, Argument.valuesOf, h]

/-- An index for which nothing is written has no value, as one that is no integer. -/
theorem indexOf_argument (t : Tree) :
    Lists.indexOf (argument t) = (do return Text.readInteger? (← (argument t).value)) := by
  rw [Lists.indexOf]
  split
  · next hblank =>
    obtain rfl : t = [] := List.isEmpty_iff.mp hblank
    rw [argument, evalTree, pure_bind]
    rfl
  · rfl

/-- A call of a function that first evaluates its other arguments and then its list. The call itself
makes no difference to them. -/
theorem evalTree_call {function doc : String} {arity : Arity}
    {run : List Argument → Eval String} {answer : List String → String → String}
    (hfind : standard.find? function = some ⟨function, .lazy run, arity, doc⟩)
    (hrun : run (argument t :: others.map argument) = (do
      let values ← Argument.valuesOf (others.map argument)
      let text ← (argument t).value
      return answer values text))
    (hn : arity.accepts (others.length + 1) = true) (position : Position) :
    evalTree standard [.call function (t :: others) position] = (do
      let values ← Argument.valuesOf (argumentsOf standard others)
      let text ← evalTree standard t
      return answer values text) := by
  have hothers : argumentsOf standard others = others.map argument := argumentsOf_eq standard others
  have hvalues : (Argument.valuesOf (others.map argument)).SeesOnly [] := by
    refine .valuesOf fun a ha => ?_
    obtain ⟨t, -, rfl⟩ := List.mem_map.mp ha
    exact seesOnly_standard t
  have hsees : (run (argument t :: others.map argument)).SeesOnly [] := by
    rw [hrun]
    exact hvalues.bind fun values => (seesOnly_standard t).bind fun text => .pure _
  have hcall : standard.call function (argument t :: others.map argument) position
      = run (argument t :: others.map argument) := by
    have hlength : (argument t :: others.map argument).length = others.length + 1 := by simp
    simp only [Registry.call, hfind, hlength, hn, if_true]
    exact hsees.inFrame_eq _
  have hargs : argumentsOf standard (t :: others) = argument t :: others.map argument :=
    argumentsOf_eq standard (t :: others)
  rw [hothers, evalTree, Node.eval, hargs, hcall, hrun, evalTree]
  simp [argument]

end Calls

/-! ## The functions -/

/-- A function that makes a list out of values of its list. -/
structure ListMaker where
  name : String
  arity : Arity
  /-- How many arguments stand between the list and the separator. -/
  between : Nat
  /-- The list that it makes, given the values of its other arguments. -/
  make : List String → List String → List String

namespace ListMaker

def sort : ListMaker := ⟨"sortmulti", .between 1 2, 0, fun _ => Lists.sorted⟩

def reverse : ListMaker := ⟨"reversemulti", .between 1 2, 0, fun _ => List.reverse⟩

/-- Its other argument is true if case counts. -/
def unique : ListMaker :=
  ⟨"unique", .between 1 3, 1, fun others => Lists.distinct (!(others.getD 0 "").isEmpty)⟩

/-- Its other arguments are the bounds; one that is no integer is left out. -/
def slice : ListMaker :=
  ⟨"slice", .between 3 4, 2, fun others =>
    Text.slice (Text.readInteger? (others.getD 0 "")) (Text.readInteger? (others.getD 1 ""))⟩

def all : List ListMaker := [sort, reverse, unique, slice]

/-- The separator among the values of the other arguments. -/
def separator (m : ListMaker) (others : List String) : String := others.getD m.between joiner

/-- The list that is made of the pieces of a text. -/
def list (m : ListMaker) (others : List String) (text : String) : List String :=
  m.make others (ValueList.ofText text (m.separator others)).values

/-- What a call gives. -/
def result (m : ListMaker) (others : List String) (text : String) : String :=
  (m.separator others).intercalate (m.list others text)

/-- The bounds and the separator among the values of the other arguments. -/
theorem slice_result (start stop : String) (values : List String) (text : String) :
    let l : ValueList := .ofText text (values.getD 0 joiner)
    slice.result (start :: stop :: values) text
      = Lists.joined l (l.slice (Text.readInteger? start) (Text.readInteger? stop)) := by
  simp only [result, list, slice]
  rfl

/-! ### What the calls give -/

section Results

variable {t : Tree} {others : List Tree}

/-- A function of the list alone evaluates the separator and then the text. -/
theorem run_of_separator {run : List Argument → Eval String} {f : ValueList → String}
    (hrun : ∀ multi separator, run (multi :: separator.toList) = (do
      let list ← listOf multi separator
      return f list))
    (ht : Tree.singleTag? t = none)
    (hn : (Arity.between 1 2).accepts (others.length + 1) = true) :
    run (argument t :: others.map argument) = (do
      let values ← Argument.valuesOf (others.map argument)
      let text ← (argument t).value
      return f (.ofText text (values.getD 0 joiner))) := by
  obtain ⟨fixed, separator, rfl, hfixed⟩ := exists_separator hn
  obtain rfl := List.length_eq_zero_iff.mp hfixed
  have htext : Tree.singleTag? (argument t).tree = none := ht
  rw [List.nil_append, map_argument, hrun, listOf_text htext]
  simp only [bind_assoc, pure_bind]

theorem unique_argument (ht : Tree.singleTag? t = none)
    (hn : unique.arity.accepts (others.length + 1) = true) :
    Lists.unique (argument t :: others.map argument) = (do
      let values ← Argument.valuesOf (others.map argument)
      let text ← (argument t).value
      return unique.result values text) := by
  have htext : Tree.singleTag? (argument t).tree = none := ht
  rcases others with _ | ⟨caseSensitive, others⟩
  · rw [List.map_nil, unique_alone_eq, listOf_text htext]
    simp only [Option.toList_none, Argument.valuesOf, bind_assoc, pure_bind]
    rfl
  · obtain ⟨-, hmax⟩ := accepts_between.mp hn
    have hmore : (Arity.between 2 3).accepts ((caseSensitive :: others).length + 1) = true :=
      accepts_between.mpr ⟨by simp, hmax⟩
    obtain ⟨fixed, separator, hothers, hfixed⟩ := exists_separator hmore
    obtain ⟨first, rfl⟩ := List.length_eq_one_iff.mp hfixed
    rw [hothers, List.singleton_append, List.map_cons, map_argument, unique_eq, listOf_text htext]
    simp only [Argument.valuesOf, bind_assoc, pure_bind]
    rfl

theorem slice_argument (ht : Tree.singleTag? t = none)
    (hn : slice.arity.accepts (others.length + 1) = true) :
    Lists.slice (argument t :: others.map argument) = (do
      let values ← Argument.valuesOf (others.map argument)
      let text ← (argument t).value
      return slice.result values text) := by
  have htext : Tree.singleTag? (argument t).tree = none := ht
  obtain ⟨fixed, separator, rfl, hfixed⟩ := exists_separator hn
  obtain ⟨start, stop, rfl⟩ := List.length_eq_two.mp hfixed
  rw [List.cons_append, List.singleton_append, List.map_cons, List.map_cons, map_argument,
    slice_eq, listOf_text htext, indexOf_argument, indexOf_argument]
  simp only [Argument.valuesOf, bind_assoc, pure_bind, slice_result]

/-- A call evaluates its other arguments and its text, and gives what it makes of the pieces. -/
theorem evalTree_maker {m : ListMaker} (hm : m ∈ all) (ht : Tree.singleTag? t = none)
    (hn : m.arity.accepts (others.length + 1) = true) (position : Position) :
    evalTree standard [.call m.name (t :: others) position] = (do
      let values ← Argument.valuesOf (argumentsOf standard others)
      let text ← evalTree standard t
      return m.result values text) := by
  simp only [all, List.mem_cons, List.not_mem_nil, or_false] at hm
  rcases hm with rfl | rfl | rfl | rfl
  · exact evalTree_call ((find?_standard _).trans rfl) (run_of_separator sortMulti_eq ht hn) hn
      position
  · exact evalTree_call ((find?_standard _).trans rfl) (run_of_separator reverseMulti_eq ht hn) hn
      position
  · exact evalTree_call ((find?_standard _).trans rfl) (unique_argument ht hn) hn position
  · exact evalTree_call ((find?_standard _).trans rfl) (slice_argument ht hn) hn position

theorem evalTree_lenMulti (ht : Tree.singleTag? t = none)
    (hn : (Arity.between 1 2).accepts (others.length + 1) = true) (position : Position) :
    evalTree standard [.call "lenmulti" (t :: others) position] = (do
      let values ← Argument.valuesOf (argumentsOf standard others)
      let text ← evalTree standard t
      return toString (ValueList.ofText text (values.getD 0 joiner)).size) :=
  evalTree_call ((find?_standard _).trans rfl) (run_of_separator lenMulti_eq ht hn) hn position

end Results

/-! ### What is read back -/

section ReadBack

variable {m m' : ListMaker} {others others' : List String} {v : String}

theorem mem_of_mem_slice {start stop : Option Int} {values : List String}
    (h : v ∈ Text.slice start stop values) : v ∈ values := by
  rw [Text.slice] at h
  exact List.mem_of_mem_drop (List.mem_of_mem_take h)

theorem mem_of_mem_make (hm : m ∈ all) {values : List String} (h : v ∈ m.make others values) :
    v ∈ values := by
  simp only [all, List.mem_cons, List.not_mem_nil, or_false] at hm
  rcases hm with rfl | rfl | rfl | rfl
  · exact (Lists.sorted_perm values).mem_iff.mp h
  · exact List.mem_reverse.mp h
  · exact Lists.mem_of_mem_distinct h
  · simp only [slice] at h
    exact mem_of_mem_slice h

/-- A list that was made is what its text stands for. -/
theorem values_result (hm : m ∈ all) (hseparator : m.separator others ≠ "")
    (hborder : Text.Unbordered (m.separator others).toList) (text : String) :
    (ValueList.ofText (m.result others text) (m.separator others)).values
      = m.list others text := by
  refine ValueList.values_ofText_intercalate hseparator (fun v hv => ?_) (.of_unbordered hborder ?_)
  · exact ValueList.ne_empty_of_mem_ofText (mem_of_mem_make hm hv)
  · refine List.forall_mem_map.mpr fun v hv => ?_
    exact ValueList.not_infix_of_mem_ofText hseparator (mem_of_mem_make hm hv)

/-- What one function hands on to another is the list that it made. -/
theorem list_result (hm' : m' ∈ all) (hseparator : m'.separator others' ≠ "")
    (hborder : Text.Unbordered (m'.separator others').toList)
    (hsame : m.separator others = m'.separator others') (text : String) :
    m.list others (m'.result others' text) = m.make others (m'.list others' text) := by
  rw [list, hsame, values_result hm' hseparator hborder]

end ReadBack

/-! ### Calls in calls -/

/-- The call of a function with a text for its list. -/
def call (m : ListMaker) (t : Tree) (others : List Tree) (position : Position) : Tree :=
  [.call m.name (t :: others) position]

theorem singleTag?_call (m : ListMaker) (t : Tree) (others : List Tree) (position : Position) :
    Tree.singleTag? (m.call t others position) = none := rfl

/-- Other arguments for a function, with the same values in every state, among them a separator that
does not overlap itself. -/
structure Separates (m : ListMaker) (others : List Tree) (values : List String) : Prop where
  known : m ∈ all
  accepted : m.arity.accepts (others.length + 1) = true
  values_eq : Argument.valuesOf (argumentsOf standard others) = pure values
  separator_ne : m.separator values ≠ ""
  unbordered : Text.Unbordered (m.separator values).toList

section Constant

variable {m m' : ListMaker} {t : Tree} {others : List Tree} {values : List String}

/-- With the same values of the other arguments in every state, a call is a function of its text. -/
theorem Separates.evalTree_call (h : m.Separates others values) (ht : Tree.singleTag? t = none)
    (position : Position) :
    evalTree standard (m.call t others position)
      = (do return m.result values (← evalTree standard t)) := by
  rw [call, evalTree_maker h.known ht h.accepted, h.values_eq, pure_bind]

/-- What the outer one of two calls makes, it makes of the list that the inner one made. -/
theorem Separates.evalTree_call_call (h : m.Separates others values)
    (h' : m'.Separates others values) (hsame : m.separator values = m'.separator values)
    (ht : Tree.singleTag? t = none) (position position' : Position) :
    evalTree standard (m.call (m'.call t others position') others position) = (do
      let text ← evalTree standard t
      return (m.separator values).intercalate (m.make values (m'.list values text))) := by
  have hlist := list_result h'.known h'.separator_ne h'.unbordered hsame
  rw [h.evalTree_call (singleTag?_call ..), h'.evalTree_call ht]
  simp only [bind_assoc, pure_bind, result, ← hlist]

/-- A function that undoes what another one did to the list also does so around its call. -/
theorem Separates.evalTree_call_absorb (h : m.Separates others values)
    (h' : m'.Separates others values) (hsame : m.separator values = m'.separator values)
    (habsorb : ∀ pieces, m.make values (m'.make values pieces) = m.make values pieces)
    (ht : Tree.singleTag? t = none) (position position' : Position) :
    evalTree standard (m.call (m'.call t others position') others position)
      = evalTree standard (m.call t others position) := by
  rw [h.evalTree_call_call h' hsame ht, h.evalTree_call ht]
  simp only [result, list, habsorb, hsame]

/-- A function that keeps the number of values keeps it around its call. -/
theorem Separates.evalTree_lenMulti (h : m.Separates others values)
    (hdefault : m.separator values = values.getD 0 joiner)
    (hn : (Arity.between 1 2).accepts (others.length + 1) = true)
    (hlength : ∀ pieces, (m.make values pieces).length = pieces.length)
    (ht : Tree.singleTag? t = none) (position position' : Position) :
    evalTree standard [.call "lenmulti" (m.call t others position' :: others) position]
      = evalTree standard [.call "lenmulti" (t :: others) position] := by
  have hsize (text : String) : (ValueList.ofText (m.result values text) (m.separator values)).size
      = (ValueList.ofText text (m.separator values)).size := by
    rw [ValueList.size, values_result h.known h.separator_ne h.unbordered, list, hlength,
      ValueList.size]
  rw [ListMaker.evalTree_lenMulti (singleTag?_call ..) hn, ListMaker.evalTree_lenMulti ht hn,
    h.values_eq, h.evalTree_call ht]
  simp only [bind_assoc, pure_bind, ← hdefault, hsize]

end Constant

/-! ### Laws -/

/-- Sorting and reversing the list of a text, with a separator that is read from `others`. -/
structure SortingLaws (t : Tree) (others : List Tree) (separator : String)
    (position position' : Position) : Prop where
  reverse_reverse :
    evalTree standard (reverse.call (reverse.call t others position') others position)
      = (do return (ValueList.ofText (← evalTree standard t) separator).text)
  sort_sort :
    evalTree standard (sort.call (sort.call t others position') others position)
      = evalTree standard (sort.call t others position)
  sort_reverse :
    evalTree standard (sort.call (reverse.call t others position') others position)
      = evalTree standard (sort.call t others position)
  length : ∀ m ∈ [sort, reverse],
    evalTree standard [.call "lenmulti" (m.call t others position' :: others) position]
      = evalTree standard [.call "lenmulti" (t :: others) position]
  /-- What is sorted stands for the values of the text, in order. -/
  sorted : ∀ host s out s',
    (evalTree standard (sort.call t others position)).runFrom host s = (.ok out, s') →
      ∃ text, (evalTree standard t).runFrom host s = (.ok text, s') ∧
        (ValueList.ofText out separator).values.Perm (ValueList.ofText text separator).values ∧
        (ValueList.ofText out separator).values.Pairwise (· ≤ ·)

section Laws

variable {t : Tree} {others : List Tree} {values : List String} {separator : String}

/-- Up to `n` other arguments. -/
theorem accepts_of_length_le {n : Nat} (h : others.length ≤ n) :
    (Arity.between 1 (n + 1)).accepts (others.length + 1) = true :=
  accepts_between.mpr ⟨Nat.le_add_left 1 _, Nat.succ_le_succ h⟩

theorem sortingLaws (hsort : sort.Separates others values) (ht : Tree.singleTag? t = none)
    (hseparator : values.getD 0 joiner = separator) (position position' : Position) :
    SortingLaws t others separator position position' := by
  subst hseparator
  have hreverse : reverse.Separates others values :=
    ⟨by simp [all], hsort.accepted, hsort.values_eq, hsort.separator_ne, hsort.unbordered⟩
  have hsorted (pieces : List String) : (Lists.sorted pieces).Perm pieces :=
    Lists.sorted_perm pieces
  constructor
  case reverse_reverse =>
    rw [hreverse.evalTree_call_call hreverse rfl ht]
    refine bind_congr fun text => ?_
    rw [ValueList.text_ofText]
    exact congrArg (fun pieces => pure (String.intercalate _ pieces)) (List.reverse_reverse _)
  case sort_sort =>
    exact hsort.evalTree_call_absorb hsort rfl
      (fun pieces => Lists.sorted_eq_of_perm (hsorted pieces)) ht position position'
  case sort_reverse =>
    exact hsort.evalTree_call_absorb hreverse rfl
      (fun pieces => Lists.sorted_eq_of_perm pieces.reverse_perm) ht position position'
  case length =>
    intro m hm
    simp only [List.mem_cons, List.not_mem_nil, or_false] at hm
    rcases hm with rfl | rfl
    · exact hsort.evalTree_lenMulti rfl hsort.accepted (fun pieces => (hsorted pieces).length_eq)
        ht position position'
    · exact hreverse.evalTree_lenMulti rfl hreverse.accepted (fun _ => List.length_reverse)
        ht position position'
  case sorted =>
    intro host s out s' hrun
    rw [hsort.evalTree_call ht, Eval.runFrom_bind] at hrun
    rcases htext : (evalTree standard t).runFrom host s with ⟨e | text, s''⟩
    · rw [htext] at hrun
      cases hrun
    · rw [htext] at hrun
      obtain ⟨hout, rfl⟩ := Prod.mk.inj hrun
      obtain rfl : sort.result values text = out := Except.ok.inj hout
      have hread := values_result hsort.known hsort.separator_ne hsort.unbordered text
      refine ⟨text, rfl, ?_, ?_⟩
      · exact hread ▸ hsorted _
      · exact hread ▸ Lists.pairwise_sorted _

end Laws

end ListMaker

/-- Other arguments that are plain texts have these values in every state. -/
theorem valuesOf_texts (r : Registry) (texts : List String) :
    Argument.valuesOf (argumentsOf r (texts.map fun text => [.text text])) = pure texts := by
  induction texts with
  | nil => rfl
  | cons text rest ih =>
    have htext : evalTree r [.text text] = pure text := by
      simp [evalTree, Node.eval]
    simp [argumentsOf, Argument.valuesOf, htext, ih]

/-- A function of lists evaluates its other arguments, then its text, and makes its list of the
pieces; with a separator that does not overlap itself, this list is what its text stands for. So
reversing twice leaves the text without its empty pieces, sorting twice is sorting once, also of a
reversed list, and neither changes how many values there are; what is sorted stands for the same
values in order; and taking the distinct values twice is taking them once. -/
theorem lists_compose :
    (∀ t, Tree.singleTag? t = none → ∀ others position,
      (∀ m ∈ ListMaker.all, m.arity.accepts (others.length + 1) = true →
        evalTree standard (m.call t others position) = (do
          let values ← Argument.valuesOf (argumentsOf standard others)
          let text ← evalTree standard t
          return m.result values text)) ∧
      (others.length ≤ 1 →
        evalTree standard [.call "lenmulti" (t :: others) position] = (do
          let values ← Argument.valuesOf (argumentsOf standard others)
          let text ← evalTree standard t
          return toString (ValueList.ofText text (values.getD 0 joiner)).size))) ∧
    ∀ separator, separator ≠ "" → Text.Unbordered separator.toList →
      (∀ m ∈ ListMaker.all, ∀ others, m.separator others = separator → ∀ text,
        (ValueList.ofText (m.result others text) separator).values = m.list others text) ∧
      ∀ t, Tree.singleTag? t = none → ∀ others values,
        Argument.valuesOf (argumentsOf standard others) = pure values →
        ∀ position position',
          (others.length ≤ 1 → values.getD 0 joiner = separator →
            ListMaker.SortingLaws t others separator position position') ∧
          (others.length ≤ 2 → values.getD 1 joiner = separator →
            evalTree standard
                (ListMaker.unique.call (ListMaker.unique.call t others position') others position)
              = evalTree standard (ListMaker.unique.call t others position)) := by
  constructor
  · intro t ht others position
    refine ⟨fun m hm hn => ListMaker.evalTree_maker hm ht hn position, fun hn => ?_⟩
    exact ListMaker.evalTree_lenMulti ht (ListMaker.accepts_of_length_le hn) position
  intro separator hseparator hborder
  constructor
  · intro m hm others hsame text
    subst hsame
    exact ListMaker.values_result hm hseparator hborder text
  intro t ht others values hvalues position position'
  constructor
  · intro hn hsame
    subst hsame
    have hsort : ListMaker.sort.Separates others values :=
      ⟨by simp [ListMaker.all], ListMaker.accepts_of_length_le hn, hvalues, hseparator, hborder⟩
    exact ListMaker.sortingLaws hsort ht rfl position position'
  · intro hn hsame
    subst hsame
    have hunique : ListMaker.unique.Separates others values :=
      ⟨by simp [ListMaker.all], ListMaker.accepts_of_length_le hn, hvalues, hseparator, hborder⟩
    exact hunique.evalTree_call_absorb hunique rfl
      (fun pieces => Lists.distinct_distinct _ pieces) ht position position'

/-- Calls with a separator that is written out, on a text with an empty piece. -/
theorem lists_compose_comma :
    let t : Tree := [.text "b, , a, b"]
    let comma : Tree := [.text ", "]
    let reversed :=
      ListMaker.reverse.call (ListMaker.reverse.call t [comma] ⟨1, 14, 13⟩) [comma] .start
    let once := ListMaker.unique.call t [[.text "1"], comma]
    Tree.singleTag? t = none ∧ ", " ≠ "" ∧ Text.Unbordered ", ".toList ∧
    ListMaker.slice.list ["0", "2", ", "] "b, , a, b" = ["b", "a"] ∧
    (ValueList.ofText (ListMaker.slice.result ["0", "2", ", "] "b, , a, b") ", ").values
      = ["b", "a"] ∧
    (∀ host s, (evalTree standard reversed).runFrom host s = (.ok "b, a, b", s)) ∧
    evalTree standard
        (ListMaker.unique.call (once ⟨1, 9, 8⟩) [[.text "1"], comma] .start)
      = evalTree standard (once .start) := by
  intro t comma reversed once
  have hseparator : ", " ≠ "" := by decide
  have hborder : Text.Unbordered ", ".toList := Text.unbordered_pair (by decide)
  have hslice : ListMaker.slice.list ["0", "2", ", "] "b, , a, b" = ["b", "a"] := by decide
  obtain ⟨hread, hlaws⟩ := lists_compose.2 ", " hseparator hborder
  have hsorting := (hlaws t rfl [comma] [", "] (valuesOf_texts standard [", "]) .start
    ⟨1, 14, 13⟩).1 (by decide) rfl
  have hunique := (hlaws t rfl [[.text "1"], comma] ["1", ", "]
    (valuesOf_texts standard ["1", ", "]) .start ⟨1, 9, 8⟩).2 (by decide) rfl
  refine ⟨rfl, hseparator, hborder, hslice, ?_, fun host s => ?_, hunique⟩
  · exact (hread ListMaker.slice (by simp [ListMaker.all]) ["0", "2", ", "] rfl _).trans hslice
  · rw [hsorting.reverse_reverse]
    rfl

end Retag.Library

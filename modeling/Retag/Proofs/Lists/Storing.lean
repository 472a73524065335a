import Retag.Proofs.Grammar.Reading
import Retag.Proofs.Lists.Making
import Retag.Proofs.Running.ValueCalls
import Retag.Proofs.Store.Lookup

/-!
# Lists that are stored

A list that is stored in a tag is what the tag, read alone, stands for, whatever the pieces hold and
however its name is spelled. So a question about the list has the same answer when it is put to the
tag as when it is put to the text that was stored, although each is split at a separator of its own.
-/

namespace Retag

/-- What a tag is set to is what it has, also if that is nothing. -/
theorem TagStore.values_set (s : TagStore) (name : String) (values : List String) :
    (s.set name values).values name = values := by
  by_cases hnone : values = []
  · subst hnone
    rw [TagStore.values, set_nil, values?_unset, if_pos rfl, Option.getD_none]
  · rw [TagStore.values, values?_set hnone, if_pos rfl, Option.getD_some]

/-- Under a name of another tag nothing changes. -/
theorem TagStore.values?_set_of_ne {s : TagStore} {name other : String} (values : List String)
    (h : storageName other ≠ storageName name) :
    (s.set name values).values? other = s.values? other := by
  by_cases hnone : values = []
  · subst hnone
    rw [set_nil, values?_unset, if_neg h]
  · rw [values?_set hnone, if_neg h]

namespace Library

open Script

/-! ## Other arguments -/

/-- The value of a separator; the joiner if none is written. -/
def separatorOf : Option Tree → Eval String
  | some t => evalTree standard t
  | none => return joiner

/-- From one state to another, trees are evaluated one after the other, and then a separator, which
has the value `text`. -/
inductive Evaluates (host : Host) (separator : Option Tree) (text : String) :
    List Tree → List String → RunState → RunState → Prop
  | last {s s' : RunState} :
      (separatorOf separator).runFrom host s = (.ok text, s') →
      Evaluates host separator text [] [] s s'
  | cons {t : Tree} {v : String} {fixed : List Tree} {values : List String}
      {s s₁ s' : RunState} :
      (evalTree standard t).runFrom host s = (.ok v, s₁) →
      Evaluates host separator text fixed values s₁ s' →
      Evaluates host separator text (t :: fixed) (v :: values) s s'

section Evaluates

variable {α : Type} {host : Host} {separator : Option Tree} {text : String} {fixed : List Tree}
  {values : List String} {s s' : RunState}

theorem runFrom_inside {x : Eval α} {a : α} (hx : x.SeesOnly [])
    (h : x.runFrom host s = (.ok a, s')) (frames : List Frame) :
    x.runFrom host ⟨s.tags, frames⟩ = (.ok a, ⟨s'.tags, frames⟩) := by
  rw [hx.runFrom_frames, h]

theorem seesOnly_separatorOf (separator : Option Tree) : (separatorOf separator).SeesOnly [] := by
  cases separator with
  | none => exact .pure joiner
  | some t => exact seesOnly_standard t

/-- The calls that the arguments stand in make no difference to them. -/
theorem Evaluates.inside (h : Evaluates host separator text fixed values s s')
    (frames : List Frame) :
    Evaluates host separator text fixed values ⟨s.tags, frames⟩ ⟨s'.tags, frames⟩ := by
  induction h with
  | last h => exact .last (runFrom_inside (seesOnly_separatorOf separator) h frames)
  | cons ht _ ih => exact .cons (runFrom_inside (seesOnly_standard _) ht frames) ih

theorem listOf_eq (multi : Argument) (separator : Option Tree) :
    listOf multi (separator.map argument) = separatorOf separator >>= listSplitAt multi := by
  cases separator <;> rfl

theorem Evaluates.exists_value {t : Tree} (h : Evaluates host separator text [t] values s s') :
    ∃ v s₁, values = [v] ∧ (argument t).value.runFrom host s = (.ok v, s₁) ∧
      (separatorOf separator).runFrom host s₁ = (.ok text, s') := by
  cases h with
  | cons ht hrest =>
    cases hrest with
    | last hseparator => exact ⟨_, _, rfl, ht, hseparator⟩

/-- All arguments together have the values, and that of the separator behind them if it is there. -/
theorem Evaluates.runFrom_valuesOf (h : Evaluates host separator text fixed values s s') :
    ∃ last : Option String, last.getD joiner = text ∧
      (Argument.valuesOf ((fixed ++ separator.toList).map argument)).runFrom host s
        = (.ok (values ++ last.toList), s') := by
  induction h with
  | last h =>
    cases separator with
    | none =>
      obtain ⟨htext, rfl⟩ := Prod.mk.inj h
      exact ⟨none, Except.ok.inj htext, rfl⟩
    | some t =>
      have hvalue : (argument t).value.runFrom host _ = _ := h
      refine ⟨some text, rfl, ?_⟩
      rw [Option.toList_some, List.nil_append, List.map_singleton, Argument.valuesOf,
        Eval.runFrom_bind_ok hvalue]
      rfl
  | cons ht _ ih =>
    obtain ⟨last, htext, hrest⟩ := ih
    have hvalue : (argument _).value.runFrom host _ = _ := ht
    refine ⟨last, htext, ?_⟩
    rw [List.cons_append, List.map_cons, Argument.valuesOf, Eval.runFrom_bind_ok hvalue,
      Eval.runFrom_bind_ok hrest, Eval.runFrom_pure, List.cons_append]

end Evaluates

/-! ## Questions -/

/-- A function that answers a question about its list. -/
structure ListQuestion where
  name : String
  /-- How many arguments stand between the list and the separator. -/
  between : Nat
  /-- The answer, given the values of these arguments and of the list. -/
  answer : List String → List String → String

namespace ListQuestion

def size : ListQuestion := ⟨"lenmulti", 0, fun _ values => toString values.length⟩

/-- Its other argument is an index; there is no value at one that is no integer. -/
def element : ListQuestion :=
  ⟨"getmulti", 1, fun fixed values =>
    ((Text.readInteger? (fixed.headD "")).bind (ValueList.mk values joiner).get?).getD ""⟩

def member : ListQuestion :=
  ⟨"inmulti", 1, fun fixed values => truth (values.contains (fixed.headD ""))⟩

def join : ListQuestion :=
  ⟨"join", 1, fun fixed values => String.intercalate (fixed.headD "") values⟩

def all : List ListQuestion := [size, element, member, join]

def arity (q : ListQuestion) : Arity := .between (q.between + 1) (q.between + 2)

def call (q : ListQuestion) (t : Tree) (fixed : List Tree) (separator : Option Tree)
    (position : Position) : Tree :=
  [.call q.name (t :: (fixed ++ separator.toList)) position]

/-- A function gives the answer if its other arguments and its list have values. -/
def Answered (q : ListQuestion) (run : List Argument → Eval String) : Prop :=
  ∀ {host : Host} {multi : Argument} {fixed : List Tree} {separator : Option Tree}
    {values : List String} {text : String} {list : ValueList} {s s₁ s₂ : RunState},
    fixed.length = q.between → Evaluates host separator text fixed values s s₁ →
    (listSplitAt multi text).runFrom host s₁ = (.ok list, s₂) →
    ((run (multi :: (fixed ++ separator.toList).map argument)).runFrom host s).1
      = .ok (q.answer values list.values)

section Runs

variable {q : ListQuestion} {host : Host} {multi : Argument} {fixed : List Tree}
  {separator : Option Tree} {values : List String} {text : String} {list : ValueList}
  {s s₁ s₂ : RunState}

theorem runFrom_listOf (hseparator : (separatorOf separator).runFrom host s = (.ok text, s₁))
    (hlist : (listSplitAt multi text).runFrom host s₁ = (.ok list, s₂)) :
    (listOf multi (separator.map argument)).runFrom host s = (.ok list, s₂) := by
  rw [listOf_eq, Eval.runFrom_bind_ok hseparator, hlist]

theorem size_answered : size.Answered Lists.lenMulti := by
  intro host multi fixed separator values text list s s₁ s₂ hlength hothers hlist
  cases hothers with
  | cons => cases hlength
  | last hseparator =>
    rw [List.nil_append, map_argument, lenMulti_eq,
      Eval.runFrom_bind_ok (runFrom_listOf hseparator hlist)]
    rfl

/-- A function of one more argument, which it evaluates before its list. -/
theorem answered_of_value {run : List Argument → Eval String} {k : String → ValueList → Eval String}
    (hq : q.between = 1)
    (hrun : ∀ multi separator first, run (multi :: first :: separator.toList)
      = first.value >>= fun value => listOf multi separator >>= k value)
    (hanswer : ∀ value list, k value list = pure (q.answer [value] list.values)) :
    q.Answered run := by
  intro host multi fixed separator values text list s s₁ s₂ hlength hothers hlist
  obtain ⟨t, rfl⟩ := List.length_eq_one_iff.mp (hlength.trans hq)
  obtain ⟨v, s₀, rfl, hvalue, hseparator⟩ := hothers.exists_value
  rw [List.singleton_append, List.map_cons, map_argument, hrun, Eval.runFrom_bind_ok hvalue,
    Eval.runFrom_bind_ok (runFrom_listOf hseparator hlist), hanswer, Eval.runFrom_pure]

theorem member_answered : member.Answered Lists.inMulti :=
  answered_of_value rfl inMulti_eq fun _ _ => rfl

theorem join_answered : join.Answered Lists.join :=
  answered_of_value rfl join_eq fun _ _ => rfl

/-- Where a value stands does not depend on the separator. -/
theorem element_answer (v : String) (list : ValueList) :
    element.answer [v] list.values = ((Text.readInteger? v).bind list.get?).getD "" := by
  have hget : (ValueList.mk list.values joiner).get? = list.get? := funext fun _ => rfl
  simp only [element, List.headD_cons, hget]

/-- Without an index the list is not read. -/
theorem element_answered : element.Answered Lists.getMulti := by
  intro host multi fixed separator values text list s s₁ s₂ hlength hothers hlist
  obtain ⟨t, rfl⟩ := List.length_eq_one_iff.mp hlength
  obtain ⟨v, s₀, rfl, hvalue, hseparator⟩ := hothers.exists_value
  rw [List.singleton_append, List.map_cons, map_argument, getMulti_eq, indexOf_argument,
    bind_assoc, Eval.runFrom_bind_ok hvalue, pure_bind, element_answer]
  cases Text.readInteger? v with
  | none => rfl
  | some index =>
    dsimp only
    rw [Eval.runFrom_bind_ok (runFrom_listOf hseparator hlist)]
    rfl

theorem exists_run (hq : q ∈ all) :
    ∃ run doc, standard.find? q.name = some ⟨q.name, .lazy run, q.arity, doc⟩ ∧
      q.Answered run := by
  simp only [all, List.mem_cons, List.not_mem_nil, or_false] at hq
  rcases hq with rfl | rfl | rfl | rfl
  · exact ⟨_, _, (find?_standard _).trans rfl, size_answered⟩
  · exact ⟨_, _, (find?_standard _).trans rfl, element_answered⟩
  · exact ⟨_, _, (find?_standard _).trans rfl, member_answered⟩
  · exact ⟨_, _, (find?_standard _).trans rfl, join_answered⟩

/-- A call answers if its other arguments have values and, in whatever calls, its list has. -/
theorem runFrom_call {t : Tree} {behind : TagStore} (hq : q ∈ all)
    (hlength : fixed.length = q.between)
    (hothers : Evaluates host separator text fixed values s s₁)
    (hlist : ∀ frames, (listSplitAt (argument t) text).runFrom host ⟨s₁.tags, frames⟩
      = (.ok list, ⟨behind, frames⟩)) (position : Position) :
    ((evalTree standard (q.call t fixed separator position)).runFrom host s).1
      = .ok (q.answer values list.values) := by
  obtain ⟨run, doc, hfind, hrun⟩ := exists_run hq
  have haccepts : q.arity.accepts (t :: (fixed ++ separator.toList)).length = true := by
    have hseparator : separator.toList.length ≤ 1 := by cases separator <;> simp
    rw [arity, accepts_between, List.length_cons, List.length_append]
    omega
  rw [call, evalTree_lazy hfind haccepts, Eval.runFrom_inFrame, argumentsOf_standard,
    List.map_cons]
  exact hrun hlength (hothers.inside _) (hlist _)

/-- A text for the list is split, unless it is a lone tag and the separator is the joiner. -/
theorem runFrom_listSplitAt {t : Tree} {separator : String}
    (ht : (evalTree standard t).runFrom host s = (.ok text, s₁))
    (hsplit : Tree.singleTag? t = none ∨ separator ≠ joiner) (frames : List Frame) :
    (listSplitAt (argument t) separator).runFrom host ⟨s.tags, frames⟩
      = (.ok (.ofText text separator), ⟨s₁.tags, frames⟩) := by
  have hnone : (if separator = joiner then Tree.singleTag? (argument t).tree else none) = none := by
    split
    · next hjoiner => exact hsplit.resolve_right (not_not_intro hjoiner)
    · rfl
  have hvalue : (argument t).value.runFrom host ⟨s.tags, frames⟩ = (.ok text, ⟨s₁.tags, frames⟩) :=
    runFrom_inside (seesOnly_standard t) ht frames
  rw [listSplitAt, hnone]
  dsimp only
  rw [Eval.runFrom_bind_ok hvalue, Eval.runFrom_pure]

end Runs

end ListQuestion

/-! ## Stored lists -/

section Stored

variable {host : Host} {n t : Tree} {separatorTree : Option Tree} {name text separator : String}
  {s s' : RunState}

/-- Storing a list evaluates the name, the text and the separator, and gives the tag the pieces. -/
theorem runFrom_setMulti
    (h : Evaluates host separatorTree separator [n, t] [name, text] s s') (position : Position) :
    (evalTree standard [.call "setmulti" (n :: t :: separatorTree.toList) position]).runFrom host s
      = (.ok "", ⟨s'.tags.set (internalName name) (ValueList.ofText text separator).values,
          s'.frames⟩) := by
  obtain ⟨last, htext, hvalues⟩ := h.runFrom_valuesOf
  have haccepts : (Arity.between 2 3).accepts (n :: t :: separatorTree.toList).length = true := by
    cases separatorTree <;> rfl
  have hset : Lists.setMulti ([name, text] ++ last.toList) = (do
      Eval.modifyTags fun tags => (ValueList.ofText text separator).store tags name
      return "") := by
    subst htext
    cases last <;> rfl
  have hargs : n :: t :: separatorTree.toList = [n, t] ++ separatorTree.toList := rfl
  rw [evalTree_eager ((find?_standard _).trans rfl) haccepts, argumentsOf_standard, hargs,
    Eval.runFrom_bind_ok hvalues, hset, ← ValueList.shown_ofText]
  rfl

/-- A tag that is written between percent signs is read as that tag. -/
theorem parse_lone_tag (hname : Grammar.IsTagName name.toList) :
    parse standard.arity? ("%" ++ name ++ "%") = .ok [.tag name] := by
  let d : Grammar.Derivation standard.arity? := ⟨[.tag name], .tag hname .nil⟩
  have hsource : d.source = "%" ++ name ++ "%" := by
    apply String.ext
    simp [d, Grammar.Derivation.source, Grammar.writtenAll, Grammar.Piece.written]
  rw [← hsource]
  exact Grammar.parse_source d

/-- After a list is stored, the tag read alone stands for it. -/
theorem ofTag_set (tags : TagStore) (name : String) (values : List String) :
    ValueList.ofTag (tags.set (internalName name) values) name = ⟨values, joiner⟩ := by
  rw [ValueList.ofTag, TagStore.values_set]

/-- Storing a list gives a tag the pieces of a text, and the tag, written alone and read as a list,
stands for just these, whatever they hold. So a question has the same answer on the text, which is
split at the separator, as on the tag as it was stored, which is not split. Tags of other names do
not change; without pieces the tag is gone, and the others of a store that is kept well are as they
were, in order. -/
theorem stored_lists_read_back (hname : Grammar.IsTagName name.toList)
    (hargs : Evaluates host separatorTree separator [n, t] [name, text] s s') :
    let pieces := (ValueList.ofText text separator).values
    let after : RunState := ⟨s'.tags.set (internalName name) pieces, s'.frames⟩
    (∀ position,
      (evalTree standard [.call "setmulti" (n :: t :: separatorTree.toList) position]).runFrom
        host s = (.ok "", after)) ∧
    parse standard.arity? ("%" ++ name ++ "%") = .ok [.tag name] ∧
    (listOf (argument [.tag name]) none).runFrom host after = (.ok ⟨pieces, joiner⟩, after) ∧
    (∀ q ∈ ListQuestion.all, ∀ values,
      (∀ u fixed other s₀ s₁ s₂ position, fixed.length = q.between →
        Evaluates host other separator fixed values s₀ s₁ →
        (evalTree standard u).runFrom host s₁ = (.ok text, s₂) →
        Tree.singleTag? u = none ∨ separator ≠ joiner →
        ((evalTree standard (q.call u fixed other position)).runFrom host s₀).1
          = .ok (q.answer values pieces)) ∧
      (∀ fixed other s₀ s₁ position, fixed.length = q.between →
        Evaluates host other joiner fixed values s₀ s₁ →
        s₁.tags.values? (internalName name) = after.tags.values? (internalName name) →
        ((evalTree standard (q.call [.tag name] fixed other position)).runFrom host s₀).1
          = .ok (q.answer values pieces))) ∧
    (∀ other, storageName other ≠ storageName (internalName name) →
      after.tags.values? other = s'.tags.values? other) ∧
    (pieces = [] →
      after.tags.contains (internalName name) = false ∧
      (s'.tags.WellKept →
        after.tags.tags = s'.tags.tags.filter (·.name != storageName (internalName name))) ∧
      after.tags.deleted = s'.tags.deleted) := by
  intro pieces after
  refine ⟨?_, ?_, ?_, fun q hq values => ⟨?_, ?_⟩, ?_, fun hnone => ?_⟩
  · exact runFrom_setMulti hargs
  · exact parse_lone_tag hname
  · rw [← ofTag_set s'.tags name pieces]
    rfl
  · intro u fixed other s₀ s₁ s₂ position hlength hothers htext hsplit
    exact ListQuestion.runFrom_call hq hlength hothers
      (ListQuestion.runFrom_listSplitAt htext hsplit) position
  · intro fixed other s₀ s₁ position hlength hothers hsame
    have hlist : ValueList.ofTag s₁.tags name = ⟨pieces, joiner⟩ := by
      rw [ValueList.ofTag, TagStore.values, hsame]
      exact ofTag_set s'.tags name pieces
    have hread (frames : List Frame) : (listSplitAt (argument [.tag name]) joiner).runFrom host
        ⟨s₁.tags, frames⟩ = (.ok ⟨pieces, joiner⟩, ⟨s₁.tags, frames⟩) := by
      rw [← hlist]
      rfl
    exact ListQuestion.runFrom_call hq hlength hothers hread position
  · intro other hother
    exact TagStore.values?_set_of_ne pieces hother
  · have hunset : after.tags = s'.tags.unset (internalName name) := by
      rw [show after.tags = s'.tags.set (internalName name) pieces from rfl, hnone,
        TagStore.set_nil]
    have hgone : (s'.tags.unset (internalName name)).values? (internalName name) = none := by
      rw [TagStore.values?_unset, if_pos rfl]
    rw [hunset, TagStore.contains, hgone]
    exact ⟨Option.isSome_none, fun h => h.tags_unset _, TagStore.deleted_unset _ _⟩

end Stored

/-- A piece that holds the joiner stays whole in a hidden tag; without pieces the tag is gone. -/
theorem stored_lists_read_back_whole :
    let host : Host := ⟨none, ⟨⟨2024, 5, 6⟩, ⟨7, 8, 9, 0⟩, 0⟩⟩
    let s : RunState := ⟨.ofPairs [("~x", "q"), ("a", "r")], []⟩
    let after : RunState := ⟨.ofPairs [("~x", "b; c"), ("~x", "d"), ("a", "r")], []⟩
    let bar : Tree := [.text "|"]
    let store (text : String) : Tree :=
      [.call "setmulti" [[.text "_x:"], [.text text], bar] .start]
    let ask := ListQuestion.join.call
    (∀ text, Evaluates host (some bar) "|" [[.text "_x:"], [.text text]] ["_x:", text] s s) ∧
    Grammar.IsTagName "_x:".toList ∧
    (evalTree standard (store "b; c||d")).runFrom host s = (.ok "", after) ∧
    parse standard.arity? "%_x:%" = .ok [.tag "_x:"] ∧
    ((evalTree standard (ask [.text "b; c||d"] [[.text "+"]] (some bar) .start)).runFrom host s).1
      = .ok "b; c+d" ∧
    ((evalTree standard (ask [.tag "_x:"] [[.text "+"]] none .start)).runFrom host after).1
      = .ok "b; c+d" ∧
    (evalTree standard (store "||")).runFrom host s = (.ok "", ⟨.ofPairs [("a", "r")], []⟩) := by
  intro host s after bar store ask
  have htext (text : String) (s : RunState) :
      (evalTree standard [.text text]).runFrom host s = (.ok text, s) := by
    simp [evalTree, Node.eval]
  have hargs (text : String) :
      Evaluates host (some bar) "|" [[.text "_x:"], [.text text]] ["_x:", text] s s :=
    .cons (htext _ s) (.cons (htext _ s) (.last (htext _ s)))
  have hname : Grammar.IsTagName "_x:".toList :=
    ⟨by simp [Grammar.IsWord], by decide⟩
  obtain ⟨hstore, hparse, -, hanswers, -⟩ := stored_lists_read_back hname (hargs "b; c||d")
  obtain ⟨hstore', -⟩ := stored_lists_read_back hname (hargs "||")
  have hmem : ListQuestion.join ∈ ListQuestion.all := by simp [ListQuestion.all]
  obtain ⟨hasText, hasTag⟩ := hanswers ListQuestion.join hmem ["+"]
  refine ⟨hargs, hname, hstore .start, hparse, ?_, ?_, hstore' .start⟩
  · exact hasText [.text "b; c||d"] [[.text "+"]] (some bar) s s s .start rfl
      (.cons (htext "+" s) (.last (htext "|" s))) (htext "b; c||d" s) (.inl rfl)
  · exact hasTag [[.text "+"]] none after after .start rfl
      (.cons (htext "+" after) (.last rfl)) rfl

end Library
end Retag

import Retag.Proofs.Running.Library
import Retag.Proofs.Text.Splitting

/-!
# Lists read from a lone tag

A function of lists reads a lone tag as its stored values, and any other argument as text that it
splits. Both give the same list exactly if no stored value is empty or holds the separator, for then
joining and splitting undo each other. So in such a state the two ways to write an argument cannot be
told apart. The state that counts is the one in which the list is read: what a function evaluates
before may change the tag.
-/

namespace Retag

open Script Library

/-! ## The two readings -/

theorem TagStore.get_eq_intercalate (s : TagStore) (name : String) :
    s.get name = joiner.intercalate (s.values name) := by
  rw [get, get?, values]
  rcases s.values? name with _ | _ | ⟨v, vs⟩ <;> rfl

/-- A tag without values that are empty or hold the joiner. -/
def Splittable (tags : TagStore) (name : String) : Prop :=
  ∀ v ∈ tags.values (internalName name), v ≠ "" ∧ ¬ joiner.toList <:+: v.toList

instance (tags : TagStore) (name : String) : Decidable (Splittable tags name) :=
  inferInstanceAs (Decidable (∀ v ∈ tags.values (internalName name), _))

theorem ofTag_eq_ofText_iff (tags : TagStore) (name : String) :
    ValueList.ofTag tags name = ValueList.ofText (tags.get (internalName name)) joiner
      ↔ Splittable tags name := by
  have hjoiner : joiner ≠ "" := by decide
  have hborder : Text.Unbordered joiner.toList := Text.unbordered_pair (by decide)
  have htext : ValueList.ofText (tags.get (internalName name)) joiner
      = ⟨(Text.split (tags.get (internalName name)) joiner).filter (!·.isEmpty), joiner⟩ := rfl
  rw [ValueList.ofTag, htext, ValueList.mk.injEq, and_iff_left rfl, Splittable]
  constructor
  · intro hsame v hv
    rw [hsame] at hv
    obtain ⟨hpiece, hfull⟩ := List.mem_filter.mp hv
    refine ⟨?_, Text.not_infix_of_mem_split hjoiner hpiece⟩
    rintro rfl
    cases hfull
  · intro hvalues
    rw [TagStore.get_eq_intercalate]
    by_cases hnone : tags.values (internalName name) = []
    · rw [hnone]
      rfl
    · rw [Text.split_intercalate hjoiner hborder hnone fun v hv => (hvalues v hv).2]
      refine (List.filter_eq_self.mpr fun v hv => ?_).symm
      simpa using (hvalues v hv).1

/-! ## Arguments that are read alike -/

/-- Here the tag reads alike as its values and as text, and `other` has that text and does nothing
else. -/
structure ReadsAlike (host : Host) (name : String) (other : Tree) (s : RunState) : Prop where
  splittable : Splittable s.tags name
  text : (evalTree standard other).runFrom host s = (.ok (s.tags.get (internalName name)), s)

/-- `P` holds in the state behind the arguments, if all of them have values. -/
def Behind (host : Host) (P : RunState → Prop) (args : List Tree) (s : RunState) : Prop :=
  ∀ values s', (Argument.valuesOf (argumentsOf standard args)).runFrom host s = (.ok values, s') →
    P s'

/-- A tree as an argument of a call. -/
def argument (t : Tree) : Argument := ⟨t, evalTree standard t⟩

theorem argumentsOf_standard (args : List Tree) :
    argumentsOf standard args = args.map argument := argumentsOf_eq standard args

section Behind

variable {α : Type} {host : Host} {P : RunState → Prop} {s s' : RunState} {t : Tree}
  {rest : List Tree}

theorem behind_nil : Behind host P [] s ↔ P s := by
  constructor
  · exact fun h => h [] s rfl
  · intro h values s' hrun
    obtain ⟨-, rfl⟩ := Prod.mk.inj hrun
    exact h

theorem Behind.of_ok (h : Behind host P (t :: rest) s) {value : String}
    (hrun : (evalTree standard t).runFrom host s = (.ok value, s')) : Behind host P rest s' := by
  intro values s'' hrest
  refine h (value :: values) s'' ?_
  rw [argumentsOf, Argument.valuesOf, Eval.runFrom_bind_ok hrun, Eval.runFrom_bind_ok hrest,
    Eval.runFrom_pure]

/-- Two runs that begin with the first argument agree if they do behind it. -/
theorem Behind.bind (h : Behind host P (t :: rest) s) {f g : String → Eval α}
    (hfg : ∀ value s', Behind host P rest s' →
      (f value).runFrom host s' = (g value).runFrom host s') :
    ((argument t).value >>= f).runFrom host s = ((argument t).value >>= g).runFrom host s := by
  rw [argument, Eval.runFrom_bind, Eval.runFrom_bind]
  rcases hrun : (evalTree standard t).runFrom host s with ⟨e | value, s'⟩
  · rfl
  · exact hfg value s' (h.of_ok hrun)

theorem Behind.bind_indexOf (h : Behind host P (t :: rest) s) {f g : Option Int → Eval α}
    (hfg : ∀ index s', Behind host P rest s' →
      (f index).runFrom host s' = (g index).runFrom host s') :
    (Lists.indexOf (argument t) >>= f).runFrom host s
      = (Lists.indexOf (argument t) >>= g).runFrom host s := by
  rw [Lists.indexOf]
  split
  · next hblank =>
    obtain rfl : t = [] := List.isEmpty_iff.mp hblank
    have hrun : (evalTree standard []).runFrom host s = (.ok "", s) := by rw [evalTree]; rfl
    simpa only [pure_bind] using hfg none s (h.of_ok hrun)
  · simp only [bind_assoc, pure_bind]
    exact h.bind fun value s' hrest => hfg _ s' hrest

end Behind

section Alike

variable {α : Type} {host : Host} {name : String} {other : Tree} {s : RunState}

theorem runFrom_loneTag (name : String) (host : Host) (s : RunState) :
    (argument [.tag name]).value.runFrom host s
      = (.ok (s.tags.get (internalName name)), s) := by
  rw [argument, evalTree, Node.eval, Eval.runFrom_bind_ok (runFrom_tagValue name host s), evalTree,
    pure_bind, Eval.runFrom_pure, String.append_empty]

/-- The list that an argument stands for, once the separator is known. -/
def listSplitAt (multi : Argument) (separator : String) : Eval ValueList :=
  match if separator = joiner then Tree.singleTag? multi.tree else none with
  | some name => return .ofTag (← Eval.tags) name
  | none => return .ofText (← multi.value) separator

/-- With the joiner the two readings agree, and with any other separator both are of the text. -/
theorem listSplitAt_alike (hother : Tree.singleTag? other = none)
    (h : ReadsAlike host name other s) (separator : String) :
    (listSplitAt (argument [.tag name]) separator).runFrom host s
      = (listSplitAt (argument other) separator).runFrom host s := by
  have hlone : Tree.singleTag? (argument [.tag name]).tree = some name := rfl
  have hnone : Tree.singleTag? (argument other).tree = none := hother
  have hvalue : (argument other).value.runFrom host s = (.ok (s.tags.get (internalName name)), s) :=
    h.text
  rw [listSplitAt, listSplitAt, hlone, hnone, ite_self]
  by_cases hjoiner : separator = joiner
  · rw [if_pos hjoiner, hjoiner]
    dsimp only
    rw [Eval.runFrom_bind_ok (Eval.runFrom_tags host s), Eval.runFrom_bind_ok hvalue,
      (ofTag_eq_ofText_iff s.tags name).mpr h.splittable]
  · rw [if_neg hjoiner]
    dsimp only
    rw [Eval.runFrom_bind_ok (runFrom_loneTag name host s), Eval.runFrom_bind_ok hvalue]

/-- What goes on with the list goes on with the same list. -/
theorem bind_listOf_alike (hother : Tree.singleTag? other = none) {separator : Option Tree}
    (h : Behind host (ReadsAlike host name other) separator.toList s) (k : ValueList → Eval α) :
    (listOf (argument [.tag name]) (separator.map argument) >>= k).runFrom host s
      = (listOf (argument other) (separator.map argument) >>= k).runFrom host s := by
  have hlist : (listOf (argument [.tag name]) (separator.map argument)).runFrom host s
      = (listOf (argument other) (separator.map argument)).runFrom host s := by
    cases separator with
    | none => exact listSplitAt_alike hother (behind_nil.mp h) joiner
    | some t =>
      exact h.bind fun text s' hrest => listSplitAt_alike hother (behind_nil.mp hrest) text
  rw [Eval.runFrom_bind, Eval.runFrom_bind, hlist]

end Alike

/-! ## Functions that read a list -/

/-- The functions that read their first argument as a list. -/
inductive ReadsList : String → Arity → (List Argument → Eval String) → Prop
  | lenMulti : ReadsList "lenmulti" (.between 1 2) Lists.lenMulti
  | getMulti : ReadsList "getmulti" (.between 2 3) Lists.getMulti
  | inMulti : ReadsList "inmulti" (.between 2 3) Lists.inMulti
  | sortMulti : ReadsList "sortmulti" (.between 1 2) Lists.sortMulti
  | reverseMulti : ReadsList "reversemulti" (.between 1 2) Lists.reverseMulti
  | unique : ReadsList "unique" (.between 1 3) Lists.unique
  | slice : ReadsList "slice" (.between 3 4) Lists.slice
  | join : ReadsList "join" (.between 2 3) Lists.join
  | isMulti : ReadsList "is_multi" (.exactly 1) Lists.isMulti
  | replaceMulti : ReadsList "replacemulti" (.between 3 4) Lists.replaceMulti
  | forEach : ReadsList "foreach" (.between 2 3) Control.forEach
  | map : ReadsList "map" (.between 2 3) Control.map

/-- Their names. -/
def listReaders : List String :=
  ["lenmulti", "getmulti", "inmulti", "sortmulti", "reversemulti", "unique", "slice", "join",
    "is_multi", "replacemulti", "foreach", "map"]

theorem find?_listReader {name : String} (h : name ∈ listReaders) :
    ∃ run arity doc, standard.find? name = some ⟨name, .lazy run, arity, doc⟩ ∧
      ReadsList name arity run := by
  rw [find?_standard]
  simp only [listReaders, List.mem_cons, List.not_mem_nil, or_false] at h
  rcases h with rfl | rfl | rfl | rfl | rfl | rfl | rfl | rfl | rfl | rfl | rfl | rfl
  · exact ⟨_, _, _, rfl, .lenMulti⟩
  · exact ⟨_, _, _, rfl, .getMulti⟩
  · exact ⟨_, _, _, rfl, .inMulti⟩
  · exact ⟨_, _, _, rfl, .sortMulti⟩
  · exact ⟨_, _, _, rfl, .reverseMulti⟩
  · exact ⟨_, _, _, rfl, .unique⟩
  · exact ⟨_, _, _, rfl, .slice⟩
  · exact ⟨_, _, _, rfl, .join⟩
  · exact ⟨_, _, _, rfl, .isMulti⟩
  · exact ⟨_, _, _, rfl, .replaceMulti⟩
  · exact ⟨_, _, _, rfl, .forEach⟩
  · exact ⟨_, _, _, rfl, .map⟩

/-! ### What they evaluate, in order -/

section Order

variable (multi : Argument) (separator : Option Argument)

theorem lenMulti_eq : Lists.lenMulti (multi :: separator.toList) = (do
    let list ← listOf multi separator
    return toString list.size) := by
  cases separator <;> rfl

theorem getMulti_eq (index : Argument) :
    Lists.getMulti (multi :: index :: separator.toList) = (do
      match ← Lists.indexOf index with
      | none => return ""
      | some index =>
        let list ← listOf multi separator
        return (list.get? index).getD "") := by
  cases separator <;> rfl

theorem inMulti_eq (value : Argument) :
    Lists.inMulti (multi :: value :: separator.toList) = (do
      let value ← value.value
      let list ← listOf multi separator
      return truth (list.contains value)) := by
  cases separator <;> rfl

theorem sortMulti_eq : Lists.sortMulti (multi :: separator.toList) = (do
    let list ← listOf multi separator
    return Lists.joined list (Lists.sorted list.values)) := by
  cases separator <;> rfl

theorem reverseMulti_eq : Lists.reverseMulti (multi :: separator.toList) = (do
    let list ← listOf multi separator
    return Lists.joined list list.values.reverse) := by
  cases separator <;> rfl

theorem unique_alone_eq : Lists.unique [multi] = (do
    let list ← listOf multi none
    return Lists.joined list (Lists.distinct false list.values)) := rfl

theorem unique_eq (caseSensitive : Argument) :
    Lists.unique (multi :: caseSensitive :: separator.toList) = (do
      let caseSensitive ← caseSensitive.value
      let list ← listOf multi separator
      return Lists.joined list (Lists.distinct (!caseSensitive.isEmpty) list.values)) := by
  cases separator <;> rfl

theorem slice_eq (start stop : Argument) :
    Lists.slice (multi :: start :: stop :: separator.toList) = (do
      let start ← Lists.indexOf start
      let stop ← Lists.indexOf stop
      let list ← listOf multi separator
      return Lists.joined list (list.slice start stop)) := by
  cases separator <;> rfl

theorem join_eq (glue : Argument) :
    Lists.join (multi :: glue :: separator.toList) = (do
      let glue ← glue.value
      let list ← listOf multi separator
      return String.intercalate glue list.values) := by
  cases separator <;> rfl

theorem isMulti_eq : Lists.isMulti [multi] = (do
    let list ← listOf multi none
    return truth (1 < list.size)) := rfl

theorem replaceMulti_eq (search replacement : Argument) :
    Lists.replaceMulti (multi :: search :: replacement :: separator.toList) =
      if search.isBlank || separator.any (·.isBlank) then multi.value
      else (do
        let search ← search.value
        let replacement ← replacement.value
        let list ← listOf multi separator
        return ValueList.text
          { list with values := list.values.map fun v => if v = search then replacement else v }) := by
  cases separator <;> rfl

theorem forEach_eq (code : Argument) :
    Control.forEach (multi :: code :: separator.toList) = (do
      let list ← listOf multi separator
      let _ ← Control.rounds code.value 0 (list.values.take maxRounds)
      Control.endLoop
      return "") := by
  cases separator <;> rfl

theorem map_eq (code : Argument) :
    Control.map (multi :: code :: separator.toList) = (do
      let list ← listOf multi separator
      let results ← Control.rounds code.value 0 (list.values.take maxRounds)
      Control.endLoop
      return ValueList.text { list with values := results ++ list.values.drop maxRounds }) := by
  cases separator <;> rfl

end Order

/-- Those of the arguments behind the list that are evaluated before it is read: all of them, but
not the code of a loop, and none if `replacemulti` is given nothing to search for or to split at. -/
def readFirst (function : String) (others : List Tree) : List Tree :=
  match function, others with
  | "foreach", others => others.tail
  | "map", others => others.tail
  | "replacemulti", search :: _ :: separator =>
    if search.isEmpty || separator.any (·.isEmpty) then [] else others
  | _, others => others

/-- A call between `least` and one more arguments has `least` of them and a separator perhaps. -/
theorem exists_separator {least : Nat} {others : List Tree}
    (h : (Arity.between (least + 1) (least + 2)).accepts (others.length + 1) = true) :
    ∃ (fixed : List Tree) (separator : Option Tree),
      others = fixed ++ separator.toList ∧ fixed.length = least := by
  obtain ⟨hmin, hmax⟩ := accepts_between.mp h
  have hleast : least ≤ others.length := by omega
  have hmost : others.length ≤ least + 1 := by omega
  refine ⟨others.take least, others[least]?, ?_, List.length_take_of_le hleast⟩
  rw [← List.take_add_one, List.take_of_length_le hmost]

theorem map_argument (separator : Option Tree) :
    separator.toList.map argument = (separator.map argument).toList := by
  cases separator <;> rfl

section Functions

variable {host : Host} {name : String} {other : Tree} {s : RunState}
  {others : List Tree}

/-- Only the separator is evaluated before the list. -/
theorem alike_of_separator {run : List Argument → Eval String} {k : ValueList → Eval String}
    (hrun : ∀ multi separator, run (multi :: separator.toList) = listOf multi separator >>= k)
    (hother : Tree.singleTag? other = none)
    (hn : (Arity.between 1 2).accepts (others.length + 1) = true)
    (hb : Behind host (ReadsAlike host name other) others s) :
    (run (argument [.tag name] :: others.map argument)).runFrom host s
      = (run (argument other :: others.map argument)).runFrom host s := by
  obtain ⟨fixed, separator, rfl, hfixed⟩ := exists_separator hn
  obtain rfl := List.length_eq_zero_iff.mp hfixed
  rw [List.nil_append, map_argument, hrun, hrun]
  exact bind_listOf_alike hother hb k

/-- The value of an argument is evaluated before the list. -/
theorem alike_of_value {run : List Argument → Eval String} {k : String → ValueList → Eval String}
    (hrun : ∀ multi separator first, run (multi :: first :: separator.toList)
      = first.value >>= fun value => listOf multi separator >>= k value)
    (hother : Tree.singleTag? other = none)
    (hn : (Arity.between 2 3).accepts (others.length + 1) = true)
    (hb : Behind host (ReadsAlike host name other) others s) :
    (run (argument [.tag name] :: others.map argument)).runFrom host s
      = (run (argument other :: others.map argument)).runFrom host s := by
  obtain ⟨fixed, separator, rfl, hfixed⟩ := exists_separator hn
  obtain ⟨first, rfl⟩ := List.length_eq_one_iff.mp hfixed
  rw [List.singleton_append, List.map_cons, map_argument, hrun, hrun]
  exact Behind.bind hb fun value s' hrest => bind_listOf_alike hother hrest (k value)

/-- An argument is code, which is evaluated behind the list. -/
theorem alike_of_code {run : List Argument → Eval String} {k : Argument → ValueList → Eval String}
    (hrun : ∀ multi separator code, run (multi :: code :: separator.toList)
      = listOf multi separator >>= k code)
    (hother : Tree.singleTag? other = none)
    (hn : (Arity.between 2 3).accepts (others.length + 1) = true)
    (hb : Behind host (ReadsAlike host name other) others.tail s) :
    (run (argument [.tag name] :: others.map argument)).runFrom host s
      = (run (argument other :: others.map argument)).runFrom host s := by
  obtain ⟨fixed, separator, rfl, hfixed⟩ := exists_separator hn
  obtain ⟨code, rfl⟩ := List.length_eq_one_iff.mp hfixed
  rw [List.singleton_append, List.map_cons, map_argument, hrun, hrun]
  exact bind_listOf_alike hother hb (k (argument code))

/-- A function of lists cannot tell a lone tag from a tree that reads alike where the list is read. -/
theorem ReadsList.alike {function : String} {arity : Arity} {run : List Argument → Eval String}
    (h : ReadsList function arity run) (hother : Tree.singleTag? other = none)
    (hn : arity.accepts (others.length + 1) = true)
    (hb : Behind host (ReadsAlike host name other) (readFirst function others) s) :
    (run (argument [.tag name] :: others.map argument)).runFrom host s
      = (run (argument other :: others.map argument)).runFrom host s := by
  cases h with
  | lenMulti => exact alike_of_separator lenMulti_eq hother hn hb
  | sortMulti => exact alike_of_separator sortMulti_eq hother hn hb
  | reverseMulti => exact alike_of_separator reverseMulti_eq hother hn hb
  | inMulti => exact alike_of_value inMulti_eq hother hn hb
  | join => exact alike_of_value join_eq hother hn hb
  | forEach => exact alike_of_code forEach_eq hother hn hb
  | map => exact alike_of_code map_eq hother hn hb
  | isMulti =>
    have hone : (Arity.between 1 1).accepts (others.length + 1) = true := hn
    obtain ⟨-, hmax⟩ := accepts_between.mp hone
    have hnone : others.length = 0 := by omega
    obtain rfl := List.length_eq_zero_iff.mp hnone
    rw [List.map_nil, isMulti_eq, isMulti_eq]
    exact bind_listOf_alike hother (show Behind _ _ (none : Option Tree).toList s from hb) _
  | unique =>
    rcases others with - | ⟨t, others⟩
    · rw [List.map_nil, unique_alone_eq, unique_alone_eq]
      exact bind_listOf_alike hother (show Behind _ _ (none : Option Tree).toList s from hb) _
    · obtain ⟨-, hmax⟩ := accepts_between.mp hn
      have hmore : (Arity.between 2 3).accepts ((t :: others).length + 1) = true :=
        accepts_between.mpr ⟨by simp, hmax⟩
      exact alike_of_value unique_eq hother hmore hb
  | getMulti =>
    obtain ⟨fixed, separator, rfl, hfixed⟩ := exists_separator hn
    obtain ⟨t, rfl⟩ := List.length_eq_one_iff.mp hfixed
    rw [List.singleton_append, List.map_cons, map_argument, getMulti_eq, getMulti_eq]
    refine Behind.bind_indexOf hb fun index s' hrest => ?_
    cases index with
    | none => rfl
    | some index => exact bind_listOf_alike hother hrest _
  | slice =>
    obtain ⟨fixed, separator, rfl, hfixed⟩ := exists_separator hn
    obtain ⟨start, stop, rfl⟩ := List.length_eq_two.mp hfixed
    rw [List.cons_append, List.singleton_append, List.map_cons, List.map_cons, map_argument,
      slice_eq, slice_eq]
    refine Behind.bind_indexOf hb fun start s' hrest => ?_
    exact hrest.bind_indexOf fun stop s'' hlast => bind_listOf_alike hother hlast _
  | replaceMulti =>
    obtain ⟨fixed, separator, rfl, hfixed⟩ := exists_separator hn
    obtain ⟨search, replacement, rfl⟩ := List.length_eq_two.mp hfixed
    rw [List.cons_append, List.singleton_append, List.map_cons, List.map_cons, map_argument,
      replaceMulti_eq, replaceMulti_eq]
    have hblank : ((argument search).isBlank || (separator.map argument).any (·.isBlank))
        = (search.isEmpty || separator.toList.any (·.isEmpty)) := by
      cases separator <;> simp [argument, Argument.isBlank]
    have hfirst : readFirst "replacemulti" (search :: replacement :: separator.toList)
        = if search.isEmpty || separator.toList.any (·.isEmpty) then []
          else search :: replacement :: separator.toList := rfl
    rw [List.cons_append, List.singleton_append, hfirst] at hb
    rw [hblank]
    -- With nothing to search for or to split at, the call is its first argument.
    split at hb
    · next hskip =>
      rw [if_pos hskip, if_pos hskip, runFrom_loneTag]
      exact (behind_nil.mp hb).text.symm
    · next hskip =>
      rw [if_neg hskip, if_neg hskip]
      refine hb.bind fun value s' hrest => hrest.bind fun text s'' hlast => ?_
      exact bind_listOf_alike hother hlast _

/-! ## Calls -/

/-- A call of a function of lists does the same with both arguments. -/
theorem call_alike {function : String} (hfunction : function ∈ listReaders)
    (hother : Tree.singleTag? other = none) {position : Position}
    (hb : Behind host (ReadsAlike host name other) (readFirst function others)
      { s with frames := ⟨function, position⟩ :: s.frames }) :
    ((Node.call function ([.tag name] :: others) position).eval standard).runFrom host s
      = ((Node.call function (other :: others) position).eval standard).runFrom host s := by
  obtain ⟨run, arity, doc, hfind, hreads⟩ := find?_listReader hfunction
  have hargs (t : Tree) : argumentsOf standard (t :: others)
      = argument t :: others.map argument := argumentsOf_eq standard (t :: others)
  rw [Node.eval, Node.eval, hargs, hargs, Registry.call, Registry.call, hfind]
  dsimp only
  rw [List.length_cons, List.length_cons, List.length_map]
  by_cases hn : arity.accepts (others.length + 1) = true
  · rw [if_pos hn, if_pos hn, Eval.runFrom_inFrame, Eval.runFrom_inFrame,
      hreads.alike hother hn hb]
  · rw [if_neg hn, if_neg hn]

end Functions

/-- The two readings of a tag agree exactly if none of its values is empty or holds the joiner. So a
call of a function of lists does the same with a lone tag and with any other first argument that,
where the list is read, has the text of the tag and does nothing else: it ends alike, with the same
value or error, and in the same state. -/
theorem lone_tags_read_alike :
    (∀ tags name,
      ValueList.ofTag tags name = ValueList.ofText (tags.get (internalName name)) joiner
        ↔ Splittable tags name) ∧
    ∀ function ∈ listReaders, ∀ name other, Tree.singleTag? other = none →
      ∀ others position host s,
        Behind host (ReadsAlike host name other) (readFirst function others)
          { s with frames := ⟨function, position⟩ :: s.frames } →
        (evalTree standard [.call function ([.tag name] :: others) position]).runFrom host s
          = (evalTree standard [.call function (other :: others) position]).runFrom host s := by
  refine ⟨ofTag_eq_ofText_iff, ?_⟩
  intro function hfunction name other hother others position host s hb
  have hcall := call_alike hfunction hother hb
  simp only [evalTree, Eval.runFrom_bind, hcall]

/-- The value to look for comes with a change of the tag, to two values. -/
theorem lone_tags_read_alike_inMulti :
    let host : Host := ⟨none, ⟨⟨2024, 5, 6⟩, ⟨7, 8, 9, 0⟩, 0⟩⟩
    let s : RunState := ⟨.ofPairs [("a", "q; r")], []⟩
    let other : Tree := [.call "get" [[.text "a"]] ⟨1, 10, 9⟩]
    let value : Tree :=
      [.call "setmulti" [[.text "a"], [.text "x; y"]] ⟨1, 18, 17⟩, .text "x"]
    let call (list : Tree) : Tree := [.call "inmulti" [list, value] .start]
    Behind host (ReadsAlike host "a" other) [value] ⟨s.tags, [⟨"inmulti", .start⟩]⟩ ∧
    ((evalTree standard (call [.tag "a"])).runFrom host s).1 = .ok "1" ∧
    (evalTree standard (call [.tag "a"])).runFrom host s
      = (evalTree standard (call other)).runFrom host s := by
  intro host s other value call
  have hbehind : Behind host (ReadsAlike host "a" other) [value]
      ⟨s.tags, [⟨"inmulti", .start⟩]⟩ := by
    intro values s' hrun
    have hstate : (Argument.valuesOf (argumentsOf standard [value])).runFrom host
        ⟨s.tags, [⟨"inmulti", .start⟩]⟩
        = (.ok ["x"], ⟨.ofPairs [("a", "x"), ("a", "y")], [⟨"inmulti", .start⟩]⟩) := by
      rw [argumentsOf_eq, List.map_singleton, evalTree_standard]
      rfl
    obtain ⟨-, rfl⟩ := Prod.mk.inj (hstate.symm.trans hrun)
    refine ⟨by decide, ?_⟩
    rw [evalTree_standard]
    rfl
  refine ⟨hbehind, ?_, ?_⟩
  · rw [evalTree_standard]
    rfl
  · exact lone_tags_read_alike.2 "inmulti" (by decide) "a" other rfl [value] .start host s hbehind

/-- What counts is not the tag as it was before the call. A value to look for comes with a change of
the tag, to one value with the joiner in it: the lone tag is then that one value, its text two. -/
theorem list_read_behind_arguments :
    let host : Host := ⟨none, ⟨⟨2024, 5, 6⟩, ⟨7, 8, 9, 0⟩, 0⟩⟩
    let s : RunState := ⟨.ofPairs [("a", "q")], []⟩
    let other : Tree := [.call "get" [[.text "a"]] ⟨1, 10, 9⟩]
    let value : Tree := [.call "set" [[.text "a"], [.text "x; y"]] ⟨1, 18, 17⟩, .text "x"]
    let call (list : Tree) : Tree := [.call "inmulti" [list, value] .start]
    "inmulti" ∈ listReaders ∧ Tree.singleTag? other = none ∧ Splittable s.tags "a" ∧
    (∀ t : RunState, (evalTree standard other).runFrom host t = (.ok (t.tags.get "a"), t)) ∧
    (evalTree standard (call [.tag "a"])).runFrom host s
      = (.ok "", ⟨.ofPairs [("a", "x; y")], []⟩) ∧
    (evalTree standard (call other)).runFrom host s
      = (.ok "1", ⟨.ofPairs [("a", "x; y")], []⟩) := by
  intro host s other value call
  refine ⟨by decide, rfl, by decide, fun t => ?_, ?_, ?_⟩
  · have hget : (evalTree plainLibrary other).runFrom host t = (.ok (t.tags.get "a" ++ ""), t) := rfl
    rw [evalTree_standard, hget, String.append_empty]
  · rw [evalTree_standard]
    rfl
  · rw [evalTree_standard]
    dsimp only [call, other, value, s, host]
    rfl

end Retag

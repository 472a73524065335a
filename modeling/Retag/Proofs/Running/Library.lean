import Retag.Library.Standard
import Retag.Proofs.Running.Calls

/-!
# What the library may do

Which changes each function of the library makes to the tags, which functions ask the host, and that
none of them does more. No function asks for an argument that the fewest arguments it accepts leave
out.
-/

namespace Retag.Library

open Script

/-- The changes to the tags that the functions of the library make, by their names. -/
inductive Change : String → (TagStore → TagStore) → Prop
  | set (name value : String) : Change "set" (Eval.setIn name value)
  | unset (name : String) : Change "unset" (Eval.unsetIn name)
  | delete (name : String) : Change "delete" (·.delete (internalName name))
  | copy (new old : String) : Change "copy" (Tags.copyIn new old)
  | merge (new old : String) (keepDuplicates : Bool) :
      Change "copymerge" (Tags.mergeIn new old keepDuplicates)
  | store (list : ValueList) (name : String) : Change "setmulti" (list.store · name)
  | clean (name : String) : Change "cleanmulti" (Lists.cleanIn name)
  | startRound {loop name : String} (value : String) : loop ∈ ["foreach", "while", "map"] →
      name ∈ [loopCount, loopValue] → Change loop (Eval.setIn name value)
  | endLoop {loop name : String} : loop ∈ ["foreach", "while", "map"] →
      name ∈ [loopCount, loopValue] → Change loop (Eval.unsetIn name)

/-- What the functions of the library may do, by their names. -/
def powersOf (function : String) : Powers where
  changes := Change function
  album := function ∈ ["matchedtracks", "is_complete"]
  clock := function = "datetime"
  refuses := function = "datetime"

/-- Places that a call with `n` arguments does not have and one with `least` arguments has. -/
def Lacks (least n i : Nat) : Prop := n ≤ i ∧ i < least

/-! ## Arguments -/

theorem accepts_between {min max n : Nat} :
    (Arity.between min max).accepts n = true ↔ min ≤ n ∧ n ≤ max :=
  (Bool.and_eq_true_iff ..).trans (and_congr decide_eq_true_iff decide_eq_true_iff)

variable {p : Powers} {missing : Nat → Prop} {arg : Eval String → Prop} {least : Nat}

/-- What asks for an argument goes on with an argument of the call. -/
theorem uses_required {α β : Type} {args : List α} {i : Nat} {k : α → Eval β} (hi : i < least)
    (hk : ∀ a ∈ args, Uses p (Lacks least args.length) arg (k a)) :
    Uses p (Lacks least args.length) arg (required args i >>= k) := by
  rcases h : args[i]? with _ | a
  · have hm : Lacks least args.length i := ⟨List.getElem?_eq_none_iff.mp h, hi⟩
    have heq : required args i >>= k = (Eval.errorHere (.missingArgument · i) >>= throw) := by
      simp only [required, h, bind_assoc]
      rfl
    exact heq ▸ .missing hm
  · have heq : required args i >>= k = k a := by
      simp only [required, h, pure_bind]
    exact heq ▸ hk a (List.mem_of_getElem? h)

theorem uses_tagValue (name : String) : Uses p missing arg (Eval.tagValue name) :=
  .bind .tags fun _ => .value _

theorem uses_changing {c : TagStore → TagStore} (hc : p.changes c) :
    Uses p missing arg (Tags.changing c) :=
  .bind (.change hc) fun _ => .value _

section Lists

variable {args : List Argument}

theorem uses_value {a : Argument} (ha : a ∈ args) : Uses p missing (ValueOf args) a.value :=
  .argument ⟨a, ha, rfl⟩

theorem uses_listOf {multi : Argument} {separator : Option Argument} (hm : multi ∈ args)
    (hs : ∀ a, separator = some a → a ∈ args) :
    Uses p missing (ValueOf args) (listOf multi separator) := by
  unfold listOf
  rcases separator with _ | a
  case' none => refine .bind (.value joiner) fun text => ?_
  case' some => refine .bind (uses_value (hs a rfl)) fun text => ?_
  all_goals
    dsimp only
    split
    · exact .bind .tags fun _ => .value _
    · exact .bind (uses_value hm) fun _ => .value _

theorem uses_indexOf {a : Argument} (ha : a ∈ args) :
    Uses p missing (ValueOf args) (Lists.indexOf a) := by
  unfold Lists.indexOf
  split
  · exact .value _
  · exact .bind (uses_value ha) fun _ => .value _

end Lists

/-! ## Functions of texts -/

/-- A function does no more than its name and its argument counts allow. -/
def Abides (f : Function) : Prop :=
  f.implementation.Within (powersOf f.name) (Lacks f.arity.min)

section Abides

variable {name doc : String} {arity : Arity}

theorem abides_eager {run : List String → Eval String}
    (h : ∀ args, Uses (powersOf name) (Lacks arity.min args.length) (fun _ => False) (run args)) :
    Abides ⟨name, .eager run, arity, doc⟩ := .onValues fun _ => h

theorem abides_lazy {run : List Argument → Eval String}
    (h : ∀ args, Uses (powersOf name) (Lacks arity.min args.length) (ValueOf args) (run args)) :
    Abides ⟨name, .lazy run, arity, doc⟩ := .onArguments fun _ => h

theorem abides_ofOne {f : String → String} (h : 0 < arity.min) :
    Abides ⟨name, ofOne f, arity, doc⟩ :=
  abides_eager fun _ => uses_required h fun _ _ => .value _

theorem abides_ofTwo {f : String → String → String} (h : 1 < arity.min) :
    Abides ⟨name, ofTwo f, arity, doc⟩ :=
  abides_eager fun _ => uses_required (Nat.lt_of_succ_lt h) fun _ _ =>
    uses_required h fun _ _ => .value _

theorem abides_ofThree {f : String → String → String → String} (h : 2 < arity.min) :
    Abides ⟨name, ofThree f, arity, doc⟩ :=
  have h₁ := Nat.lt_of_succ_lt h
  abides_eager fun _ => uses_required (Nat.lt_of_succ_lt h₁) fun _ _ => uses_required h₁ fun _ _ =>
    uses_required h fun _ _ => .value _

theorem abides_ofAll {f : List String → String} : Abides ⟨name, ofAll f, arity, doc⟩ :=
  abides_eager fun _ => .value _

theorem abides_ofFirst {f : String → List String → String} (h : 0 < arity.min) :
    Abides ⟨name, ofFirst f, arity, doc⟩ :=
  abides_eager fun _ => uses_required h fun _ _ => .value _

end Abides

-- The descriptions are long texts put together with `++`, and nothing here depends on them.
theorem textFunctions_abide : ∀ f ∈ textFunctions, Abides f := by
  simp [textFunctions, Arity.exactly, Arity.between, Arity.atLeast, abides_ofOne, abides_ofTwo,
    abides_ofThree, abides_ofAll, abides_ofFirst, -String.reduceAppend]

theorem numberFunctions_abide : ∀ f ∈ numberFunctions, Abides f := by
  simp [numberFunctions, Arity.exactly, Arity.atLeast, abides_ofOne, abides_ofTwo, abides_ofAll,
    abides_ofFirst, -String.reduceAppend]

/-! ## Functions of tags -/

theorem tagFunctions_abide : ∀ f ∈ tagFunctions, Abides f := by
  simp only [tagFunctions, List.forall_mem_cons]
  refine ⟨abides_eager fun args => ?get, abides_eager fun args => ?set,
    abides_eager fun args => ?unset, abides_eager fun args => ?delete,
    abides_eager fun args => ?copy, abides_eager fun args => ?merge, nofun⟩
  case get => exact uses_required Nat.one_pos fun name _ => uses_tagValue name
  case set =>
    refine uses_required Nat.two_pos fun name _ => uses_required Nat.one_lt_two fun value _ => ?_
    exact uses_changing (.set name value)
  case unset => exact uses_required Nat.one_pos fun name _ => uses_changing (.unset name)
  case delete => exact uses_required Nat.one_pos fun name _ => uses_changing (.delete name)
  case copy =>
    refine uses_required Nat.two_pos fun new _ => uses_required Nat.one_lt_two fun old _ => ?_
    exact uses_changing (.copy new old)
  case merge =>
    refine uses_required Nat.two_pos fun new _ => uses_required Nat.one_lt_two fun old _ => ?_
    exact uses_changing (.merge new old _)

/-! ## Dates and facts -/

theorem dateFunctions_abide : ∀ f ∈ dateFunctions, Abides f := by
  simp only [dateFunctions, List.forall_mem_cons]
  refine ⟨abides_eager fun args => ?dateTime, abides_eager fun args => ?year,
    abides_eager fun args => ?month, abides_eager fun args => ?day,
    abides_eager fun args => ?dateFormat, nofun⟩
  case dateTime =>
    unfold Dates.dateTime
    refine .clock rfl (fun host => ?_) fun host host' he => by rw [he]
    split
    · exact .value _
    · exact .refuse rfl
  all_goals exact uses_required Nat.one_pos fun _ _ => .value _

theorem uses_album (h : p.album) : Uses p missing arg Facts.album? :=
  .album h (fun _ => .value _) fun host host' he => by rw [he]

theorem uses_hasVideo : Uses p missing arg Facts.hasVideo :=
  .bind (uses_tagValue _) fun _ => .value _

theorem factFunctions_abide : ∀ f ∈ factFunctions, Abides f := by
  simp only [factFunctions, List.forall_mem_cons]
  refine ⟨abides_eager fun args => ?performer, abides_lazy fun _ => ?matchedTracks,
    abides_eager fun _ => ?isComplete, abides_eager fun _ => ?isAudio,
    abides_eager fun _ => ?isVideo, nofun⟩
  case performer =>
    unfold Facts.performer
    split
    · exact .bind .tags fun _ => .value _
    · exact .value _
  case matchedTracks =>
    refine .bind (uses_album (List.mem_cons_self ..)) fun album => ?_
    rcases album with _ | a <;> exact .value _
  case isComplete =>
    refine .bind (uses_album (List.mem_cons_of_mem _ (List.mem_cons_self ..))) fun album => ?_
    rcases album with _ | a <;> exact .value _
  all_goals exact .bind uses_hasVideo fun _ => .value _

/-! ## Branches and loops -/

theorem uses_firstFilled {args all : List Argument} (h : ∀ a ∈ args, a ∈ all) :
    Uses p missing (ValueOf all) (Control.firstFilled args) := by
  induction args with
  | nil => exact .value ""
  | cons a rest ih =>
    refine .bind (uses_value (h a (List.mem_cons_self ..))) fun v => ?_
    split
    · exact ih fun b hb => h b (List.mem_cons_of_mem _ hb)
    · exact .value v

section Loops

variable {loop : String} (hl : loop ∈ ["foreach", "while", "map"])

include hl

theorem uses_startRound (i : Nat) (value : String) :
    Uses (powersOf loop) missing arg (Control.startRound i value) := by
  refine .bind (.change (.startRound _ hl (List.mem_cons_self ..))) fun _ => ?_
  exact .change (.startRound _ hl (List.mem_cons_of_mem _ (List.mem_cons_self ..)))

theorem uses_endLoop : Uses (powersOf loop) missing arg Control.endLoop := by
  refine .bind (.change (.endLoop hl (List.mem_cons_self ..))) fun _ => ?_
  exact .change (.endLoop hl (List.mem_cons_of_mem _ (List.mem_cons_self ..)))

theorem uses_rounds {code : Eval String} (hc : Uses (powersOf loop) missing arg code)
    (values : List String) (i : Nat) :
    Uses (powersOf loop) missing arg (Control.rounds code i values) := by
  induction values generalizing i with
  | nil => exact .value []
  | cons value rest ih =>
    refine .bind (uses_startRound hl _ value) fun _ => .bind hc fun result => ?_
    exact .bind (ih (i + 1)) fun results => .value (result :: results)

theorem uses_whileRounds {condition code : Eval String}
    (hcond : Uses (powersOf loop) missing arg condition)
    (hcode : Uses (powersOf loop) missing arg code) (left i : Nat) :
    Uses (powersOf loop) missing arg (Control.whileRounds condition code i left) := by
  induction left generalizing i with
  | zero => exact .bind hcond fun _ => .value ()
  | succ left ih =>
    refine .bind hcond fun go => ?_
    split
    · exact .value ()
    · refine .bind (.change (.startRound _ hl (List.mem_cons_self ..))) fun _ => ?_
      exact .bind hcode fun _ => ih (i + 1)

end Loops

theorem controlFunctions_abide : ∀ f ∈ controlFunctions, Abides f := by
  simp only [controlFunctions, List.forall_mem_cons]
  refine ⟨abides_lazy fun args => ?branch, abides_lazy fun args => ?firstFilled,
    abides_lazy fun _ => ?noop, abides_lazy fun args => ?forEach,
    abides_lazy fun args => ?whileLoop, abides_lazy fun args => ?map, nofun⟩
  case branch =>
    refine uses_required Nat.two_pos fun condition hc => .bind (uses_value hc) fun v => ?_
    split
    · split
      · exact uses_value (List.mem_of_getElem? ‹_›)
      · exact .value ""
    · exact uses_required Nat.one_lt_two fun yes hy => uses_value hy
  case firstFilled => exact uses_firstFilled fun _ ha => ha
  case noop => exact .value ""
  case forEach =>
    have hl : "foreach" ∈ ["foreach", "while", "map"] := by decide
    refine uses_required Nat.two_pos fun multi hm => ?_
    refine .bind (uses_listOf hm fun _ => List.mem_of_getElem?) fun list => ?_
    refine uses_required Nat.one_lt_two fun code hc => ?_
    refine .bind (uses_rounds hl (uses_value hc) _ 0) fun _ => ?_
    exact .bind (uses_endLoop hl) fun _ => .value ""
  case whileLoop =>
    have hl : "while" ∈ ["foreach", "while", "map"] := by decide
    refine uses_required Nat.two_pos fun condition hcond => ?_
    refine uses_required Nat.one_lt_two fun code hcode => ?_
    split
    · exact .value ""
    · refine .bind (uses_whileRounds hl (uses_value hcond) (uses_value hcode) _ 0) fun _ => ?_
      exact .bind (uses_endLoop hl) fun _ => .value ""
  case map =>
    have hl : "map" ∈ ["foreach", "while", "map"] := by decide
    refine uses_required Nat.two_pos fun multi hm => ?_
    refine .bind (uses_listOf hm fun _ => List.mem_of_getElem?) fun list => ?_
    refine uses_required Nat.one_lt_two fun code hc => ?_
    refine .bind (uses_rounds hl (uses_value hc) _ 0) fun results => ?_
    exact .bind (uses_endLoop hl) fun _ => .value _

/-! ## Functions of lists -/

/-- Most functions of lists end so: they read the list and make a value of it. -/
theorem uses_list {args : List Argument} (h : 0 < least) {separator : Option Argument}
    (hs : ∀ a, separator = some a → a ∈ args) {k : ValueList → Eval String}
    (hk : ∀ list, Uses p (Lacks least args.length) (ValueOf args) (k list)) :
    Uses p (Lacks least args.length) (ValueOf args)
      (required args 0 >>= fun multi => listOf multi separator >>= k) :=
  uses_required h fun _ hm => .bind (uses_listOf hm hs) hk

theorem listFunctions_abide : ∀ f ∈ listFunctions, Abides f := by
  have optional {args : List Argument} {i : Nat} : ∀ a, args[i]? = some a → a ∈ args :=
    fun _ => List.mem_of_getElem?
  simp only [listFunctions, List.forall_mem_cons]
  refine ⟨abides_eager fun args => ?setMulti, abides_lazy fun args => ?getMulti,
    abides_lazy fun args => ?lenMulti, abides_lazy fun args => ?inMulti,
    abides_lazy fun args => ?sortMulti, abides_lazy fun args => ?reverseMulti,
    abides_lazy fun args => ?unique, abides_lazy fun args => ?slice,
    abides_lazy fun args => ?join, abides_lazy fun args => ?isMulti,
    abides_eager fun args => ?cleanMulti, abides_lazy fun args => ?replaceMulti, nofun⟩
  case setMulti =>
    refine uses_required Nat.two_pos fun name _ => uses_required Nat.one_lt_two fun text _ => ?_
    exact .bind (.change (.store _ name)) fun _ => .value ""
  case getMulti =>
    refine uses_required Nat.one_lt_two fun i hi => .bind (uses_indexOf hi) fun index => ?_
    rcases index with _ | index
    · exact .value ""
    · exact uses_list Nat.two_pos optional fun _ => .value _
  case lenMulti => exact uses_list Nat.one_pos optional fun _ => .value _
  case inMulti =>
    refine uses_required Nat.one_lt_two fun value hv => .bind (uses_value hv) fun _ => ?_
    exact uses_list Nat.two_pos optional fun _ => .value _
  case sortMulti => exact uses_list Nat.one_pos optional fun _ => .value _
  case reverseMulti => exact uses_list Nat.one_pos optional fun _ => .value _
  case unique =>
    unfold Lists.unique
    split
    · refine .bind (uses_value (optional _ ‹_›)) fun _ => ?_
      exact uses_list Nat.one_pos optional fun _ => .value _
    · refine .bind (.value "") fun _ => ?_
      exact uses_list Nat.one_pos optional fun _ => .value _
  case slice =>
    refine uses_required (by decide) fun i hi => .bind (uses_indexOf hi) fun start => ?_
    refine uses_required (by decide) fun j hj => .bind (uses_indexOf hj) fun stop => ?_
    exact uses_list (by decide) optional fun _ => .value _
  case join =>
    refine uses_required Nat.one_lt_two fun glue hg => .bind (uses_value hg) fun _ => ?_
    exact uses_list Nat.two_pos optional fun _ => .value _
  case isMulti =>
    refine uses_required Nat.one_pos fun multi hm => ?_
    exact .bind (uses_listOf hm nofun) fun _ => .value _
  case cleanMulti =>
    exact uses_required Nat.one_pos fun name _ => .bind (.change (.clean name)) fun _ => .value ""
  case replaceMulti =>
    refine uses_required (by decide) fun search hs => ?_
    split
    · exact uses_required (by decide) fun multi hm => uses_value hm
    · refine .bind (uses_value hs) fun _ => ?_
      refine uses_required (by decide) fun replacement hr => .bind (uses_value hr) fun _ => ?_
      exact uses_list (by decide) optional fun _ => .value _

/-! ## The whole library -/

theorem allFunctions_abide {f : Function} (hf : f ∈ allFunctions) : Abides f := by
  simp only [allFunctions, List.mem_append] at hf
  rcases hf with (((((hf | hf) | hf) | hf) | hf) | hf) | hf
  · exact controlFunctions_abide f hf
  · exact tagFunctions_abide f hf
  · exact textFunctions_abide f hf
  · exact numberFunctions_abide f hf
  · exact listFunctions_abide f hf
  · exact dateFunctions_abide f hf
  · exact factFunctions_abide f hf

theorem standard_abide {f : Function} (hf : f ∈ standard.functions) : Abides f :=
  allFunctions_abide ((Registry.mem_foldl_register hf).resolve_right List.not_mem_nil)

/-- The library as a plain list of functions, which is not sorted while something is evaluated. -/
def plainLibrary : Registry := ⟨allFunctions.reverse⟩

theorem find?_standard (name : String) : standard.find? name = plainLibrary.find? name :=
  Registry.find?_ofList allFunctions name

theorem arity?_standard : standard.arity? = plainLibrary.arity? :=
  funext fun name => congrArg (Option.map _) (find?_standard name)

/-- No function of the library asks which functions there are. -/
theorem standard_heedless {f : Function} (hf : f ∈ standard.functions) :
    f.implementation.Heedless := by
  intro known
  have hall : allFunctions.map (·.implementation.told known)
      = allFunctions.map (·.implementation) := rfl
  have hmem : f ∈ allFunctions := (Registry.mem_foldl_register hf).resolve_right List.not_mem_nil
  exact List.map_inj_left.mp hall f hmem

theorem call_standard (name : String) (args : List Argument) (position : Position) :
    standard.call name args position = plainLibrary.call name args position := by
  refine (Registry.call_congr (find?_standard name).symm (fun f hf => ?_) args position).symm
  exact standard_heedless (Registry.mem_of_find? hf).1

theorem evalTree_standard (t : Tree) : evalTree standard t = evalTree plainLibrary t :=
  evalTree_congr t fun call _ args => call_standard call.1 args call.2

theorem eval_standard (n : Node) : n.eval standard = n.eval plainLibrary := by
  cases n with
  | text content => rw [Node.eval, Node.eval]
  | tag name => rw [Node.eval, Node.eval]
  | call name args position =>
    rw [Node.eval, Node.eval, call_standard, argumentsOf_eq, argumentsOf_eq]
    simp only [evalTree_standard]

theorem standard_makes {name : String} {f : Function} (hf : standard.find? name = some f) :
    f.implementation.Makes (Change name) := by
  obtain ⟨hmem, rfl⟩ := Registry.mem_of_find? hf
  exact ⟨_, _, standard_abide hmem, fun _ => id⟩

/-- What the changes of the functions that a tree calls keep, every run of the tree keeps. -/
theorem keeps_standard {R : TagStore → TagStore → Prop} (hrefl : ∀ s, R s s)
    (htrans : ∀ s₁ s₂ s₃, R s₁ s₂ → R s₂ s₃ → R s₁ s₃) (t : Tree)
    (h : ∀ call ∈ callsOf t, ∀ c, Change call.1 c → ∀ s, R s (c s)) :
    (evalTree standard t).Keeps R := by
  refine keeps_evalTree hrefl htrans t fun call hcall f hf => ?_
  obtain ⟨p, missing, hw, hc⟩ := standard_makes hf
  exact ⟨p, missing, hw, fun c hpc => h call hcall c (hc c hpc)⟩

end Retag.Library

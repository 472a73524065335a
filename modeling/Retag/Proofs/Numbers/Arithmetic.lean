import Mathlib.Data.List.Forall2
import Retag.Proofs.Running.ValueCalls
import Retag.Proofs.Text.Numerals

/-!
# Arithmetic

Beside each operation of the library stands the operation on all integers, with the steps that it
allows: those whose results are integers in sixty-four bits. A call answers with the exact result of
all steps from the left if every argument is a numeral and every step is allowed, and with nothing
otherwise. An answer is a numeral that is read back, so a call may be done in parts.
-/

namespace Retag.Library

open Script Retag.Text

/-- An operation of arithmetic, as the library takes a step of it and as it is on all integers. -/
structure Calculation where
  name : String
  step : Int → Int → Option Int
  result : Int → Int → Int
  /-- Where the result counts. -/
  Allows : Int → Int → Prop

namespace Calculation

def add : Calculation := ⟨"add", Numbers.add, (· + ·), fun a b => Fits (a + b)⟩

def sub : Calculation := ⟨"sub", Numbers.sub, (· - ·), fun a b => Fits (a - b)⟩

def mul : Calculation := ⟨"mul", Numbers.mul, (· * ·), fun a b => Fits (a * b)⟩

def div : Calculation := ⟨"div", Numbers.div, Int.tdiv, fun a b => b ≠ 0 ∧ Fits (a.tdiv b)⟩

/-- A remainder comes with a quotient, which has to be an integer in sixty-four bits too. -/
def mod : Calculation :=
  ⟨"mod", Numbers.mod, Int.tmod, fun a b => b ≠ 0 ∧ Fits (a.tdiv b) ∧ Fits (a.tmod b)⟩

def all : List Calculation := [add, sub, mul, div, mod]

/-- What a call gives for the values of its arguments. -/
def answer (op : Calculation) (values : List String) : String := Numbers.arithmetic op.step values

/-- From `n` on, every step is allowed. -/
def Succeeds (op : Calculation) : Int → List Int → Prop
  | _, [] => True
  | n, b :: rest => op.Allows n b ∧ op.Succeeds (op.result n b) rest

/-- The texts are numerals, of integers in sixty-four bits, and every step is allowed. -/
structure Computes (op : Calculation) (values : List String) (first : Int) (rest : List Int) :
    Prop where
  written : List.Forall₂ (fun text n => Writes text n ∧ Fits n) values (first :: rest)
  succeeds : op.Succeeds first rest

/-! ## Steps -/

section Steps

variable {op : Calculation} {a b c : Int}

theorem fits_tmod (hb : Fits b) (hne : b ≠ 0) : Fits (a.tmod b) := by
  have habs := Int.natAbs_tmod a b
  have hlt : a.natAbs % b.natAbs < b.natAbs := Nat.mod_lt _ (by omega)
  unfold Fits at hb ⊢
  omega

theorem checkInteger_eq_some_iff : checkInteger a = some c ↔ Fits a ∧ a = c := by
  rw [checkInteger_eq]
  split
  · next h => simp [h]
  · next h => simp [h]

theorem div_eq_some_iff : Numbers.div a b = some c ↔ (b ≠ 0 ∧ Fits (a.tdiv b)) ∧ a.tdiv b = c := by
  rw [Numbers.div]
  split
  · next h => simp [h]
  · next h => simp [h, checkInteger_eq_some_iff]

theorem mod_eq_some_iff (hb : Fits b) :
    Numbers.mod a b = some c
      ↔ (b ≠ 0 ∧ Fits (a.tdiv b) ∧ Fits (a.tmod b)) ∧ a.tmod b = c := by
  rw [Numbers.mod, Option.map_eq_some_iff]
  constructor
  · rintro ⟨q, hq, hc⟩
    obtain ⟨⟨hne, hfits⟩, -⟩ := div_eq_some_iff.mp hq
    exact ⟨⟨hne, hfits, fits_tmod hb hne⟩, hc⟩
  · rintro ⟨⟨hne, hfits, -⟩, hc⟩
    exact ⟨a.tdiv b, div_eq_some_iff.mpr ⟨⟨hne, hfits⟩, rfl⟩, hc⟩

/-- The library takes the steps that are allowed, and takes them exactly. -/
theorem step_eq_some_iff (hop : op ∈ all) (hb : Fits b) :
    op.step a b = some c ↔ op.Allows a b ∧ op.result a b = c := by
  simp only [all, List.mem_cons, List.not_mem_nil, or_false] at hop
  rcases hop with rfl | rfl | rfl | rfl | rfl
  · exact checkInteger_eq_some_iff
  · exact checkInteger_eq_some_iff
  · exact checkInteger_eq_some_iff
  · exact div_eq_some_iff
  · exact mod_eq_some_iff hb

theorem fits_result (hop : op ∈ all) (h : op.Allows a b) : Fits (op.result a b) := by
  simp only [all, List.mem_cons, List.not_mem_nil, or_false] at hop
  rcases hop with rfl | rfl | rfl | rfl | rfl
  · exact h
  · exact h
  · exact h
  · exact h.2
  · exact h.2.2

end Steps

/-! ## All steps -/

section Folds

variable {op : Calculation} {values : List String} {n m : Int}

/-- The library's steps over the values of arguments. -/
def walk (op : Calculation) (n : Int) (values : List String) : Option Int :=
  values.foldlM (fun n arg => (readInteger? arg).bind (op.step n)) n

theorem foldAll?_cons (op : Calculation) (value : String) (values : List String) :
    Numbers.foldAll? op.step (value :: values)
      = (readInteger? value).bind fun n => op.walk n values := rfl

theorem walk_eq_some_iff (hop : op ∈ all) :
    op.walk n values = some m
      ↔ ∃ numbers, List.Forall₂ (fun text k => Writes text k ∧ Fits k) values numbers ∧
        op.Succeeds n numbers ∧ numbers.foldl op.result n = m := by
  induction values generalizing n with
  | nil => simp [walk, Succeeds]
  | cons value values ih =>
    have hwalk : op.walk n (value :: values)
        = ((readInteger? value).bind (op.step n)).bind fun k => op.walk k values := by
      rw [walk, List.foldlM_cons]
      rfl
    rw [hwalk, Option.bind_eq_some_iff]
    simp only [Option.bind_eq_some_iff, readInteger?_eq_some_iff, ih]
    constructor
    · rintro ⟨k, ⟨b, hb, hstep⟩, numbers, hnumbers, hsucceeds, hfold⟩
      obtain ⟨hallows, rfl⟩ := (step_eq_some_iff hop hb.2).mp hstep
      exact ⟨b :: numbers, .cons hb hnumbers, ⟨hallows, hsucceeds⟩, hfold⟩
    · rintro ⟨_, hnumbers, hsucceeds, hfold⟩
      cases hnumbers with
      | cons hb hnumbers =>
        obtain ⟨hallows, hsucceeds⟩ := hsucceeds
        exact ⟨_, ⟨_, hb, (step_eq_some_iff hop hb.2).mpr ⟨hallows, rfl⟩⟩, _, hnumbers,
          hsucceeds, hfold⟩

theorem foldAll?_eq_some_iff (hop : op ∈ all) :
    Numbers.foldAll? op.step values = some m
      ↔ ∃ first rest, op.Computes values first rest ∧ rest.foldl op.result first = m := by
  cases values with
  | nil =>
    refine ⟨nofun, ?_⟩
    rintro ⟨first, rest, ⟨hwritten, -⟩, -⟩
    cases hwritten
  | cons value values =>
    rw [foldAll?_cons, Option.bind_eq_some_iff]
    simp only [readInteger?_eq_some_iff, walk_eq_some_iff hop]
    constructor
    · rintro ⟨first, hfirst, rest, hrest, hsucceeds, hfold⟩
      exact ⟨first, rest, ⟨.cons hfirst hrest, hsucceeds⟩, hfold⟩
    · rintro ⟨first, rest, ⟨hwritten, hsucceeds⟩, hfold⟩
      cases hwritten with
      | cons hfirst hrest => exact ⟨first, hfirst, rest, hrest, hsucceeds, hfold⟩

theorem Succeeds.fits {rest : List Int} (hop : op ∈ all) (hn : Fits n) (h : op.Succeeds n rest) :
    Fits (rest.foldl op.result n) := by
  induction rest generalizing n with
  | nil => exact hn
  | cons b rest ih => exact ih (fits_result hop h.1) h.2

theorem fits_of_foldAll? (hop : op ∈ all) (h : Numbers.foldAll? op.step values = some m) :
    Fits m := by
  obtain ⟨first, rest, ⟨hwritten, hsucceeds⟩, rfl⟩ := (foldAll?_eq_some_iff hop).mp h
  cases hwritten with
  | cons hfirst _ => exact hsucceeds.fits hop hfirst.2

end Folds

/-! ## Answers -/

section Answers

variable {op : Calculation} {values front back : List String}

theorem answer_of_some {n : Int} (h : Numbers.foldAll? op.step values = some n) :
    op.answer values = toString n := by
  rw [answer, Numbers.arithmetic, h]

theorem answer_of_none (h : Numbers.foldAll? op.step values = none) : op.answer values = "" := by
  rw [answer, Numbers.arithmetic, h]

theorem answer_exact (hop : op ∈ all) {first : Int} {rest : List Int}
    (h : op.Computes values first rest) :
    op.answer values = toString (rest.foldl op.result first) :=
  answer_of_some ((foldAll?_eq_some_iff hop).mpr ⟨first, rest, h, rfl⟩)

theorem answer_empty (hop : op ∈ all) (h : ¬ ∃ first rest, op.Computes values first rest) :
    op.answer values = "" := by
  refine answer_of_none (Option.eq_none_iff_forall_ne_some.mpr fun n hn => h ?_)
  obtain ⟨first, rest, hcomputes, -⟩ := (foldAll?_eq_some_iff hop).mp hn
  exact ⟨first, rest, hcomputes⟩

/-- An answer takes the place of the values that it was computed from. -/
theorem answer_answer (hop : op ∈ all) (hfront : front ≠ []) (back : List String) :
    op.answer (op.answer front :: back) = op.answer (front ++ back) := by
  have hparts : Numbers.foldAll? op.step (front ++ back)
      = (Numbers.foldAll? op.step front).bind fun n => op.walk n back := by
    obtain ⟨value, values, rfl⟩ := List.exists_cons_of_ne_nil hfront
    rw [List.cons_append, foldAll?_cons, foldAll?_cons, Option.bind_assoc]
    refine congrArg _ (funext fun n => ?_)
    rw [walk, List.foldlM_append]
    rfl
  have hsame : Numbers.foldAll? op.step (op.answer front :: back)
      = Numbers.foldAll? op.step (front ++ back) := by
    rw [hparts, foldAll?_cons]
    rcases hfold : Numbers.foldAll? op.step front with - | n
    · rw [answer_of_none hfold]
      rfl
    · rw [answer_of_some hfold, readInteger?_toString (fits_of_foldAll? hop hfold)]
  show Numbers.arithmetic op.step _ = Numbers.arithmetic op.step _
  rw [Numbers.arithmetic, Numbers.arithmetic, hsame]

theorem toString_ne_empty (n : Int) : toString n ≠ "" := by
  intro h
  have hnumeral := numeral_toString n
  rw [h] at hnumeral
  cases hnumeral with
  | plain hdigits => exact hdigits.1 rfl

/-- What two texts are, and that they may be the two sides of a step. -/
structure Pair (op : Calculation) (x y : String) (a b : Int) : Prop where
  left : Writes x a ∧ Fits a
  right : Writes y b ∧ Fits b
  allowed : op.Allows a b

theorem computes_pair {x y : String} {first : Int} {rest : List Int}
    (h : op.Computes [x, y] first rest) : ∃ b, op.Pair x y first b := by
  obtain ⟨hwritten, hsucceeds⟩ := h
  cases hwritten with
  | cons hfirst hrest =>
    cases hrest with
    | cons hb _ => exact ⟨_, hfirst, hb, hsucceeds.1⟩

theorem Pair.answer_eq {x y : String} {a b : Int} (hop : op ∈ all) (h : op.Pair x y a b) :
    op.answer [x, y] = toString (op.result a b) :=
  answer_exact hop ⟨.cons h.left (.cons h.right .nil), h.allowed, trivial⟩

theorem answer_pair_eq_empty_iff {x y : String} (hop : op ∈ all) :
    op.answer [x, y] = "" ↔ ¬ ∃ a b, op.Pair x y a b := by
  constructor
  · rintro hempty ⟨a, b, h⟩
    exact toString_ne_empty _ ((h.answer_eq hop).symm.trans hempty)
  · intro hnone
    refine answer_empty hop fun ⟨first, rest, h⟩ => hnone ?_
    obtain ⟨b, hpair⟩ := computes_pair h
    exact ⟨first, b, hpair⟩

/-- What can be divided has a quotient and a remainder. -/
theorem pair_div_iff {x y : String} {a b : Int} : div.Pair x y a b ↔ mod.Pair x y a b := by
  constructor
  · rintro ⟨hx, hy, hne, hfits⟩
    exact ⟨hx, hy, hne, hfits, fits_tmod hy.2 hne⟩
  · rintro ⟨hx, hy, hne, hfits, -⟩
    exact ⟨hx, hy, hne, hfits⟩

/-- There is a quotient exactly if there is a remainder, and they belong together. -/
theorem quotient_remainder (x y : String) :
    (div.answer [x, y] = "" ↔ mod.answer [x, y] = "") ∧
    (div.answer [x, y] ≠ "" → ∃ a b q r : Int, Writes x a ∧ Writes y b ∧
      div.answer [x, y] = toString q ∧ mod.answer [x, y] = toString r ∧
      a = q * b + r ∧ r.natAbs < b.natAbs) := by
  have hdiv : div ∈ all := by simp [all]
  have hmod : mod ∈ all := by simp [all]
  constructor
  · rw [answer_pair_eq_empty_iff hdiv, answer_pair_eq_empty_iff hmod]
    simp only [pair_div_iff]
  · intro hne
    obtain ⟨a, b, h⟩ := not_not.mp (mt (answer_pair_eq_empty_iff hdiv).mpr hne)
    have hb : 0 < b.natAbs := Int.natAbs_pos.mpr h.allowed.1
    refine ⟨a, b, a.tdiv b, a.tmod b, h.left.1, h.right.1, h.answer_eq hdiv,
      (pair_div_iff.mp h).answer_eq hmod, (Int.tdiv_mul_add_tmod a b).symm, ?_⟩
    rw [Int.natAbs_tmod]
    exact Nat.mod_lt _ hb

end Answers

/-! ## Calls -/

theorem find?_calculation {op : Calculation} (hop : op ∈ all) :
    ∃ doc, standard.find? op.name = some ⟨op.name, ofAll op.answer, .atLeast 2, doc⟩ := by
  rw [find?_standard]
  simp only [all, List.mem_cons, List.not_mem_nil, or_false] at hop
  rcases hop with rfl | rfl | rfl | rfl | rfl
  all_goals exact ⟨_, rfl⟩

theorem evalTree_call {op : Calculation} (hop : op ∈ all) {args : List Tree}
    (hn : 2 ≤ args.length) (position : Position) :
    evalTree standard [.call op.name args position] = (do
      return op.answer (← Argument.valuesOf (argumentsOf standard args))) := by
  have haccepts : (Arity.atLeast 2).accepts args.length = true := by
    simp [Arity.accepts, Arity.atLeast, hn]
  obtain ⟨doc, hfind⟩ := find?_calculation hop
  exact evalTree_ofAll hfind haccepts position

/-- A call may be done in parts: the first arguments by a call of their own. -/
theorem evalTree_call_call {op : Calculation} (hop : op ∈ all) {front back : List Tree}
    (hfront : 2 ≤ front.length) (hback : back ≠ []) (position position' : Position) :
    evalTree standard [.call op.name ([.call op.name front position'] :: back) position]
      = evalTree standard [.call op.name (front ++ back) position] := by
  have hcount : 0 < back.length := List.length_pos_iff.mpr hback
  have houter : 2 ≤ ([.call op.name front position'] :: back).length := by
    rw [List.length_cons]
    omega
  have hwhole : 2 ≤ (front ++ back).length := by
    rw [List.length_append]
    omega
  have hargs : argumentsOf standard (front ++ back)
      = argumentsOf standard front ++ argumentsOf standard back := by
    simp only [argumentsOf_eq, List.map_append]
  rw [evalTree_call hop houter, evalTree_call hop hwhole, argumentsOf, Argument.valuesOf,
    evalTree_call hop hfront, hargs, valuesOf_append]
  have hfull : front ≠ [] := List.ne_nil_of_length_pos (by omega)
  obtain ⟨t, front, rfl⟩ := List.exists_cons_of_ne_nil hfull
  simp only [argumentsOf, Argument.valuesOf, bind_assoc, pure_bind]
  refine bind_congr fun value => bind_congr fun values => bind_congr fun others => ?_
  rw [answer_answer hop (List.cons_ne_nil value values)]

end Calculation

/-- A call of an operation evaluates its arguments in order. If they are numerals of integers in
sixty-four bits and every step from the left over all integers is allowed, it answers with the
result of all steps, and otherwise with nothing; the first arguments may as well be given by a call
of their own. A quotient and a remainder are there together, and belong together. -/
theorem arithmetic_exact :
    (∀ op ∈ Calculation.all,
      (∀ args : List Tree, 2 ≤ args.length → ∀ position,
        evalTree standard [.call op.name args position] = (do
          return op.answer (← Argument.valuesOf (argumentsOf standard args)))) ∧
      (∀ values,
        (∀ first rest, op.Computes values first rest →
          op.answer values = toString (rest.foldl op.result first)) ∧
        ((¬ ∃ first rest, op.Computes values first rest) → op.answer values = "")) ∧
      (∀ front back : List Tree, 2 ≤ front.length → back ≠ [] → ∀ position position',
        evalTree standard [.call op.name ([.call op.name front position'] :: back) position]
          = evalTree standard [.call op.name (front ++ back) position])) ∧
    ∀ x y,
      (Calculation.div.answer [x, y] = "" ↔ Calculation.mod.answer [x, y] = "") ∧
      (Calculation.div.answer [x, y] ≠ "" → ∃ a b q r : Int, Writes x a ∧ Writes y b ∧
        Calculation.div.answer [x, y] = toString q ∧ Calculation.mod.answer [x, y] = toString r ∧
        a = q * b + r ∧ r.natAbs < b.natAbs) := by
  constructor
  · intro op hop
    refine ⟨?_, fun values => ⟨?_, ?_⟩, ?_⟩
    · intro args hn position
      exact Calculation.evalTree_call hop hn position
    · intro first rest h
      exact Calculation.answer_exact hop h
    · exact Calculation.answer_empty hop
    · intro front back hfront hback position position'
      exact Calculation.evalTree_call_call hop hfront hback position position'
  · exact Calculation.quotient_remainder

/-- The least integer is reached exactly, but it has no quotient by minus one; a call within a call,
one of whose arguments is no numeral; and a quotient with its remainder below zero. -/
theorem arithmetic_exact_least :
    let least := "-9223372036854775808"
    let inner : List Tree := [[.text "1"], [.text "x"]]
    Calculation.mul ∈ Calculation.all ∧ Calculation.div ∈ Calculation.all ∧
    Calculation.mul.Computes [" -4611686018427387904", "+2 "] (-4611686018427387904) [2] ∧
    Calculation.mul.answer [" -4611686018427387904", "+2 "] = least ∧
    (¬ ∃ first rest, Calculation.div.Computes [least, "-1"] first rest) ∧
    Calculation.div.answer [least, "-1"] = "" ∧
    2 ≤ inner.length ∧ ([[.text "2"]] : List Tree) ≠ [] ∧
    evalTree standard [.call "mul" [[.call "mul" inner ⟨1, 6, 5⟩], [.text "2"]] .start]
      = evalTree standard [.call "mul" (inner ++ [[.text "2"]]) .start] ∧
    evalTree standard [.call "mul" inner .start] = (do
      return Calculation.mul.answer (← Argument.valuesOf (argumentsOf standard inner))) ∧
    Calculation.div.answer ["-7", "2"] ≠ "" ∧
    ∃ a b q r : Int, Writes "-7" a ∧ Writes "2" b ∧
      Calculation.div.answer ["-7", "2"] = toString q ∧
      Calculation.mod.answer ["-7", "2"] = toString r ∧ a = q * b + r ∧ r.natAbs < b.natAbs := by
  intro least inner
  have hmul : Calculation.mul ∈ Calculation.all := by simp [Calculation.all]
  have hdiv : Calculation.div ∈ Calculation.all := by simp [Calculation.all]
  have hfactor := readInteger?_eq_some_iff.mp
    (by decide : readInteger? " -4611686018427387904" = some (-4611686018427387904))
  have htwo := readInteger?_eq_some_iff.mp (by decide : readInteger? "+2 " = some 2)
  have hallowed : Fits (-4611686018427387904 * 2) := by decide
  have hcomputes : Calculation.mul.Computes [" -4611686018427387904", "+2 "]
      (-4611686018427387904) [2] :=
    ⟨.cons hfactor (.cons htwo .nil), hallowed, trivial⟩
  have hnone : ¬ ∃ first rest, Calculation.div.Computes [least, "-1"] first rest := by
    rintro ⟨first, rest, h⟩
    have hfold := (Calculation.foldAll?_eq_some_iff hdiv).mpr ⟨first, rest, h, rfl⟩
    have hrefused : Numbers.foldAll? Calculation.div.step [least, "-1"] = none := by decide
    cases hrefused.symm.trans hfold
  have hseven : Calculation.div.answer ["-7", "2"] ≠ "" := by decide
  obtain ⟨hcalls, hanswers, hnested⟩ := arithmetic_exact.1 Calculation.mul hmul
  refine ⟨hmul, hdiv, hcomputes, ?_, hnone, ?_, by decide, by simp, ?_, ?_, hseven, ?_⟩
  · exact (hanswers _).1 _ _ hcomputes
  · exact ((arithmetic_exact.1 Calculation.div hdiv).2.1 _).2 hnone
  · exact hnested inner [[.text "2"]] (by decide) (by simp) .start ⟨1, 6, 5⟩
  · exact hcalls inner (by decide) .start
  · exact (arithmetic_exact.2 "-7" "2").2 hseven

end Retag.Library

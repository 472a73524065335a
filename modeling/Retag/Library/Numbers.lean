import Retag.Library.Conventions
import Retag.Text.Integer
import Retag.Text.Search

/-!
# Numbers, logic and comparisons

Arithmetic works from the left on integers of sixty-four bits. It has no value when an argument is
no such integer or a result does not fit.
-/

namespace Retag.Library

open Script Retag.Text

namespace Numbers

def add (a b : Int) : Option Int := checkInteger (a + b)

def sub (a b : Int) : Option Int := checkInteger (a - b)

def mul (a b : Int) : Option Int := checkInteger (a * b)

/-- The quotient rounded toward zero. -/
def div (a b : Int) : Option Int := if b = 0 then none else checkInteger (a.tdiv b)

/-- The remainder, with the sign of `a`; there is none without a quotient. -/
def mod (a b : Int) : Option Int := (div a b).map fun _ => a.tmod b

/-- The result of an operation over all arguments from the left. -/
def foldAll? (op : Int → Int → Option Int) (args : List String) : Option Int :=
  match args with
  | [] => none
  | first :: rest => do
    let start ← readInteger? first
    rest.foldlM (fun n arg => (readInteger? arg).bind (op n)) start

def arithmetic (op : Int → Int → Option Int) (args : List String) : String :=
  match foldAll? op args with
  | some n => toString n
  | none => ""

/-- Compares two integers; other texts satisfy no comparison. -/
def compare (test : Int → Int → Bool) (a b : String) : String :=
  match readInteger? a, readInteger? b with
  | some a, some b => truth (test a b)
  | _, _ => ""

end Numbers

/-- Numbers, logic and comparisons. -/
def numberFunctions : List Function := [
  ⟨"add", ofAll (Numbers.arithmetic Numbers.add), .atLeast 2,
    "`$add(x,y,...)`\n\n"
      ++ "Adds `y` to `x`. Further arguments are added in turn."⟩,
  ⟨"sub", ofAll (Numbers.arithmetic Numbers.sub), .atLeast 2,
    "`$sub(x,y,...)`\n\n"
      ++ "Subtracts `y` from `x`. Further arguments are subtracted in turn."⟩,
  ⟨"mul", ofAll (Numbers.arithmetic Numbers.mul), .atLeast 2,
    "`$mul(x,y,...)`\n\n"
      ++ "Multiplies `x` by `y`. Further arguments multiply in turn."⟩,
  ⟨"div", ofAll (Numbers.arithmetic Numbers.div), .atLeast 2,
    "`$div(x,y,...)`\n\n"
      ++ "Divides `x` by `y`, rounding toward zero. Division by zero returns empty."⟩,
  ⟨"mod", ofAll (Numbers.arithmetic Numbers.mod), .atLeast 2,
    "`$mod(x,y,...)`\n\n"
      ++ "Returns the remainder of `x` divided by `y`; the sign follows `x`."⟩,
  ⟨"and", ofAll fun args => truth (args.all (!·.isEmpty)), .atLeast 2,
    "`$and(x,y,...)`\n\n"
      ++ "Returns true if all arguments are not empty."⟩,
  ⟨"or", ofAll fun args => truth (args.any (!·.isEmpty)), .atLeast 2,
    "`$or(x,y,...)`\n\n"
      ++ "Returns true if any argument is not empty."⟩,
  ⟨"not", ofOne fun x => truth x.isEmpty, .exactly 1,
    "`$not(x)`\n\n"
      ++ "Returns true if `x` is empty."⟩,
  ⟨"eq", ofTwo fun x y => truth (x == y), .exactly 2,
    "`$eq(x,y)`\n\n"
      ++ "Returns true if `x` equals `y`."⟩,
  ⟨"ne", ofTwo fun x y => truth (x != y), .exactly 2,
    "`$ne(x,y)`\n\n"
      ++ "Returns true if `x` does not equal `y`."⟩,
  ⟨"lt", ofTwo (Numbers.compare fun x y => decide (x < y)), .exactly 2,
    "`$lt(x,y)`\n\n"
      ++ "Returns true if the integer `x` is less than `y`."⟩,
  ⟨"lte", ofTwo (Numbers.compare fun x y => decide (x ≤ y)), .exactly 2,
    "`$lte(x,y)`\n\n"
      ++ "Returns true if the integer `x` is less than or equal to `y`."⟩,
  ⟨"gt", ofTwo (Numbers.compare fun x y => decide (y < x)), .exactly 2,
    "`$gt(x,y)`\n\n"
      ++ "Returns true if the integer `x` is greater than `y`."⟩,
  ⟨"gte", ofTwo (Numbers.compare fun x y => decide (y ≤ x)), .exactly 2,
    "`$gte(x,y)`\n\n"
      ++ "Returns true if the integer `x` is greater than or equal to `y`."⟩,
  ⟨"eq_any", ofFirst fun x others => truth (others.contains x), .atLeast 1,
    "`$eq_any(x,a1,a2,...)`\n\n"
      ++ "Returns true if `x` equals any of the other arguments."⟩,
  ⟨"ne_all", ofFirst fun x others => truth (!others.contains x), .atLeast 1,
    "`$ne_all(x,a1,a2,...)`\n\n"
      ++ "Returns true if `x` equals none of the other arguments."⟩,
  ⟨"eq_all", ofFirst fun x others => truth (others.all (· == x)), .atLeast 1,
    "`$eq_all(x,a1,a2,...)`\n\n"
      ++ "Returns true if `x` equals all of the other arguments."⟩,
  ⟨"ne_any", ofFirst fun x others => truth (!others.all (· == x)), .atLeast 1,
    "`$ne_any(x,a1,a2,...)`\n\n"
      ++ "Returns true if `x` differs from at least one of the other arguments."⟩,
  ⟨"in", ofTwo fun x y => truth (contains x y), .exactly 2,
    "`$in(x,y)`\n\n"
      ++ "Returns true if `x` contains `y`."⟩]

end Retag.Library

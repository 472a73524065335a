import Retag.Proofs.Running.Surroundings

/-!
# Calls as computations

A function that is handed values has its arguments evaluated in order, before its call counts as
being executed; one that is handed arguments evaluates them itself. Where a function of values only
computes, its call makes no difference, and what it gives is what it makes of the values.
-/

namespace Retag.Library

open Script

section Calls

variable {function doc : String} {arity : Arity} {args : List Tree} {a b c : Tree}

theorem length_argumentsOf (args : List Tree) :
    (argumentsOf standard args).length = args.length := by
  rw [argumentsOf_eq, List.length_map]

theorem evalTree_lone_call (function : String) (args : List Tree) (position : Position) :
    evalTree standard [.call function args position]
      = standard.call function (argumentsOf standard args) position := by
  rw [evalTree, Node.eval, evalTree]
  simp only [pure_bind, String.append_empty, bind_pure]

/-- The arguments are evaluated outside the call, and the function runs in it. -/
theorem evalTree_eager {run : List String → Eval String}
    (hfind : standard.find? function = some ⟨function, .eager run, arity, doc⟩)
    (hn : arity.accepts args.length = true) (position : Position) :
    evalTree standard [.call function args position] = (do
      let values ← Argument.valuesOf (argumentsOf standard args)
      Eval.inFrame ⟨function, position⟩ (run values)) := by
  rw [evalTree_lone_call, Registry.call, hfind]
  dsimp only
  rw [length_argumentsOf, if_pos hn]

/-- A function that is handed its arguments runs in its call from the start. -/
theorem evalTree_lazy {run : List Argument → Eval String}
    (hfind : standard.find? function = some ⟨function, .lazy run, arity, doc⟩)
    (hn : arity.accepts args.length = true) (position : Position) :
    evalTree standard [.call function args position]
      = Eval.inFrame ⟨function, position⟩ (run (argumentsOf standard args)) := by
  rw [evalTree_lone_call, Registry.call, hfind]
  dsimp only
  rw [length_argumentsOf, if_pos hn]

theorem inFrame_pure {α : Type} (frame : Frame) (value : α) :
    Eval.inFrame frame (pure value) = pure value := (Eval.SeesOnly.pure value).inFrame_eq frame

theorem evalTree_ofAll {f : List String → String}
    (hfind : standard.find? function = some ⟨function, ofAll f, arity, doc⟩)
    (hn : arity.accepts args.length = true) (position : Position) :
    evalTree standard [.call function args position] = (do
      return f (← Argument.valuesOf (argumentsOf standard args))) := by
  rw [evalTree_eager hfind hn]
  exact bind_congr fun values => inFrame_pure _ (f values)

/-- A function of one value, by what it does with it inside its call. -/
theorem evalTree_oneValue {run : List String → Eval String} {f : String → Eval String}
    (hfind : standard.find? function = some ⟨function, .eager run, arity, doc⟩)
    (hn : arity.accepts [a].length = true)
    (hrun : ∀ value frame, Eval.inFrame frame (run [value]) = f value) (position : Position) :
    evalTree standard [.call function [a] position] = (do f (← evalTree standard a)) := by
  rw [evalTree_eager hfind hn]
  simp only [argumentsOf, Argument.valuesOf, bind_assoc, pure_bind]
  exact bind_congr fun value => hrun value _

theorem evalTree_twoValues {run : List String → Eval String} {f : String → String → Eval String}
    (hfind : standard.find? function = some ⟨function, .eager run, arity, doc⟩)
    (hn : arity.accepts [a, b].length = true)
    (hrun : ∀ first second frame, Eval.inFrame frame (run [first, second]) = f first second)
    (position : Position) :
    evalTree standard [.call function [a, b] position] = (do
      let first ← evalTree standard a
      let second ← evalTree standard b
      f first second) := by
  rw [evalTree_eager hfind hn]
  simp only [argumentsOf, Argument.valuesOf, bind_assoc, pure_bind]
  exact bind_congr fun first => bind_congr fun second => hrun first second _

theorem evalTree_threeValues {run : List String → Eval String}
    {f : String → String → String → Eval String}
    (hfind : standard.find? function = some ⟨function, .eager run, arity, doc⟩)
    (hn : arity.accepts [a, b, c].length = true)
    (hrun : ∀ first second third frame,
      Eval.inFrame frame (run [first, second, third]) = f first second third)
    (position : Position) :
    evalTree standard [.call function [a, b, c] position] = (do
      let first ← evalTree standard a
      let second ← evalTree standard b
      let third ← evalTree standard c
      f first second third) := by
  rw [evalTree_eager hfind hn]
  simp only [argumentsOf, Argument.valuesOf, bind_assoc, pure_bind]
  exact bind_congr fun first => bind_congr fun second => bind_congr fun third =>
    hrun first second third _

theorem evalTree_ofOne {f : String → String}
    (hfind : standard.find? function = some ⟨function, ofOne f, .exactly 1, doc⟩)
    (position : Position) :
    evalTree standard [.call function [a] position] = (do
      return f (← evalTree standard a)) :=
  evalTree_oneValue hfind rfl (fun value frame => inFrame_pure frame (f value)) position

/-- A function that only computes, and for which the first argument is needed. -/
theorem evalTree_first {run : List String → Eval String} {f : String → List String → String}
    (hfind : standard.find? function = some ⟨function, .eager run, arity, doc⟩)
    (hn : arity.accepts (a :: args).length = true)
    (hrun : ∀ first rest, run (first :: rest) = pure (f first rest)) (position : Position) :
    evalTree standard [.call function (a :: args) position] = (do
      let first ← evalTree standard a
      let rest ← Argument.valuesOf (argumentsOf standard args)
      return f first rest) := by
  rw [evalTree_eager hfind hn]
  simp only [argumentsOf, Argument.valuesOf, bind_assoc, pure_bind, hrun]
  exact bind_congr fun first => bind_congr fun rest => inFrame_pure _ (f first rest)

theorem evalTree_ofFirst {f : String → List String → String}
    (hfind : standard.find? function = some ⟨function, ofFirst f, .atLeast 1, doc⟩)
    (position : Position) :
    evalTree standard [.call function (a :: args) position] = (do
      let first ← evalTree standard a
      let rest ← Argument.valuesOf (argumentsOf standard args)
      return f first rest) := by
  have haccepts : (Arity.atLeast 1).accepts (a :: args).length = true := by
    simp [Arity.accepts, Arity.atLeast]
  exact evalTree_first hfind haccepts (fun _ _ => rfl) position

theorem evalTree_ofTwo {f : String → String → String}
    (hfind : standard.find? function = some ⟨function, ofTwo f, .exactly 2, doc⟩)
    (position : Position) :
    evalTree standard [.call function [a, b] position] = (do
      let first ← evalTree standard a
      let second ← evalTree standard b
      return f first second) :=
  evalTree_twoValues hfind rfl (fun first second frame => inFrame_pure frame (f first second))
    position

theorem evalTree_ofThree {f : String → String → String → String}
    (hfind : standard.find? function = some ⟨function, ofThree f, .exactly 3, doc⟩)
    (position : Position) :
    evalTree standard [.call function [a, b, c] position] = (do
      let first ← evalTree standard a
      let second ← evalTree standard b
      let third ← evalTree standard c
      return f first second third) :=
  evalTree_threeValues hfind rfl
    (fun first second third frame => inFrame_pure frame (f first second third)) position

end Calls

/-! ## Arguments one after the other -/

theorem valuesOf_append (front back : List Argument) :
    Argument.valuesOf (front ++ back) = (do
      let values ← Argument.valuesOf front
      return values ++ (← Argument.valuesOf back)) := by
  induction front with
  | nil => simp [Argument.valuesOf]
  | cons a front ih =>
    rw [List.cons_append, Argument.valuesOf, ih, Argument.valuesOf]
    simp only [bind_assoc, pure_bind, List.cons_append]

end Retag.Library

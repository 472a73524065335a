import Retag.Script.Tree

/-!
# Trees without their places

Induction over trees, the calls of a tree, and the tree with the places of its calls left out or
changed.
-/

namespace Retag.Script

/-- Induction over the nodes of a tree and over the arguments of its calls. -/
theorem Tree.induct {P : Tree → Prop} (nil : P [])
    (text : ∀ content rest, P rest → P (.text content :: rest))
    (tag : ∀ name rest, P rest → P (.tag name :: rest))
    (call : ∀ name args position rest, (∀ a ∈ args, P a) → P rest →
      P (.call name args position :: rest)) (t : Tree) : P t := by
  refine @Node.rec_2 (fun n => ∀ rest, P rest → P (n :: rest)) (fun ts => ∀ a ∈ ts, P a) P
    text tag (fun name args position ih rest => call name args position rest ih) ?_ ?_ nil ?_ t
  · simp
  · intro t ts ht hts a ha
    rcases List.mem_cons.mp ha with rfl | ha
    · exact ht
    · exact hts a ha
  · intro n rest hn hrest
    exact hn rest hrest

mutual

def Node.unplaced : Node → Node
  | .text content => .text content
  | .tag name => .tag name
  | .call name args _ => .call name (unplacedTrees args) .start

/-- The tree with every call at the start. Two trees that agree in this are equal up to the places
of their calls. -/
def unplaced : Tree → Tree
  | [] => []
  | n :: rest => n.unplaced :: unplaced rest

def unplacedTrees : List Tree → List Tree
  | [] => []
  | t :: rest => unplaced t :: unplacedTrees rest

end

mutual

/-- The node with the place of every call in it changed by `f`. -/
def Node.moved (f : Position → Position) : Node → Node
  | .text content => .text content
  | .tag name => .tag name
  | .call name args position => .call name (movedTrees f args) (f position)

def moved (f : Position → Position) : Tree → Tree
  | [] => []
  | n :: rest => n.moved f :: moved f rest

def movedTrees (f : Position → Position) : List Tree → List Tree
  | [] => []
  | t :: rest => moved f t :: movedTrees f rest

end

theorem movedTrees_eq_map (f : Position → Position) (ts : List Tree) :
    movedTrees f ts = ts.map (moved f) := by
  induction ts with
  | nil => rfl
  | cons t rest ih => rw [movedTrees, ih, List.map_cons]

mutual

/-- The calls of a node with their places, those in arguments included. -/
def Node.calls : Node → List (String × Position)
  | .text _ => []
  | .tag _ => []
  | .call name args position => (name, position) :: callsOfAll args

def callsOf : Tree → List (String × Position)
  | [] => []
  | n :: rest => n.calls ++ callsOf rest

def callsOfAll : List Tree → List (String × Position)
  | [] => []
  | t :: rest => callsOf t ++ callsOfAll rest

end

theorem mem_callsOfAll {call : String × Position} {ts : List Tree} :
    call ∈ callsOfAll ts ↔ ∃ t ∈ ts, call ∈ callsOf t := by
  induction ts with
  | nil => simp [callsOfAll]
  | cons t rest ih => simp [callsOfAll, ih]

/-- Induction over a tree whose calls all have a property. -/
theorem Tree.inductCalls {Q : String × Position → Prop} {P : Tree → Prop} (nil : P [])
    (text : ∀ content rest, P rest → P (.text content :: rest))
    (tag : ∀ name rest, P rest → P (.tag name :: rest))
    (call : ∀ name args position rest, Q (name, position) → (∀ a ∈ args, P a) → P rest →
      P (.call name args position :: rest)) (t : Tree) (h : ∀ call ∈ callsOf t, Q call) : P t := by
  induction t using Tree.induct with
  | nil => exact nil
  | text content rest ih =>
    exact text content rest (ih fun c hc => h c (by simpa [callsOf, Node.calls] using hc))
  | tag name rest ih =>
    exact tag name rest (ih fun c hc => h c (by simpa [callsOf, Node.calls] using hc))
  | call name args position rest iha ih =>
    simp only [callsOf, Node.calls, List.cons_append, List.mem_cons, List.mem_append,
      mem_callsOfAll] at h
    refine call name args position rest (h _ (.inl rfl)) ?_ (ih fun c hc => h c (.inr (.inr hc)))
    exact fun a ha => iha a ha fun c hc => h c (.inr (.inl ⟨a, ha, hc⟩))

end Retag.Script

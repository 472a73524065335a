import Retag.Proofs.Grammar.Recovery
import Retag.Proofs.Grammar.Trees

/-!
# Printing

A tree that a script can stand for has a printed form, with every special character of text behind a
backslash. Printing goes through the grammar: the printed form has a derivation with the printed
tree, so reading it back needs no second look at the reader. Only the places of calls change.
-/

namespace Retag.Script.Grammar

variable {arityOf : String → Option Arity}

/-! ## Canonical trees -/

def nodesStartText : Tree → Bool
  | .text _ :: _ => true
  | _ => false

/-- The trees that scripts stand for, with `depth` calls around them: text is not empty and not next
to text, names and argument counts are those of the functions there are, no call has one blank
argument, and calls are at most `maxNesting` deep. -/
inductive Canonical (arityOf : String → Option Arity) : Nat → Tree → Prop
  | nil {depth : Nat} : Canonical arityOf depth []
  | text {depth : Nat} {content : String} {rest : Tree} :
      content ≠ "" → nodesStartText rest = false → Canonical arityOf depth rest →
      Canonical arityOf depth (.text content :: rest)
  | tag {depth : Nat} {name : String} {rest : Tree} :
      IsTagName name.toList → Canonical arityOf depth rest →
      Canonical arityOf depth (.tag name :: rest)
  | call {depth : Nat} {name : String} {arity : Arity} {args : List Tree} {position : Position}
      {rest : Tree} :
      IsFunctionName name.toList → arityOf name = some arity → depth < maxNesting →
      arity.accepts args.length = true → args ≠ [[]] →
      (∀ a ∈ args, Canonical arityOf (depth + 1) a) → Canonical arityOf depth rest →
      Canonical arityOf depth (.call name args position :: rest)

theorem nodesStartText_treeAt (ps : List Piece) (p : Position) :
    nodesStartText (treeAt ps p) = startsText ps := by
  cases ps with
  | nil => rfl
  | cons x rest => cases x <;> rfl

theorem mem_treesAt {more : List (List Piece)} {p : Position} {t : Tree}
    (h : t ∈ treesAt more p) : ∃ a ∈ more, ∃ q, t = treeAt a q := by
  induction more generalizing p with
  | nil => cases h
  | cons a rest ih =>
    rcases List.mem_cons.mp h with rfl | h
    · exact ⟨a, List.mem_cons_self .., _, rfl⟩
    · obtain ⟨b, hb, q, rfl⟩ := ih h
      exact ⟨b, List.mem_cons_of_mem _ hb, q, rfl⟩

theorem Derives.canonical {depth : Nat} {l l' : Level} {ps : List Piece}
    (h : Derives arityOf depth l ps l') (p : Position) :
    Canonical arityOf depth (treeAt ps p) := by
  induction h generalizing p with
  | nil => exact .nil
  | @text _ _ _ _ glyphs rest hne _ ht _ ih =>
    refine .text ?_ (by rw [nodesStartText_treeAt, ht]) (ih _)
    intro he
    have hv := congrArg String.toList he
    simp at hv
    exact hne hv
  | tag hn _ ih => exact .tag hn (ih _)
  | @call depth l l₂ name arity first rest more hn ha hd _ _ hc _ ihf ihm ih =>
    refine .call hn ha hd (by rwa [arguments_length]) ?_ ?_ (ih _)
    · intro he
      split at he
      · cases he
      · next hlone =>
        apply hlone
        cases first <;> cases more <;> simp_all [treeAt, treesAt]
    · intro t ht
      split at ht
      · cases ht
      · rcases List.mem_cons.mp ht with rfl | ht
        · exact ihf _
        · obtain ⟨a, hm, q, rfl⟩ := mem_treesAt ht
          exact ihm a hm q

/-- Reading yields canonical trees only. -/
theorem canonical_of_parse {source : String} {tree : Tree} (h : parse arityOf source = .ok tree) :
    Canonical arityOf 0 tree := by
  obtain ⟨d, -, rfl⟩ := derivation_of_parse h
  exact d.derives.canonical .start

/-! ## The printed form -/

def printedChar (c : Char) : List Char := if c ∈ specials then ['\\', c] else [c]

mutual

def printedNode : Node → List Char
  | .text content => content.toList.flatMap printedChar
  | .tag name => '%' :: (name.toList ++ ['%'])
  | .call name args _ => '$' :: (name.toList ++ '(' :: (printedArguments args ++ [')']))

def printedTree : Tree → List Char
  | [] => []
  | n :: rest => printedNode n ++ printedTree rest

/-- Arguments with commas between them. -/
def printedArguments : List Tree → List Char
  | [] => []
  | a :: rest => printedTree a ++ printedFurther rest

def printedFurther : List Tree → List Char
  | [] => []
  | a :: rest => ',' :: (printedTree a ++ printedFurther rest)

end

def print (t : Tree) : String := String.ofList (printedTree t)

/-! ## The derivation of the printed form -/

def glyphOf (c : Char) : Glyph := if c ∈ specials then .special c else .plain c

theorem glyphOf_value (c : Char) : (glyphOf c).value = c := by
  unfold glyphOf
  split <;> rfl

theorem glyphOf_written (c : Char) : (glyphOf c).written = printedChar c := by
  unfold glyphOf printedChar
  split <;> rfl

theorem glyphOf_reads (c : Char) (l : Level) : (glyphOf c).Reads l l := by
  have top_special : ['\\', '$', '%', '('] ⊆ specials := by simp [specials]
  unfold glyphOf
  split
  · next h => exact .special h
  · next h =>
    cases l with
    | none => exact .top fun hm => h (top_special hm)
    | some n => exact .inside h

theorem glyphsOf_run (cs : List Char) (l : Level) : Glyph.Run l (cs.map glyphOf) l := by
  induction cs with
  | nil => exact .nil
  | cons c cs ih => exact .cons (glyphOf_reads c l) ih

mutual

def pieceOf : Node → Piece
  | .text content => .text (content.toList.map glyphOf)
  | .tag name => .tag name
  | .call name args _ =>
    match piecesOfAll args with
    | [] => .call name [] []
    | first :: more => .call name first more

def piecesOf : Tree → List Piece
  | [] => []
  | n :: rest => pieceOf n :: piecesOf rest

def piecesOfAll : List Tree → List (List Piece)
  | [] => []
  | t :: rest => piecesOf t :: piecesOfAll rest

end

theorem pieceOf_call_cons (name : String) (a : Tree) (rest : List Tree) (p : Position) :
    pieceOf (.call name (a :: rest) p) = .call name (piecesOf a) (piecesOfAll rest) := rfl

theorem piecesOfAll_eq_map (ts : List Tree) : piecesOfAll ts = ts.map piecesOf := by
  induction ts with
  | nil => rfl
  | cons t rest ih => rw [piecesOfAll, ih, List.map_cons]

theorem startsText_piecesOf (t : Tree) : startsText (piecesOf t) = nodesStartText t := by
  cases t with
  | nil => rfl
  | cons n rest =>
    cases n with
    | call name args p => cases args <;> rfl
    | _ => rfl

/-- The characters of the derivation are the printed ones. -/
theorem writtenAll_piecesOf (t : Tree) : writtenAll (piecesOf t) = printedTree t := by
  have more (ts : List Tree) (ih : ∀ a ∈ ts, writtenAll (piecesOf a) = printedTree a) :
      writtenMore (piecesOfAll ts) = printedFurther ts := by
    induction ts with
    | nil => rfl
    | cons a rest ihr =>
      rw [piecesOfAll, writtenMore, printedFurther, ih a (List.mem_cons_self ..),
        ihr fun b hb => ih b (List.mem_cons_of_mem _ hb)]
  induction t using Tree.induct with
  | nil => rfl
  | text content rest ih =>
    have hc : (content.toList.map glyphOf).flatMap Glyph.written
        = content.toList.flatMap printedChar := by
      rw [List.flatMap_map]
      simp only [glyphOf_written]
    rw [piecesOf, writtenAll, printedTree, ih, pieceOf, Piece.written, hc, printedNode]
  | tag name rest ih =>
    rw [piecesOf, writtenAll, printedTree, ih, pieceOf, Piece.written, printedNode]
  | call name args p rest iha ih =>
    rw [piecesOf, writtenAll, printedTree, ih, printedNode]
    cases args with
    | nil => rfl
    | cons a args =>
      rw [pieceOf_call_cons, Piece.written, iha a (List.mem_cons_self ..),
        more args fun b hb => iha b (List.mem_cons_of_mem _ hb), printedArguments,
        List.append_assoc]

theorem argumentCount_piecesOfAll (a : Tree) (rest : List Tree) (h : a :: rest ≠ [[]]) :
    argumentCount (piecesOf a) (piecesOfAll rest) = (a :: rest).length := by
  have hlone : ((piecesOf a).isEmpty && (piecesOfAll rest).isEmpty) = false := by
    cases a <;> cases rest <;> simp_all [piecesOf, piecesOfAll]
  rw [argumentCount, hlone, piecesOfAll_eq_map]
  simp

/-- The pieces of a canonical tree follow the rules at any level: they open and close no group. -/
theorem Canonical.derives {depth : Nat} {t : Tree} (h : Canonical arityOf depth t) (l : Level) :
    Derives arityOf depth l (piecesOf t) l := by
  induction h generalizing l with
  | nil => exact .nil
  | @text depth content rest hne ht _ ih =>
    refine .text ?_ (glyphsOf_run content.toList l) (by rw [startsText_piecesOf, ht]) (ih l)
    simpa using hne
  | tag hn _ ih => exact .tag hn (ih l)
  | @call depth name arity args p rest hn ha hd hc hlone _ _ iha ih =>
    cases args with
    | nil => exact .call hn ha hd .nil (by simp) hc (ih l)
    | cons a args =>
      rw [piecesOf, pieceOf_call_cons]
      refine .call hn ha hd (iha a (List.mem_cons_self ..) _) ?_ ?_ (ih l)
      · rw [piecesOfAll_eq_map]
        intro b hb
        obtain ⟨t, ht, rfl⟩ := List.mem_map.mp hb
        exact iha t (List.mem_cons_of_mem _ ht) _
      · rwa [argumentCount_piecesOfAll a args hlone]

/-- The tree of the derivation is the printed one, but for the places of calls. -/
theorem Canonical.unplaced_treeAt {depth : Nat} {t : Tree} (h : Canonical arityOf depth t)
    (p : Position) : unplaced (treeAt (piecesOf t) p) = unplaced t := by
  have more (ts : List Tree) (q : Position)
      (ih : ∀ a ∈ ts, ∀ p, unplaced (treeAt (piecesOf a) p) = unplaced a) :
      unplacedTrees (treesAt (piecesOfAll ts) q) = unplacedTrees ts := by
    induction ts generalizing q with
    | nil => rfl
    | cons a rest ihr =>
      rw [piecesOfAll, treesAt, unplacedTrees, unplacedTrees, ih a (List.mem_cons_self ..),
        ihr _ fun b hb => ih b (List.mem_cons_of_mem _ hb)]
  induction h generalizing p with
  | nil => rfl
  | @text depth content rest _ _ _ ih =>
    have hc : (content.toList.map glyphOf).map Glyph.value = content.toList := by
      simp [Function.comp_def, glyphOf_value]
    rw [piecesOf, treeAt, unplaced, unplaced, ih, pieceOf, Piece.nodeAt, hc, String.ofList_toList]
  | tag _ _ ih => rw [piecesOf, treeAt, unplaced, unplaced, ih, pieceOf, Piece.nodeAt]
  | @call depth name arity args q rest _ _ _ _ hlone _ _ iha ih =>
    rw [piecesOf, treeAt, unplaced, unplaced, ih]
    cases args with
    | nil => rfl
    | cons a args =>
      have hne : ((piecesOf a).isEmpty && (piecesOfAll args).isEmpty) = false := by
        cases a <;> cases args <;> simp_all [piecesOf, piecesOfAll]
      rw [pieceOf_call_cons, Piece.nodeAt, hne]
      simp only [Bool.false_eq_true, if_false, Node.unplaced, unplacedTrees]
      rw [iha a (List.mem_cons_self ..), more args _ fun b hb => iha b (List.mem_cons_of_mem _ hb)]

theorem parse_print {t : Tree} (h : Canonical arityOf 0 t) :
    ∃ t', parse arityOf (print t) = .ok t' ∧ unplaced t' = unplaced t := by
  have hs : (Derivation.mk (piecesOf t) (h.derives none)).source = print t := by
    rw [Derivation.source, writtenAll_piecesOf, print]
  exact ⟨_, hs ▸ parse_source ⟨piecesOf t, h.derives none⟩, h.unplaced_treeAt .start⟩

/-- Printing and reading undo each other up to the places of calls: canonical trees are read back
from their printed form, and whatever is read from any source is canonical, so it is too. -/
theorem print_parse_inverse (arityOf : String → Option Arity) :
    (∀ t : Tree, Canonical arityOf 0 t →
      ∃ t', parse arityOf (print t) = .ok t' ∧ unplaced t' = unplaced t) ∧
    (∀ (source : String) (t : Tree), parse arityOf source = .ok t →
      Canonical arityOf 0 t ∧
        ∃ t', parse arityOf (print t) = .ok t' ∧ unplaced t' = unplaced t) := by
  refine ⟨fun t h => parse_print h, fun source t h => ?_⟩
  have hc := canonical_of_parse h
  exact ⟨hc, parse_print hc⟩

/-- A comma and a bracket that are text, after an argument that is empty but not alone. -/
theorem print_parse_inverse_call :
    let arityOf : String → Option Arity := fun name =>
      if name = "f" then some (.between 0 2) else none
    let tree : Tree := [.text "a,", .call "f" [[], [.text "("]] ⟨1, 4, 3⟩]
    (∃ t', parse arityOf "a\\,$f(,\\()" = .ok t' ∧ unplaced t' = unplaced tree) ∧
      Canonical arityOf 0 tree := by
  intro arityOf tree
  have hargs : ∀ a ∈ [[], [Node.text "("]], Canonical arityOf 1 a := by
    simp only [List.forall_mem_cons]
    exact ⟨.nil, .text (by decide) rfl .nil, nofun⟩
  have hcanonical : Canonical arityOf 0 tree :=
    .text (by decide) rfl
      (.call (by decide) rfl (by decide) (by decide) (by simp) hargs .nil)
  have hparse : parse arityOf "a\\,$f(,\\()" = .ok tree := rfl
  exact ⟨(print_parse_inverse arityOf).1 tree hcanonical,
    ((print_parse_inverse arityOf).2 _ tree hparse).1⟩

end Retag.Script.Grammar

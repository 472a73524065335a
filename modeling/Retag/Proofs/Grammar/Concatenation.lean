import Retag.Proofs.Grammar.Places

/-!
# Scripts one behind the other

Behind a script that can be read, any other script is read as it is read alone, with its places
moved by the end of the first. If the second can be read, the pieces of the two make a derivation of
the whole. If not, two readers run side by side: what has been read before the second script only
matters to the tree, and no error says anything of the tree.
-/

namespace Retag.Script

/-- The place `p` of a script that stands behind a text ending at `e`: the first line of the script
goes on with the last line of the text. -/
def Position.behind (e p : Position) : Position :=
  ⟨e.line + (p.line - 1), if p.line = 1 then e.column + (p.column - 1) else p.column,
    e.offset + p.offset⟩

def ParseError.behind (e : Position) (error : ParseError) : ParseError :=
  ⟨error.fault, e.behind error.position⟩

/-- A text in front of a tree, in one with the text that the tree starts with. -/
def prependText (x : String) : Tree → Tree
  | .text y :: rest => .text (x ++ y) :: rest
  | t => .text x :: t

/-- Two trees one behind the other. A text that ends the first and one that starts the second are
one text. -/
def joined : Tree → Tree → Tree
  | [], t => t
  | [.text x], t => prependText x t
  | n :: rest, t => n :: joined rest t

namespace Grammar

open Retag.Script.Parser

/-! ## Places behind a text -/

theorem behind_after {p : Position} (hl : 1 ≤ p.line) (hc : 1 ≤ p.column) (e : Position)
    (c : Char) : e.behind (p.after c) = (e.behind p).after c := by
  unfold Position.behind Position.after
  by_cases hn : c = '\n'
  · simp only [hn, if_true]
    rw [if_neg (by omega)]
    congr 1
    omega
  · simp only [hn, if_false]
    by_cases h1 : p.line = 1
    · simp only [h1, if_true]
      congr 1
      omega
    · simp only [h1, if_false]
      rfl

theorem behind_afterAll (e : Position) (cs : List Char) :
    e.behind (Position.start.afterAll cs) = e.afterAll cs := by
  induction cs using List.reverseRecOn with
  | nil => rfl
  | append_singleton cs c ih =>
    have hl : 1 ≤ (Position.start.afterAll cs).line := by
      rw [line_start]
      exact Nat.le_add_right 1 _
    have hc : 1 ≤ (Position.start.afterAll cs).column := by
      rw [column_start]
      exact Nat.le_add_right 1 _
    rw [afterAll_concat, afterAll_concat, behind_after hl hc, ih]

/-! ## Pieces one behind the other -/

variable {arityOf : String → Option Arity}

def prependGlyphs (gs : List Glyph) : List Piece → List Piece
  | .text hs :: rest => .text (gs ++ hs) :: rest
  | ps => .text gs :: ps

def joinedPieces : List Piece → List Piece → List Piece
  | [], qs => qs
  | [.text gs], qs => prependGlyphs gs qs
  | x :: rest, qs => x :: joinedPieces rest qs

theorem joinedPieces_text_cons (gs : List Glyph) (x : Piece) (rest qs : List Piece) :
    joinedPieces (.text gs :: x :: rest) qs = .text gs :: joinedPieces (x :: rest) qs := rfl

theorem writtenAll_prependGlyphs (gs : List Glyph) (qs : List Piece) :
    writtenAll (prependGlyphs gs qs) = gs.flatMap Glyph.written ++ writtenAll qs := by
  unfold prependGlyphs
  split <;> simp [writtenAll, Piece.written]

theorem writtenAll_joinedPieces (ps qs : List Piece) :
    writtenAll (joinedPieces ps qs) = writtenAll ps ++ writtenAll qs := by
  fun_induction joinedPieces ps qs with
  | case1 => rfl
  | case2 gs qs =>
    rw [writtenAll_prependGlyphs, writtenAll, writtenAll, List.append_nil, Piece.written]
  | case3 x rest qs _ ih => rw [writtenAll, writtenAll, ih, List.append_assoc]

theorem treeAt_prependGlyphs (gs : List Glyph) (qs : List Piece) (p : Position) :
    treeAt (prependGlyphs gs qs) p
      = prependText (String.ofList (gs.map Glyph.value))
        (treeAt qs (p.afterAll (gs.flatMap Glyph.written))) := by
  unfold prependGlyphs
  split
  · simp [treeAt, prependText, Piece.nodeAt, Piece.written, afterAll_append]
  · next hq =>
    rcases qs with _ | ⟨_ | _ | _, rest⟩
    · rfl
    · exact absurd rfl (hq _ _)
    · rfl
    · rfl

theorem treeAt_joinedPieces (ps qs : List Piece) (p : Position) :
    treeAt (joinedPieces ps qs) p
      = joined (treeAt ps p) (treeAt qs (p.afterAll (writtenAll ps))) := by
  fun_induction joinedPieces ps qs generalizing p with
  | case1 => rfl
  | case2 gs qs =>
    have hwritten : writtenAll [.text gs] = gs.flatMap Glyph.written := by
      rw [writtenAll, writtenAll, List.append_nil, Piece.written]
    rw [treeAt_prependGlyphs, hwritten]
    rfl
  | case3 x rest qs hne ih =>
    have hcons (t : Tree) : joined (x.nodeAt p :: treeAt rest (p.afterAll x.written)) t
        = x.nodeAt p :: joined (treeAt rest (p.afterAll x.written)) t := by
      rcases x with gs | _ | _
      · rcases rest with _ | ⟨y, rest⟩
        · exact absurd rfl (hne gs rfl)
        · rfl
      · rfl
      · rfl
    rw [treeAt, ih, treeAt, hcons, writtenAll, afterAll_append]

/-! ## Trees behind a text -/

theorem moved_treesAt {more : List (List Piece)} {e : Position}
    (ih : ∀ a ∈ more, ∀ cs, treeAt a (e.afterAll cs)
      = moved e.behind (treeAt a (Position.start.afterAll cs))) (cs : List Char) :
    treesAt more (e.afterAll cs)
      = movedTrees e.behind (treesAt more (Position.start.afterAll cs)) := by
  induction more generalizing cs with
  | nil => rfl
  | cons a rest ihr =>
    have ha := ih a (List.mem_cons_self ..) (cs ++ [','])
    have hrest := ihr (fun b hb => ih b (List.mem_cons_of_mem _ hb)) (cs ++ [','] ++ writtenAll a)
    simp only [afterAll_append] at ha hrest
    rw [treesAt, treesAt, movedTrees]
    exact congrArg₂ List.cons ha hrest

/-- The tree of pieces behind a text is their tree alone with its places moved. -/
theorem Derives.treeAt_behind {depth : Nat} {l l' : Level} {ps : List Piece}
    (h : Derives arityOf depth l ps l') (e : Position) (cs : List Char) :
    treeAt ps (e.afterAll cs) = moved e.behind (treeAt ps (Position.start.afterAll cs)) := by
  induction h generalizing cs with
  | nil => rfl
  | @text _ _ _ _ gs _ _ _ _ _ ih =>
    have hrest := ih (cs ++ (Piece.text gs).written)
    rw [afterAll_append, afterAll_append] at hrest
    exact congrArg (List.cons _) hrest
  | @tag _ _ _ name _ _ _ ih =>
    have hrest := ih (cs ++ (Piece.tag name).written)
    rw [afterAll_append, afterAll_append] at hrest
    exact congrArg (List.cons _) hrest
  | @call depth l l₂ name arity first rest more _ _ _ _ _ _ _ ihf ihm ih =>
    have hrest := ih (cs ++ (Piece.call name first more).written)
    rw [afterAll_append, afterAll_append] at hrest
    have hfirst := ihf (cs ++ opening name)
    have hmore := moved_treesAt ihm (cs ++ opening name ++ writtenAll first)
    simp only [afterAll_append] at hfirst hmore
    have hnode : (Piece.call name first more).nodeAt (e.afterAll cs)
        = ((Piece.call name first more).nodeAt (Position.start.afterAll cs)).moved e.behind := by
      rw [Piece.nodeAt, Piece.nodeAt, Node.moved, behind_afterAll]
      congr 1
      split
      · rfl
      · exact congrArg₂ List.cons hfirst hmore
    rw [treeAt, treeAt, moved, hnode, hrest]

theorem Glyph.Run.append {l l₁ l₂ : Level} {gs hs : List Glyph} (hg : Run l gs l₁)
    (hh : Run l₁ hs l₂) : Run l (gs ++ hs) l₂ := by
  induction hg with
  | nil => exact hh
  | cons hr _ ih => exact .cons hr (ih hh)

theorem Derives.prependGlyphs {depth : Nat} {l l₁ l₂ : Level} {gs : List Glyph} {qs : List Piece}
    (hne : gs ≠ []) (hrun : Glyph.Run l gs l₁) (h : Derives arityOf depth l₁ qs l₂) :
    Derives arityOf depth l (prependGlyphs gs qs) l₂ := by
  cases h with
  | nil => exact .text hne hrun rfl .nil
  | text _ hr ht hd => exact .text (by simp [hne]) (hrun.append hr) ht hd
  | tag hn hd => exact .text hne hrun rfl (.tag hn hd)
  | call hn ha hdepth hf hm hc hd => exact .text hne hrun rfl (.call hn ha hdepth hf hm hc hd)

/-- Pieces that go on at the level where others end are derived together with them. -/
theorem Derives.join {depth : Nat} {l l₁ l₂ : Level} {ps qs : List Piece}
    (hp : Derives arityOf depth l ps l₁) (hq : Derives arityOf depth l₁ qs l₂) :
    Derives arityOf depth l (joinedPieces ps qs) l₂ := by
  induction hp with
  | nil => exact hq
  | @text _ _ _ _ gs rest hne hrun ht hd ih =>
    cases rest with
    | nil =>
      cases hd
      exact hq.prependGlyphs hne hrun
    | cons x rest =>
      rw [joinedPieces_text_cons]
      refine .text hne hrun ?_ (ih hq)
      cases x with
      | text => cases ht
      | tag => rfl
      | call => rfl
  | tag hn _ ih => exact .tag hn (ih hq)
  | call hn ha hdepth hf hm hc _ _ _ ih => exact .call hn ha hdepth hf hm hc (ih hq)

/-- The place behind a source. -/
def endOf (source : String) : Position := Position.start.afterAll source.toList

theorem parse_append_ok {a b : String} {s t : Tree} (ha : parse arityOf a = .ok s)
    (hb : parse arityOf b = .ok t) :
    parse arityOf (a ++ b) = .ok (joined s (moved (endOf a).behind t)) := by
  obtain ⟨d, rfl, rfl⟩ := derivation_of_parse ha
  obtain ⟨d', rfl, rfl⟩ := derivation_of_parse hb
  let whole : Derivation arityOf := ⟨joinedPieces d.pieces d'.pieces, d.derives.join d'.derives⟩
  have hsource : whole.source = d.source ++ d'.source := by
    rw [Derivation.source, writtenAll_joinedPieces, String.ofList_append]
    rfl
  have htree : whole.tree = joined d.tree (moved (endOf d.source).behind d'.tree) := by
    have hbehind := d'.derives.treeAt_behind (endOf d.source) []
    rw [Derivation.tree, treeAt_joinedPieces, Derivation.tree, Derivation.tree]
    rw [endOf, Derivation.source, String.toList_ofList] at hbehind ⊢
    exact congrArg (joined _) hbehind
  rw [← hsource, ← htree]
  exact parse_source whole

/-! ## Two readers side by side -/

def modeBehind (e : Position) : Mode → Mode
  | .plain => .plain
  | .escape => .escape
  | .unicode first digits => .unicode (e.behind first) digits
  | .tag name colon => .tag name colon
  | .function name dollar => .function name (e.behind dollar)

/-- Open calls that differ in their places, which are behind `e` in the second list, and in the
trees that have been read. -/
inductive CallsAlike (e : Position) : List OpenCall → List OpenCall → Prop
  | nil : CallsAlike e [] []
  | cons {call call' : OpenCall} {calls calls' : List OpenCall} :
      call'.name = call.name → call'.arity = call.arity →
      call'.position = e.behind call.position → call'.args.length = call.args.length →
      levelAt calls' call'.outer.groups = levelAt calls call.outer.groups →
      CallsAlike e calls calls' → CallsAlike e (call :: calls) (call' :: calls')

/-- The reader `st'` behind `e` is where `st` is. Of the trees only matters whether the argument
that is being read is blank. -/
structure Alike (e : Position) (st st' : State) : Prop where
  mode : st'.mode = modeBehind e st.mode
  calls : CallsAlike e st.calls st'.calls
  level : levelOf st' = levelOf st
  blank : st.calls ≠ [] → st'.draft.tree.isEmpty = st.draft.tree.isEmpty

/-- Two steps go on alike or end in one error. -/
inductive Agree (e : Position) : Except ParseError State → Except ParseError State → Prop
  | ok {st st' : State} : Alike e st st' → Agree e (.ok st) (.ok st')
  | error (error : ParseError) : Agree e (.error error) (.error (error.behind e))

theorem arguments_length_eq (tree : Tree) (args : List Tree) :
    (State.arguments (tree :: args)).length
      = if args.length = 0 ∧ tree.isEmpty = true then 0 else args.length + 1 := by
  unfold State.arguments
  rcases tree with _ | ⟨n, rest⟩
  · rcases args with _ | ⟨a, args⟩ <;> simp
  · simp

theorem tree_endRun (d : Draft) : d.endRun.tree = d.tree := by
  rw [Draft.tree, endRun_of_run_nil (endRun_run d), Draft.tree]

section Step

variable {e : Position} {st st' : State}

/-- The same change of mode on both sides. -/
theorem Alike.withMode (h : Alike e st st') {mode mode' : Mode} (hm : mode' = modeBehind e mode) :
    Alike e { st with mode := mode } { st' with mode := mode' } :=
  ⟨hm, h.calls, h.level, h.blank⟩

/-- The end of a run of text is the end of one on both sides. -/
theorem Alike.endRun (h : Alike e st st') {mode mode' : Mode} (hm : mode' = modeBehind e mode) :
    Alike e { st with draft := st.draft.endRun, mode := mode }
      { st' with draft := st'.draft.endRun, mode := mode' } := by
  refine ⟨hm, h.calls, ?_, fun hc => ?_⟩
  · simp only [levelOf, endRun_groups]
    exact h.level
  · simp only [tree_endRun]
    exact h.blank hc

theorem Alike.add (h : Alike e st st') (n n' : Node) :
    Alike e { st with draft := st.draft.add n, mode := .plain }
      { st' with draft := st'.draft.add n', mode := .plain } := by
  refine ⟨rfl, h.calls, ?_, fun _ => ?_⟩
  · simp only [levelOf, add_groups]
    exact h.level
  · simp only [tree_add_isEmpty]

theorem Alike.pushGroups (h : Alike e st st') (c : Char) {groups groups' : Nat}
    (hg : levelAt st'.calls groups' = levelAt st.calls groups) :
    Alike e { st.push c with draft.groups := groups } { st'.push c with draft.groups := groups' } :=
  ⟨rfl, h.calls, hg, fun _ => (tree_push_isEmpty ..).trans (tree_push_isEmpty ..).symm⟩

theorem Alike.push (h : Alike e st st') (c : Char) : Alike e (st.push c) (st'.push c) :=
  h.pushGroups c h.level

theorem CallsAlike.eq_nil_iff {calls calls' : List OpenCall} (h : CallsAlike e calls calls') :
    calls' = [] ↔ calls = [] := by
  cases h <;> simp

theorem CallsAlike.length {calls calls' : List OpenCall} (h : CallsAlike e calls calls') :
    calls'.length = calls.length := by
  induction h with
  | nil => rfl
  | cons _ _ _ _ _ _ ih => rw [List.length_cons, List.length_cons, ih]

theorem agree_closeCall {call call' : OpenCall} {calls calls' : List OpenCall}
    (hb : st'.draft.tree.isEmpty = st.draft.tree.isEmpty)
    (h : CallsAlike e (call :: calls) (call' :: calls')) :
    Agree e (st.closeCall call calls) (st'.closeCall call' calls') := by
  obtain _ | ⟨hname, harity, hposition, hargs, hlevel, hcalls⟩ := h
  have hcount : (State.arguments (st'.draft.tree :: call'.args)).length
      = (State.arguments (st.draft.tree :: call.args)).length := by
    rw [arguments_length_eq, arguments_length_eq, hargs, hb]
  unfold State.closeCall
  simp only [hcount, harity, hname, hposition]
  split
  · refine .ok ⟨rfl, hcalls, ?_, fun _ => ?_⟩
    · simp only [levelOf, add_groups]
      exact hlevel
    · simp only [tree_add_isEmpty]
  · exact .error _

theorem agree_plain (h : Alike e st st') (hm : st.mode = .plain) {p p' : Position}
    (hp : p' = e.behind p) (c : Char) : Agree e (st.plain p c) (st'.plain p' c) := by
  have hm' : st'.mode = .plain := by rw [h.mode, hm]; rfl
  have hlevel := h.level
  have hblank := h.blank
  have hcalls := h.calls
  unfold State.plain
  split
  · exact .ok (h.withMode rfl)
  split
  · exact .ok (h.endRun (by rw [hp]; rfl))
  split
  · exact .ok (h.endRun rfl)
  rcases hc : st.calls with _ | ⟨call, calls⟩ <;>
    rcases hc' : st'.calls with _ | ⟨call', calls'⟩ <;> rw [hc, hc'] at hcalls
  · dsimp only
    split
    · rw [hp]
      exact .error ⟨.unexpected c, p⟩
    · exact .ok (h.push c)
  · cases hcalls
  · cases hcalls
  · have hgroups : st'.draft.groups = st.draft.groups := by
      rw [levelOf, levelOf, hc, hc'] at hlevel
      exact Option.some.inj hlevel
    have hat (n : Nat) : levelAt st'.calls n = levelAt st.calls n := by rw [hc, hc']; rfl
    have hb := hblank (by rw [hc]; exact List.cons_ne_nil _ _)
    dsimp only
    rw [hgroups]
    split
    · exact .ok (h.pushGroups c (hat _))
    split
    · split
      · exact .ok (h.pushGroups c (hat _))
      · exact .ok (h.push c)
    split
    · obtain _ | ⟨hname, harity, hposition, hargs, hl, hrest⟩ := hcalls
      refine .ok ⟨h.mode, .cons hname harity hposition ?_ hl hrest, rfl, fun _ => rfl⟩
      simp only [List.length_cons, hargs]
    split
    · exact agree_closeCall hb hcalls
    · exact .ok (h.push c)

theorem agree_step (h : Alike e st st') {p p' : Position} (hp : p' = e.behind p) (c : Char)
    (hafter : p'.after c = e.behind (p.after c)) :
    Agree e (st.step arityOf p c) (st'.step arityOf p' c) := by
  have hmode := h.mode
  cases hm : st.mode with
  | plain =>
    rw [hm] at hmode
    rw [State.step, State.step, hm, hmode]
    exact agree_plain h hm hp c
  | escape =>
    rw [hm] at hmode
    rw [State.step, State.step, hm, hmode]
    simp only [modeBehind, State.escape]
    split
    · exact .ok (h.push _)
    split
    · exact .ok (h.push _)
    split
    · exact .ok (h.withMode (by rw [hafter]; rfl))
    split
    · exact .ok (h.push _)
    · rw [hp]
      exact .error ⟨.unexpected c, p⟩
  | unicode first digits =>
    rw [hm] at hmode
    rw [State.step, State.step, hm, hmode]
    simp only [modeBehind, State.unicode]
    split
    · exact .ok (h.withMode rfl)
    split
    · exact .ok (h.push _)
    · exact .error ⟨.notUnicode _, first⟩
  | tag name colon =>
    rw [hm] at hmode
    rw [State.step, State.step, hm, hmode]
    simp only [modeBehind, State.tagName]
    split
    · exact .ok (h.add _ _)
    split
    · exact .ok (h.withMode rfl)
    split
    · exact .ok (h.withMode rfl)
    · rw [hp]
      exact .error ⟨.unexpected c, p⟩
  | function name dollar =>
    rw [hm] at hmode
    rw [State.step, State.step, hm, hmode]
    simp only [modeBehind, State.functionName, State.openCall]
    split
    · split
      · exact .error ⟨.unknownFunction _, dollar⟩
      · rw [h.calls.length]
        split
        · exact .error ⟨.tooDeep _, dollar⟩
        · exact .ok ⟨rfl, .cons rfl rfl rfl rfl h.level h.calls, rfl, fun _ => rfl⟩
    split
    · exact .ok (h.withMode rfl)
    · rw [hp]
      exact .error ⟨.unexpected c, p⟩

end Step

/-- Two readers side by side go on alike to the end, or stop at one error. -/
theorem fold_alike {e : Position} {st st' : State} (h : Alike e st st') (read cs : List Char) :
    (∃ st₁ st₁', Alike e st₁ st₁' ∧
      Cursor.foldFrom (State.step arityOf) st (Position.start.afterAll read) cs
        = .ok (st₁, Position.start.afterAll (read ++ cs)) ∧
      Cursor.foldFrom (State.step arityOf) st' (e.afterAll read) cs
        = .ok (st₁', e.afterAll (read ++ cs))) ∨
    ∃ error : ParseError,
      Cursor.foldFrom (State.step arityOf) st (Position.start.afterAll read) cs = .error error ∧
      Cursor.foldFrom (State.step arityOf) st' (e.afterAll read) cs = .error (error.behind e) := by
  induction cs generalizing st st' read with
  | nil =>
    rw [List.append_nil]
    exact .inl ⟨st, st', h, rfl, rfl⟩
  | cons c cs ih =>
    have hafter : (e.afterAll read).after c
        = e.behind ((Position.start.afterAll read).after c) := by
      rw [← afterAll_concat, ← afterAll_concat, behind_afterAll]
    have hstep : Agree e (st.step arityOf (Position.start.afterAll read) c)
        (st'.step arityOf (e.afterAll read) c) :=
      agree_step h (behind_afterAll e read).symm c hafter
    rw [Cursor.foldFrom, Cursor.foldFrom]
    generalize st.step arityOf (Position.start.afterAll read) c = r at hstep ⊢
    generalize st'.step arityOf (e.afterAll read) c = r' at hstep ⊢
    cases hstep with
    | ok hnext =>
      rw [List.append_cons, ← afterAll_concat, ← afterAll_concat]
      exact ih hnext (read ++ [c])
    | error error => exact .inr ⟨error, rfl, rfl⟩

theorem finish_alike {e : Position} {st st' : State} (h : Alike e st st') {p : Position}
    {error : ParseError} (hf : st.finish p = .error error) :
    st'.finish (e.behind p) = .error (error.behind e) := by
  obtain rfl := finish_error hf
  have hopen : ¬ (st'.mode = .plain ∧ st'.calls = []) := by
    rintro ⟨hm', hc'⟩
    have hc := h.calls.eq_nil_iff.mp hc'
    have hm : st.mode = .plain := by
      have hmode := h.mode
      rw [hm'] at hmode
      cases hs : st.mode <;> rw [hs] at hmode <;> cases hmode
    rw [State.finish, hm, hc] at hf
    cases hf
  unfold State.finish
  split
  · next hm hc => exact absurd ⟨hm, hc⟩ hopen
  · rfl

/-- Behind a script that can be read, a script that cannot be read alone cannot be read either, for
the same reason. -/
theorem parse_append_error {a b : String} {s : Tree} {error : ParseError}
    (ha : parse arityOf a = .ok s) (hb : parse arityOf b = .error error) :
    parse arityOf (a ++ b) = .error (error.behind (endOf a)) := by
  rw [parse_eq] at ha hb
  split at ha
  · next st p hf =>
    obtain rfl := foldFrom_place hf
    obtain ⟨hm, hc⟩ := finish_ok ha
    have hstart : Alike (endOf a) {} st := by
      refine ⟨hm, ?_, ?_, fun h => absurd rfl h⟩
      · rw [hc]
        exact .nil
      · rw [levelOf, hc]
        rfl
    have hplace : Position.start.afterAll (a ++ b).toList
        = (endOf a).behind (Position.start.afterAll b.toList) := by
      rw [behind_afterAll, String.toList_append, afterAll_append, endOf]
    rw [parse_eq, hplace, String.toList_append, foldFrom_append, hf]
    have hruns := @fold_alike arityOf (endOf a) {} st hstart [] b.toList
    rw [show Position.start.afterAll [] = .start from rfl,
      show (endOf a).afterAll [] = endOf a from rfl] at hruns
    dsimp only
    rw [← endOf]
    rcases hruns with ⟨st₁, st₁', hend, h₁, h₁'⟩ | ⟨error', h₁, h₁'⟩
    · rw [h₁] at hb
      rw [h₁']
      exact finish_alike hend hb
    · rw [h₁] at hb
      obtain rfl : error' = error := Except.error.inj hb
      rw [h₁']
  · cases ha

/-- What is read behind a script that can be read is what is read alone, moved behind it. -/
theorem parse_append {a : String} {s : Tree} (ha : parse arityOf a = .ok s) (b : String) :
    parse arityOf (a ++ b) = match parse arityOf b with
      | .ok t => .ok (joined s (moved (endOf a).behind t))
      | .error e => .error (e.behind (endOf a)) := by
  rcases hb : parse arityOf b with e | t
  · exact parse_append_error ha hb
  · exact parse_append_ok ha hb

end Grammar
end Retag.Script

import Retag.Proofs.Grammar.Derivation
import Retag.Script.Parser

/-!
# What the grammar writes is read back

The reader takes pieces that the rules allow from one plain state to another, with the tree of the
pieces added to the draft. Nothing is said here of what else the reader might accept.
-/

namespace Retag.Script.Grammar

open Retag.Script.Parser

/-! ## The reader's character classes are those of the rules -/

theorem isNameChar_iff (c : Char) : isNameChar c = true ↔ IsWord c := by
  have hupper : c.isUpper = decide ('A' ≤ c ∧ c ≤ 'Z') := rfl
  have hlower : c.isLower = (decide ('a' ≤ c) && decide (c ≤ 'z')) := rfl
  have hdigit : c.isDigit = (decide ('0' ≤ c) && decide (c ≤ '9')) := rfl
  have hname : isNameChar c = (c.isUpper || c.isLower || c.isDigit || c == '_') := rfl
  rw [hname, hupper, hlower, hdigit]
  simp only [IsWord, Bool.or_eq_true, Bool.and_eq_true, decide_eq_true_eq, beq_iff_eq, or_assoc]

theorem isSpecial_iff (c : Char) : isSpecial c = true ↔ c ∈ specials := by
  simp [isSpecial, specials, or_assoc]

private theorem not_between_of_large {a b c : Char} (hb : b.toNat < 128) (h : 128 ≤ c.toNat) :
    ¬ (a ≤ c ∧ c ≤ b) := by
  rintro ⟨-, hc⟩
  have hle : c.toNat ≤ b.toNat := hc
  omega

private theorem hexValue?_of_large {c : Char} (h : 128 ≤ c.toNat) : hexValue? c = none := by
  have hd : c.isDigit = false := by
    rw [← Bool.not_eq_true]
    intro hc
    simp only [Char.isDigit, Bool.and_eq_true, decide_eq_true_eq] at hc
    have hle : c.toNat ≤ 57 := hc.2
    omega
  have hl := not_between_of_large (a := 'a') (b := 'f') (by decide) h
  have hu := not_between_of_large (a := 'A') (b := 'F') (by decide) h
  simp [hexValue?, hd, hl, hu]

private theorem hexDigit?_of_large {c : Char} (h : 128 ≤ c.toNat) : hexDigit? c = none := by
  have hc : c.toLower = c := by
    refine dif_neg ?_
    rintro ⟨-, hc⟩
    have hle : c.toNat ≤ 90 := hc
    omega
  have small : "0123456789abcdef".toList.all (fun d => d.toNat < 128) = true := by decide
  rw [hexDigit?, hc, List.idxOf?_eq_none_iff]
  intro hm
  have hlt := of_decide_eq_true (List.all_eq_true.mp small c hm)
  omega

theorem hexValue?_eq (c : Char) : hexValue? c = hexDigit? c := by
  by_cases h : c.toNat < 128
  · have all : ∀ n < 128, hexValue? (Char.ofNat n) = hexDigit? (Char.ofNat n) := by decide +kernel
    simpa using all c.toNat h
  · rw [hexValue?_of_large (by omega), hexDigit?_of_large (by omega)]

private theorem valid_ofNat_iff (n : Nat) (c : Char) :
    n.isValidChar ∧ Char.ofNat n = c ↔ c.toNat = n := by
  constructor
  · rintro ⟨hn, rfl⟩
    rw [Char.toNat, Char.ofNat, dif_pos hn]
    rfl
  · rintro rfl
    exact ⟨c.valid, Char.ofNat_toNat c⟩

theorem scalar?_eq_some_iff {d₁ d₂ d₃ d₄ c : Char} :
    scalar? [d₁, d₂, d₃, d₄] = some c ↔ ∃ n₁ n₂ n₃ n₄, hexDigit? d₁ = some n₁ ∧
      hexDigit? d₂ = some n₂ ∧ hexDigit? d₃ = some n₃ ∧ hexDigit? d₄ = some n₄ ∧
      c.toNat = ((n₁ * 16 + n₂) * 16 + n₃) * 16 + n₄ := by
  cases h₁ : hexDigit? d₁ <;> cases h₂ : hexDigit? d₂ <;> cases h₃ : hexDigit? d₃ <;>
    cases h₄ : hexDigit? d₄ <;>
    simp [scalar?, hexValue?_eq, h₁, h₂, h₃, h₄, valid_ofNat_iff, Nat.mul_comm 16]

/-! ## Moves of the reader -/

variable {arityOf : String → Option Arity}

/-- The reader gets from one state to another over the characters `cs`, which start at `p`. -/
def Moves (arityOf : String → Option Arity) (st : State) (p : Position) (cs : List Char)
    (st' : State) : Prop :=
  Cursor.foldFrom (State.step arityOf) st p cs = .ok (st', p.afterAll cs)

theorem Moves.nil (st : State) (p : Position) : Moves arityOf st p [] st := rfl

theorem Moves.cons {st st₁ st₂ : State} {p : Position} {c : Char} {cs : List Char}
    (hs : st.step arityOf p c = .ok st₁) (hm : Moves arityOf st₁ (p.after c) cs st₂) :
    Moves arityOf st p (c :: cs) st₂ := by
  unfold Moves at hm ⊢
  rw [Cursor.foldFrom, hs]
  exact hm

theorem Moves.one {st st₁ : State} {p : Position} {c : Char}
    (hs : st.step arityOf p c = .ok st₁) : Moves arityOf st p [c] st₁ :=
  .cons hs (.nil _ _)

theorem Moves.append {st st₁ st₂ : State} {p : Position} {xs ys : List Char}
    (hx : Moves arityOf st p xs st₁) (hy : Moves arityOf st₁ (p.afterAll xs) ys st₂) :
    Moves arityOf st p (xs ++ ys) st₂ := by
  induction xs generalizing st p with
  | nil =>
    cases hx
    exact hy
  | cons c cs ih =>
    unfold Moves at hx
    rw [Cursor.foldFrom] at hx
    split at hx
    · next st' hs => exact .cons hs (ih hx hy)
    · cases hx

/-! ## Drafts -/

@[simp] theorem endRun_of_run_nil {d : Draft} (h : d.run = []) : d.endRun = d := by
  simp [Draft.endRun, h]

theorem endRun_run (d : Draft) : d.endRun.run = [] := by
  unfold Draft.endRun
  split
  · next h => exact List.isEmpty_iff.mp h
  · rfl

theorem endRun_groups (d : Draft) : d.endRun.groups = d.groups := by
  unfold Draft.endRun
  split <;> rfl

theorem tree_add (d : Draft) (n : Node) : (d.add n).tree = d.tree ++ [n] := by
  have h : (d.add n).endRun = d.add n := endRun_of_run_nil (endRun_run d)
  rw [Draft.tree, h]
  simp [Draft.add, Draft.tree]

theorem tree_of_run {d : Draft} (h : d.run ≠ []) :
    d.tree = d.nodes.reverse ++ [.text (String.ofList d.run.reverse)] := by
  simp [Draft.tree, Draft.endRun, h]

theorem tree_of_run_nil {d : Draft} (h : d.run = []) : d.tree = d.nodes.reverse := by
  simp [Draft.tree, h]


/-! ## Text -/

/-- The level of a reader with these calls and groups open. -/
def levelAt (calls : List OpenCall) (groups : Nat) : Level :=
  match calls with
  | [] => none
  | _ :: _ => some groups

def levelOf (st : State) : Level := levelAt st.calls st.draft.groups

/-- The state `st'` is plain and follows `st` by characters of text. -/
structure Adds (st st' : State) (values : List Char) (l : Level) : Prop where
  mode : st'.mode = .plain
  calls : st'.calls = st.calls
  nodes : st'.draft.nodes = st.draft.nodes
  run : st'.draft.run = values.reverse ++ st.draft.run
  level : levelOf st' = l

theorem adds_push (st : State) (c : Char) : Adds st (st.push c) [c] (levelOf st) where
  mode := rfl
  calls := rfl
  nodes := rfl
  run := rfl
  level := rfl

theorem levelOf_none {st : State} (h : levelOf st = none) : st.calls = [] := by
  unfold levelOf levelAt at h
  split at h
  · assumption
  · cases h

theorem levelOf_some {st : State} {n : Nat} (h : levelOf st = some n) :
    ∃ call calls, st.calls = call :: calls ∧ st.draft.groups = n := by
  unfold levelOf levelAt at h
  split at h
  · cases h
  · next call calls hc => exact ⟨call, calls, hc, Option.some.inj h⟩

variable (arityOf) in
/-- A glyph is read as its value, whatever it is written as. -/
theorem glyph_moves {l l' : Level} {g : Glyph} (hg : g.Reads l l') (st : State) (p : Position)
    (hm : st.mode = .plain) (hl : levelOf st = l) :
    ∃ st', Moves arityOf st p g.written st' ∧ Adds st st' [g.value] l' := by
  have escaped : st.step arityOf p '\\' = .ok { st with mode := .escape } := by
    simp [State.step, hm, State.plain]
  cases hg with
  | @top c hc =>
    have hcalls := levelOf_none hl
    simp only [List.mem_cons, List.not_mem_nil, or_false, not_or] at hc
    refine ⟨st.push c, .one ?_, hl ▸ adds_push st c⟩
    simp [State.step, hm, State.plain, hcalls, hc]
  | @inside c n hc =>
    obtain ⟨call, calls, hcalls, hn⟩ := levelOf_some hl
    simp only [specials, List.mem_cons, List.not_mem_nil, or_false, not_or] at hc
    refine ⟨st.push c, .one ?_, hl ▸ adds_push st c⟩
    simp [State.step, hm, State.plain, hcalls, hc]
  | @opening n =>
    obtain ⟨call, calls, hcalls, hn⟩ := levelOf_some hl
    refine ⟨{ st.push '(' with draft.groups := st.draft.groups + 1 }, .one ?_, ?_⟩
    · simp [State.step, hm, State.plain, hcalls]
    · exact ⟨rfl, rfl, rfl, rfl, by simp [levelOf, levelAt, State.push, hcalls, hn]⟩
  | @closing n =>
    obtain ⟨call, calls, hcalls, hn⟩ := levelOf_some hl
    refine ⟨{ st.push ')' with draft.groups := st.draft.groups - 1 }, .one ?_, ?_⟩
    · simp [State.step, hm, State.plain, hcalls, hn]
    · exact ⟨rfl, rfl, rfl, rfl, by simp [levelOf, levelAt, State.push, hcalls, hn]⟩
  | @comma n =>
    obtain ⟨call, calls, hcalls, hn⟩ := levelOf_some hl
    refine ⟨st.push ',', .one ?_, hl ▸ adds_push st ','⟩
    simp [State.step, hm, State.plain, hcalls, hn]
  | @special c l hc =>
    refine ⟨st.push c, .cons escaped (.one ?_), hl ▸ adds_push st c⟩
    have hs := (isSpecial_iff c).mpr hc
    have hn : c ≠ 'n' ∧ c ≠ 't' ∧ c ≠ 'u' := by
      refine ⟨?_, ?_, ?_⟩ <;> rintro rfl <;> revert hc <;> decide
    simp [State.step, State.escape, hs, hn, State.push]
  | newline =>
    exact ⟨st.push '\n', .cons escaped (.one rfl), hl ▸ adds_push st '\n'⟩
  | tab =>
    exact ⟨st.push '\t', .cons escaped (.one rfl), hl ▸ adds_push st '\t'⟩
  | @unicode d₁ d₂ d₃ d₄ c n₁ n₂ n₃ n₄ l h₁ h₂ h₃ h₄ hc =>
    have hv : scalar? [d₁, d₂, d₃, d₄] = some c :=
      scalar?_eq_some_iff.mpr ⟨n₁, n₂, n₃, n₄, h₁, h₂, h₃, h₄, hc⟩
    refine ⟨st.push c, .cons escaped (.cons rfl (.cons rfl (.cons rfl (.cons rfl (.one ?_))))),
      hl ▸ adds_push st c⟩
    simp [State.step, State.unicode, hv, State.push]

variable (arityOf) in
/-- A run of glyphs is read as its values, last first. -/
theorem run_moves {l l' : Level} {gs : List Glyph} (hg : Glyph.Run l gs l') (st : State)
    (p : Position) (hm : st.mode = .plain) (hl : levelOf st = l) :
    ∃ st', Moves arityOf st p (gs.flatMap Glyph.written) st' ∧
      Adds st st' (gs.map Glyph.value) l' := by
  induction hg generalizing st p with
  | nil => exact ⟨st, .nil _ _, hm, rfl, rfl, rfl, hl⟩
  | @cons l l₁ l₂ g gs hr _ ih =>
    obtain ⟨st₁, hm₁, ha₁⟩ := glyph_moves arityOf hr st p hm hl
    obtain ⟨st₂, hm₂, ha₂⟩ := ih st₁ (p.afterAll g.written) ha₁.mode ha₁.level
    refine ⟨st₂, by simpa using hm₁.append hm₂, ha₂.mode, ha₂.calls.trans ha₁.calls,
      ha₂.nodes.trans ha₁.nodes, ?_, ha₂.level⟩
    rw [ha₂.run, ha₁.run]
    simp

/-! ## Names -/

variable (arityOf) in
theorem tagName_moves (name acc : List Char) (colon : Bool) (st : State) (p : Position)
    (hw : ∀ c ∈ name, IsWord c ∨ c = ':') (hc : name.count ':' + colon.toNat ≤ 1) :
    Moves arityOf { st with mode := .tag acc colon } p (name ++ ['%'])
      { st with
        draft := st.draft.add (.tag (String.ofList (acc.reverse ++ name))), mode := .plain } := by
  induction name generalizing acc colon p with
  | nil => exact .one (by simp [State.step, State.tagName])
  | cons c name ih =>
    have hrest : ∀ c ∈ name, IsWord c ∨ c = ':' := fun c hm => hw c (List.mem_cons_of_mem _ hm)
    have happ : acc.reverse ++ c :: name = (c :: acc).reverse ++ name := by simp
    rw [happ]
    by_cases he : c = ':'
    · subst he
      rw [List.count_cons_self] at hc
      have hf : colon = false := by cases colon <;> simp at hc ⊢
      refine .cons ?_ (ih (':' :: acc) true _ hrest (by simp; omega))
      simp [State.step, State.tagName, hf]
    · have hword := (hw c (List.mem_cons_self ..)).resolve_right he
      have hn := (isNameChar_iff c).mpr hword
      have hp : c ≠ '%' := by rintro rfl; revert hn; decide
      rw [List.count_cons_of_ne he] at hc
      refine .cons ?_ (ih (c :: acc) colon _ hrest hc)
      simp [State.step, State.tagName, hp, he, hn]

variable (arityOf) in
theorem functionName_moves (name acc : List Char) (dollar : Position) (st : State) (p : Position)
    (hw : ∀ c ∈ name, IsWord c) :
    Moves arityOf { st with mode := .function acc dollar } p name
      { st with mode := .function (name.reverse ++ acc) dollar } := by
  induction name generalizing acc p with
  | nil => exact .nil _ _
  | cons c name ih =>
    have hn := (isNameChar_iff c).mpr (hw c (List.mem_cons_self ..))
    have hp : c ≠ '(' := by rintro rfl; revert hn; decide
    have happ : (c :: name).reverse ++ acc = name.reverse ++ c :: acc := by simp
    rw [happ]
    refine .cons ?_ (ih (c :: acc) _ fun c hm => hw c (List.mem_cons_of_mem _ hm))
    simp [State.step, State.functionName, hp, hn]

/-! ## Pieces -/

/-- The state `st'` is plain and follows `st` by the nodes of a tree. -/
structure Extends (st st' : State) (nodes : Tree) (l : Level) : Prop where
  mode : st'.mode = .plain
  calls : st'.calls = st.calls
  tree : st'.draft.tree = st.draft.tree ++ nodes
  level : levelOf st' = l

theorem Extends.trans {st st₁ st₂ : State} {xs ys : Tree} {l₁ l₂ : Level}
    (hx : Extends st st₁ xs l₁) (hy : Extends st₁ st₂ ys l₂) : Extends st st₂ (xs ++ ys) l₂ where
  mode := hy.mode
  calls := hy.calls.trans hx.calls
  tree := by rw [hy.tree, hx.tree, List.append_assoc]
  level := hy.level

theorem Adds.extends {st st' : State} {values : List Char} {l : Level} (h : Adds st st' values l)
    (hr : st.draft.run = []) (hv : values ≠ []) :
    Extends st st' [.text (String.ofList values)] l := by
  refine ⟨h.mode, h.calls, ?_, h.level⟩
  have hrun : st'.draft.run = values.reverse := by rw [h.run, hr, List.append_nil]
  rw [tree_of_run (by simpa [hrun] using hv), tree_of_run_nil hr, h.nodes, hrun,
    List.reverse_reverse]

/-- Adding a node that is no text leaves no run open, so that text may follow. -/
theorem extends_add (st : State) (n : Node) :
    Extends st { st with draft := st.draft.add n, mode := .plain } [n] (levelOf st) ∧
      (st.draft.add n).run = [] := by
  refine ⟨⟨rfl, rfl, tree_add _ _, ?_⟩, endRun_run _⟩
  simp [levelOf, Draft.add, endRun_groups]

theorem tag_moves (name : String) (h : IsTagName name.toList) (st : State) (p : Position)
    (hm : st.mode = .plain) :
    Moves arityOf st p (Piece.tag name).written
      { st with draft := st.draft.add (.tag name), mode := .plain } := by
  have hopen : st.step arityOf p '%'
      = .ok { st with draft := st.draft.endRun, mode := .tag [] false } := by
    simp [State.step, hm, State.plain]
  have hname := tagName_moves arityOf name.toList [] false
    { st with draft := st.draft.endRun } (p.after '%') h.1 (by simpa using h.2)
  have hadd : st.draft.endRun.add (.tag name) = st.draft.add (.tag name) := by
    simp only [Draft.add, endRun_of_run_nil (endRun_run st.draft)]
  simp only [List.reverse_nil, List.nil_append, String.ofList_toList, hadd] at hname
  exact .cons hopen hname

/-- Up to its opening parenthesis a call leaves the reader in front of its first argument. -/
theorem openCall_moves {name : String} {arity : Arity} (hn : IsFunctionName name.toList)
    (ha : arityOf name = some arity) (st : State) (p : Position) (hm : st.mode = .plain)
    (hd : st.calls.length < maxNesting) :
    Moves arityOf st p ('$' :: (name.toList ++ ['(']))
      ⟨⟨name, arity, p, [], st.draft.endRun⟩ :: st.calls, {}, .plain⟩ := by
  have hopen : st.step arityOf p '$'
      = .ok { st with draft := st.draft.endRun, mode := .function [] p } := by
    simp [State.step, hm, State.plain]
  have hname := functionName_moves arityOf name.toList [] p
    { st with draft := st.draft.endRun } (p.after '$') hn
  refine .cons hopen (hname.append (.one ?_))
  simp [State.step, State.functionName, State.openCall, ha, Nat.ne_of_lt hd]

/-- From any plain state under `depth` calls the reader takes the pieces as their tree. Text may
only come first where no run of text is open. -/
def ReadBack (arityOf : String → Option Arity) (depth : Nat) (l : Level) (ps : List Piece)
    (l' : Level) : Prop :=
  ∀ (st : State) (p : Position), st.mode = .plain → st.calls.length = depth → levelOf st = l →
    (startsText ps = true → st.draft.run = []) →
    ∃ st', Moves arityOf st p (writtenAll ps) st' ∧ Extends st st' (treeAt ps p) l'

/-- The arguments behind commas: each finished one goes to the open call, last first. -/
theorem more_moves {depth : Nat} (more : List (List Piece))
    (ih : ∀ a ∈ more, ReadBack arityOf (depth + 1) (some 0) a (some 0)) (st : State) (p : Position)
    (call : OpenCall) (calls : List OpenCall) (hm : st.mode = .plain)
    (hc : st.calls = call :: calls) (hd : calls.length = depth) (hg : st.draft.groups = 0) :
    ∃ st' args, Moves arityOf st p (writtenMore more) st' ∧ st'.mode = .plain ∧
      st'.calls = { call with args := args } :: calls ∧ st'.draft.groups = 0 ∧
      (st'.draft.tree :: args).reverse
        = (st.draft.tree :: call.args).reverse ++ treesAt more p := by
  induction more generalizing st p call with
  | nil => exact ⟨st, call.args, .nil _ _, hm, hc, hg, by simp [treesAt]⟩
  | cons a rest ihr =>
    let next : State := ⟨{ call with args := st.draft.tree :: call.args } :: calls, {}, .plain⟩
    have hcomma : st.step arityOf p ',' = .ok next := by
      simp [State.step, hm, State.plain, hc, hg, next]
    obtain ⟨st₁, hm₁, he₁⟩ := ih a (List.mem_cons_self ..) next (p.after ',') rfl
      (by simp [next, hd]) rfl fun _ => rfl
    obtain ⟨call₁, calls₁, hc₁, hg₁⟩ := levelOf_some he₁.level
    obtain ⟨st₂, args, hm₂, hmode₂, hc₂, hg₂, ht₂⟩ := ihr
      (fun b hb => ih b (List.mem_cons_of_mem _ hb)) st₁ ((p.after ',').afterAll (writtenAll a))
      { call with args := st.draft.tree :: call.args } he₁.mode he₁.calls hg₁
    have ht₁ : st₁.draft.tree = treeAt a (p.after ',') := by
      rw [he₁.tree]
      rfl
    refine ⟨st₂, args, .cons hcomma (hm₁.append hm₂), hmode₂, hc₂, hg₂, ?_⟩
    rw [ht₂, ht₁]
    simp [treesAt]

theorem treesAt_length (more : List (List Piece)) (p : Position) :
    (treesAt more p).length = more.length := by
  induction more generalizing p with
  | nil => rfl
  | cons a rest ih => rw [treesAt, List.length_cons, ih, List.length_cons]

/-- A lone blank argument is none, in the tree as in the pieces. -/
theorem arguments_eq (first : List Piece) (more : List (List Piece)) (p q : Position) :
    State.arguments (treeAt first p :: treesAt more q).reverse
      = if first.isEmpty && more.isEmpty then [] else treeAt first p :: treesAt more q := by
  unfold State.arguments
  split
  · next h =>
    have hs : treeAt first p :: treesAt more q = [[]] := by simpa using congrArg List.reverse h
    cases first <;> cases more <;> simp [treeAt, treesAt] at hs ⊢
  · next h =>
    rw [List.reverse_reverse]
    split
    · next he =>
      simp only [Bool.and_eq_true, List.isEmpty_iff] at he
      obtain ⟨rfl, rfl⟩ := he
      exact absurd rfl h
    · rfl

theorem arguments_length (first : List Piece) (more : List (List Piece)) (p q : Position) :
    (if first.isEmpty && more.isEmpty then []
      else treeAt first p :: treesAt more q).length = argumentCount first more := by
  unfold argumentCount
  split
  · rfl
  · rw [List.length_cons, treesAt_length]

/-- A call that the rules allow is read as one node. -/
theorem call_moves {depth : Nat} {name : String} {arity : Arity} {first : List Piece}
    {more : List (List Piece)} (hn : IsFunctionName name.toList) (ha : arityOf name = some arity)
    (hd : depth < maxNesting) (hfirst : ReadBack arityOf (depth + 1) (some 0) first (some 0))
    (hmore : ∀ a ∈ more, ReadBack arityOf (depth + 1) (some 0) a (some 0))
    (hcount : arity.accepts (argumentCount first more) = true) (st : State) (p : Position)
    (hm : st.mode = .plain) (hl : st.calls.length = depth) :
    Moves arityOf st p (Piece.call name first more).written
      { st with
        draft := st.draft.add ((Piece.call name first more).nodeAt p), mode := .plain } := by
  let start := p.afterAll ('$' :: (name.toList ++ ['(']))
  let call : OpenCall := ⟨name, arity, p, [], st.draft.endRun⟩
  have hopen := openCall_moves hn ha st p hm (hl ▸ hd)
  obtain ⟨st₁, hm₁, he₁⟩ := hfirst ⟨call :: st.calls, {}, .plain⟩ start rfl (by simp [hl]) rfl
    fun _ => rfl
  obtain ⟨call₁, calls₁, hc₁, hg₁⟩ := levelOf_some he₁.level
  obtain ⟨st₂, args, hm₂, hmode₂, hc₂, hg₂, ht₂⟩ := more_moves more hmore st₁
    (start.afterAll (writtenAll first)) call st.calls he₁.mode he₁.calls hl hg₁
  have ht₁ : st₁.draft.tree = treeAt first start := by
    rw [he₁.tree]
    rfl
  have hargs : State.arguments (st₂.draft.tree :: args) =
      if first.isEmpty && more.isEmpty then []
        else treeAt first start :: treesAt more (start.afterAll (writtenAll first)) := by
    rw [← arguments_eq]
    congr 1
    have h := congrArg List.reverse ht₂
    rw [List.reverse_reverse] at h
    rw [h, ht₁]
    rfl
  have hclose : st₂.step arityOf ((start.afterAll (writtenAll first)).afterAll (writtenMore more))
      ')' = .ok ⟨st.calls, st.draft.add ((Piece.call name first more).nodeAt p), .plain⟩ := by
    have hadd (n : Node) : st.draft.endRun.add n = st.draft.add n := by
      simp only [Draft.add, endRun_of_run_nil (endRun_run st.draft)]
    simp only [State.step, hmode₂, State.plain, hc₂, hg₂]
    simp only [State.closeCall, hargs, arguments_length, call]
    rw [if_pos hcount, hadd]
    rfl
  have hwritten : (Piece.call name first more).written = ('$' :: (name.toList ++ ['('])) ++
      (writtenAll first ++ (writtenMore more ++ [')'])) := by simp [Piece.written]
  rw [hwritten]
  exact hopen.append (hm₁.append (hm₂.append (.one hclose)))

/-- Whatever the rules derive, the reader takes as its tree. The induction is on the derivation; the
state, and with it what was read before, is arbitrary. -/
theorem Derives.readBack {depth : Nat} {l l' : Level} {ps : List Piece}
    (h : Derives arityOf depth l ps l') : ReadBack arityOf depth l ps l' := by
  induction h with
  | nil =>
    intro st p hm _ hl _
    exact ⟨st, .nil _ _, hm, rfl, by simp [treeAt], hl⟩
  | @text depth l l₁ l₂ glyphs rest hne hrun hrest _ ih =>
    intro st p hm hd hl hopen
    obtain ⟨st₁, hm₁, ha₁⟩ := run_moves arityOf hrun st p hm hl
    have he₁ := ha₁.extends (hopen rfl) (by simpa using hne)
    obtain ⟨st₂, hm₂, he₂⟩ := ih st₁ (p.afterAll (Piece.text glyphs).written) he₁.mode
      (by rw [he₁.calls, hd]) he₁.level (by simp [hrest])
    exact ⟨st₂, hm₁.append hm₂, he₁.trans he₂⟩
  | @tag depth l l₂ name rest hname _ ih =>
    intro st p hm hd hl _
    obtain ⟨he₁, hr₁⟩ := extends_add st (.tag name)
    obtain ⟨st₂, hm₂, he₂⟩ := ih _ (p.afterAll (Piece.tag name).written) he₁.mode
      (by rw [he₁.calls, hd]) (he₁.level.trans hl) fun _ => hr₁
    exact ⟨st₂, (tag_moves name hname st p hm).append hm₂, he₁.trans he₂⟩
  | @call depth l l₂ name arity first rest more hname ha hdepth _ _ hcount _ ihf ihm ih =>
    intro st p hm hd hl _
    obtain ⟨he₁, hr₁⟩ := extends_add st ((Piece.call name first more).nodeAt p)
    obtain ⟨st₂, hm₂, he₂⟩ := ih _ (p.afterAll (Piece.call name first more).written) he₁.mode
      (by rw [he₁.calls, hd]) (he₁.level.trans hl) fun _ => hr₁
    exact ⟨st₂, (call_moves hname ha hdepth ihf ihm hcount st p hm hd).append hm₂, he₁.trans he₂⟩

/-- A source that has a derivation is read as the tree of the derivation. -/
theorem parse_source (d : Derivation arityOf) : parse arityOf d.source = .ok d.tree := by
  obtain ⟨st, hm, he⟩ := d.derives.readBack {} .start rfl rfl rfl fun _ => rfl
  have hcalls := levelOf_none he.level
  have hfold : (Cursor.ofText d.source).fold (State.step arityOf) {}
      = .ok (st, Position.start.afterAll (writtenAll d.pieces)) := by
    rw [Cursor.fold, Derivation.source, Cursor.ofText, String.toList_ofList]
    exact hm
  rw [parse, hfold]
  simp only [State.finish, he.mode, hcalls, he.tree]
  rfl

end Retag.Script.Grammar

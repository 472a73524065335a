import Mathlib.Data.List.Basic
import Retag.Proofs.Grammar.Reading

/-!
# What is read follows the grammar

The invariant looks forward: `Completes st cs` says that the characters `cs` finish, by the rules of
the grammar, everything that is open in the state `st`. It holds of a state in which a script may
end, and each step of the reader carries it from the next state back to the present one. The initial
state has nothing open, so what completes it is a derivation of the whole source.
-/

namespace Retag.Script.Grammar

open Retag.Script.Parser

/-! ## Pieces put in front -/

/-- A glyph joins the text behind it, if there is text. -/
def consGlyph (g : Glyph) : List Piece → List Piece
  | .text gs :: rest => .text (g :: gs) :: rest
  | ps => .text [g] :: ps

theorem writtenAll_consGlyph (g : Glyph) (ps : List Piece) :
    writtenAll (consGlyph g ps) = g.written ++ writtenAll ps := by
  unfold consGlyph
  split <;> simp [writtenAll, Piece.written]

theorem consGlyph_ne_nil (g : Glyph) (ps : List Piece) : consGlyph g ps ≠ [] := by
  unfold consGlyph
  split <;> simp

variable {arityOf : String → Option Arity}

theorem Derives.consGlyph {depth : Nat} {l l₁ l₂ : Level} {g : Glyph} {ps : List Piece}
    (hg : g.Reads l l₁) (h : Derives arityOf depth l₁ ps l₂) :
    Derives arityOf depth l (consGlyph g ps) l₂ := by
  cases h with
  | nil => exact .text (by simp) (.cons hg .nil) rfl .nil
  | text _ hrun hrest h => exact .text (by simp) (.cons hg hrun) hrest h
  | tag hn h => exact .text (by simp) (.cons hg .nil) rfl (.tag hn h)
  | call hn ha hd hf hm hc h =>
    exact .text (by simp) (.cons hg .nil) rfl (.call hn ha hd hf hm hc h)

/-! ## What closes the open calls -/

/-- How many arguments a call has with `finished` ones read, the pieces `ps` of the present one and
the arguments `more` to come; `started` if the present one is not blank so far. -/
def finalCount (finished : Nat) (started : Bool) (ps : List Piece) (more : List (List Piece)) :
    Nat :=
  if finished = 0 && !started && ps.isEmpty && more.isEmpty then 0
  else finished + (more.length + 1)

theorem argumentCount_eq (first : List Piece) (more : List (List Piece)) :
    argumentCount first more = finalCount 0 false first more := by
  simp [argumentCount, finalCount]

/-- The characters finish the present draft, then its call, and so on outwards. -/
inductive Closes (arityOf : String → Option Arity) :
    List OpenCall → Nat → Bool → List Char → Prop
  | top {groups : Nat} {started : Bool} {ps : List Piece} :
      Derives arityOf 0 none ps none → Closes arityOf [] groups started (writtenAll ps)
  | call {call : OpenCall} {calls : List OpenCall} {groups : Nat} {started : Bool}
      {ps : List Piece} {more : List (List Piece)} {cs : List Char} :
      Derives arityOf (calls.length + 1) (some groups) ps (some 0) →
      (∀ a ∈ more, Derives arityOf (calls.length + 1) (some 0) a (some 0)) →
      call.arity.accepts (finalCount call.args.length started ps more) = true →
      Closes arityOf calls call.outer.groups true cs →
      Closes arityOf (call :: calls) groups started
        (writtenAll ps ++ (writtenMore more ++ ')' :: cs))

theorem Closes.glyph {calls : List OpenCall} {groups groups' : Nat} {started : Bool} {g : Glyph}
    {cs : List Char} (hg : g.Reads (levelAt calls groups) (levelAt calls groups'))
    (h : Closes arityOf calls groups' true cs) :
    Closes arityOf calls groups started (g.written ++ cs) := by
  cases h with
  | top hd =>
    rw [← writtenAll_consGlyph]
    exact .top (hd.consGlyph hg)
  | @call _ _ _ _ ps more cs hd hm hc ho =>
    rw [← List.append_assoc, ← writtenAll_consGlyph]
    refine .call (hd.consGlyph hg) hm ?_ ho
    simpa [finalCount, consGlyph_ne_nil] using hc

/-- A piece that may stand in front of any others. -/
theorem Closes.piece {calls : List OpenCall} {groups : Nat} {started : Bool} {x : Piece}
    {cs : List Char}
    (hx : ∀ {l l' : Level} {ps : List Piece}, Derives arityOf calls.length l ps l' →
      Derives arityOf calls.length l (x :: ps) l')
    (h : Closes arityOf calls groups true cs) :
    Closes arityOf calls groups started (x.written ++ cs) := by
  cases h with
  | @top _ _ ps hd =>
    have hw : x.written ++ writtenAll ps = writtenAll (x :: ps) := rfl
    rw [hw]
    exact .top (hx hd)
  | @call _ _ _ _ ps more cs hd hm hc ho =>
    have hw : x.written ++ (writtenAll ps ++ (writtenMore more ++ ')' :: cs))
        = writtenAll (x :: ps) ++ (writtenMore more ++ ')' :: cs) := by simp [writtenAll]
    rw [hw]
    refine .call (hx hd) hm ?_ ho
    simpa [finalCount] using hc

/-! ## What completes a state -/

/-- A glyph whose first characters have been read. -/
def ClosesGlyph (arityOf : String → Option Arity) (st : State) (begun cs : List Char) : Prop :=
  ∃ (g : Glyph) (rest : List Char), begun ++ cs = g.written ++ rest ∧
    g.Reads (levelOf st) (levelOf st) ∧ Closes arityOf st.calls st.draft.groups true rest

def Completes (arityOf : String → Option Arity) (st : State) (cs : List Char) : Prop :=
  match st.mode with
  | .plain => Closes arityOf st.calls st.draft.groups (!st.draft.tree.isEmpty) cs
  | .escape => ClosesGlyph arityOf st ['\\'] cs
  | .unicode _ digits => ClosesGlyph arityOf st ('\\' :: 'u' :: digits.reverse) cs
  | .tag _ colon => ∃ name rest, cs = name ++ '%' :: rest ∧ (∀ c ∈ name, IsWord c ∨ c = ':') ∧
      name.count ':' + colon.toNat ≤ 1 ∧ Closes arityOf st.calls st.draft.groups true rest
  | .function begun _ => ∃ name arity first more rest,
      cs = name ++ '(' :: (writtenAll first ++ (writtenMore more ++ ')' :: rest)) ∧
      IsFunctionName name ∧ arityOf (String.ofList (begun.reverse ++ name)) = some arity ∧
      st.calls.length < maxNesting ∧
      Derives arityOf (st.calls.length + 1) (some 0) first (some 0) ∧
      (∀ a ∈ more, Derives arityOf (st.calls.length + 1) (some 0) a (some 0)) ∧
      arity.accepts (argumentCount first more) = true ∧
      Closes arityOf st.calls st.draft.groups true rest

/-! ## One step -/

/-- Everything that a character can do in a plain state. -/
theorem plain_cases {st st' : State} {p : Position} {c : Char} (h : st.plain p c = .ok st') :
    (c = '\\' ∧ st' = { st with mode := .escape }) ∨
    (c = '$' ∧ st' = { st with draft := st.draft.endRun, mode := .function [] p }) ∨
    (c = '%' ∧ st' = { st with draft := st.draft.endRun, mode := .tag [] false }) ∨
    (∃ groups, st' = { st.push c with draft.groups := groups } ∧
      (Glyph.plain c).Reads (levelOf st) (levelAt st.calls groups)) ∨
    (∃ call calls, st.calls = call :: calls ∧ st.draft.groups = 0 ∧
      ((c = ',' ∧ st' = { st with
          calls := { call with args := st.draft.tree :: call.args } :: calls, draft := {} }) ∨
        (c = ')' ∧ st.closeCall call calls = .ok st'))) := by
  unfold State.plain at h
  split at h
  · next hc => exact .inl ⟨hc, (Except.ok.inj h).symm⟩
  next hb =>
  split at h
  · next hc => exact .inr (.inl ⟨hc, (Except.ok.inj h).symm⟩)
  next hd =>
  split at h
  · next hc => exact .inr (.inr (.inl ⟨hc, (Except.ok.inj h).symm⟩))
  next hp =>
  refine .inr (.inr (.inr ?_))
  split at h
  · next hcalls =>
    split at h
    · cases h
    next ho =>
    obtain rfl := Except.ok.inj h
    have hl : levelOf st = none := by rw [levelOf, hcalls]; rfl
    refine .inl ⟨st.draft.groups, rfl, ?_⟩
    rw [hl, hcalls]
    exact .top (by simp [hb, hd, hp, ho])
  next call calls hcalls =>
  have hl (n : Nat) (hn : st.draft.groups = n) : levelOf st = some n := by
    rw [levelOf, hcalls, hn]; rfl
  have hat (n : Nat) : levelAt st.calls n = some n := by rw [hcalls]; rfl
  split at h
  · next ho =>
    obtain rfl := Except.ok.inj h
    refine .inl ⟨st.draft.groups + 1, rfl, ?_⟩
    rw [hl _ rfl, hat, ho]
    exact .opening
  next ho =>
  split at h
  · next hg =>
    obtain ⟨n, hn⟩ := Nat.exists_eq_succ_of_ne_zero hg
    split at h
    · next hc =>
      obtain rfl := Except.ok.inj h
      refine .inl ⟨st.draft.groups - 1, rfl, ?_⟩
      rw [hl _ hn, hat, hn, hc]
      exact .closing
    next hc =>
    obtain rfl := Except.ok.inj h
    refine .inl ⟨st.draft.groups, rfl, ?_⟩
    rw [hl _ hn, hat, hn]
    by_cases hcomma : c = ','
    · rw [hcomma]
      exact .comma
    · exact .inside (by simp [specials, hb, hd, hp, ho, hc, hcomma])
  next hg =>
  have hg : st.draft.groups = 0 := Decidable.not_not.mp hg
  split at h
  · next hc => exact .inr ⟨call, calls, hcalls, hg, .inl ⟨hc, (Except.ok.inj h).symm⟩⟩
  next hcomma =>
  split at h
  · next hc => exact .inr ⟨call, calls, hcalls, hg, .inr ⟨hc, h⟩⟩
  next hc =>
  obtain rfl := Except.ok.inj h
  refine .inl ⟨st.draft.groups, rfl, ?_⟩
  rw [hl _ rfl, hat]
  exact .inside (by simp [specials, hb, hd, hp, ho, hc, hcomma])

theorem tree_push_isEmpty (d : Draft) (c : Char) (groups : Nat) :
    ({ d.push c with groups := groups } : Draft).tree.isEmpty = false := by
  rw [tree_of_run (by simp [Draft.push])]
  simp

theorem tree_add_isEmpty (d : Draft) (n : Node) : (d.add n).tree.isEmpty = false := by
  rw [tree_add]
  simp

theorem add_groups (d : Draft) (n : Node) : (d.add n).groups = d.groups := endRun_groups d

/-- The states after a glyph: one more character of text, and perhaps more or fewer groups. -/
theorem completes_pushed {st : State} {c : Char} {groups : Nat} {cs : List Char}
    (h : Completes arityOf { st.push c with draft.groups := groups } cs) :
    Closes arityOf st.calls groups true cs := by
  have hs := tree_push_isEmpty st.draft c groups
  simp only [Completes, State.push] at h
  rwa [hs] at h

theorem completes_push {st : State} {c : Char} {cs : List Char}
    (h : Completes arityOf (st.push c) cs) :
    Closes arityOf st.calls st.draft.groups true cs := by
  have hp : Completes arityOf { st.push c with draft.groups := st.draft.groups } cs := h
  exact completes_pushed hp

theorem Closes.call_iff {call : OpenCall} {calls : List OpenCall} {groups : Nat} {started : Bool}
    {cs : List Char} : Closes arityOf (call :: calls) groups started cs ↔
      ∃ ps more rest, cs = writtenAll ps ++ (writtenMore more ++ ')' :: rest) ∧
        Derives arityOf (calls.length + 1) (some groups) ps (some 0) ∧
        (∀ a ∈ more, Derives arityOf (calls.length + 1) (some 0) a (some 0)) ∧
        call.arity.accepts (finalCount call.args.length started ps more) = true ∧
        Closes arityOf calls call.outer.groups true rest := by
  constructor
  · rintro (_ | ⟨hd, hm, hc, ho⟩)
    exact ⟨_, _, _, rfl, hd, hm, hc, ho⟩
  · rintro ⟨ps, more, rest, rfl, hd, hm, hc, ho⟩
    exact .call hd hm hc ho

/-- A comma ends an argument that is not in a group. -/
theorem closes_comma {call : OpenCall} {calls : List OpenCall} {tree : Tree} {started : Bool}
    {cs : List Char}
    (h : Closes arityOf ({ call with args := tree :: call.args } :: calls) 0 false cs) :
    Closes arityOf (call :: calls) 0 started (',' :: cs) := by
  obtain ⟨ps, more, rest, rfl, hd, hm, hc, ho⟩ := Closes.call_iff.mp h
  refine Closes.call_iff.mpr ⟨[], ps :: more, rest, by simp [writtenAll, writtenMore], .nil, ?_, ?_,
    ho⟩
  · intro a ha
    rcases List.mem_cons.mp ha with rfl | ha
    · exact hd
    · exact hm a ha
  · have he : finalCount call.args.length started [] (ps :: more)
        = finalCount (call.args.length + 1) false ps more := by
      simp [finalCount]
      omega
    rw [he]
    exact hc

/-- A closing parenthesis ends the call, if the count is right. -/
theorem closes_close {st st' : State} {call : OpenCall} {calls : List OpenCall} {cs : List Char}
    (hs : st.closeCall call calls = .ok st') (h : Completes arityOf st' cs) :
    Closes arityOf (call :: calls) 0 (!st.draft.tree.isEmpty) (')' :: cs) := by
  unfold State.closeCall at hs
  simp only at hs
  split at hs
  · next hcount =>
    obtain rfl := Except.ok.inj hs
    have ho : Closes arityOf calls call.outer.groups true cs := by
      simpa only [Completes, tree_add_isEmpty, add_groups, Bool.not_false] using h
    refine Closes.call_iff.mpr ⟨[], [], cs, rfl, .nil, by simp, ?_, ho⟩
    have he : finalCount call.args.length (!st.draft.tree.isEmpty) [] []
        = (State.arguments (st.draft.tree :: call.args)).length := by
      unfold State.arguments finalCount
      cases ht : st.draft.tree <;> cases ha : call.args <;> simp
    rw [he]
    exact hcount
  · cases hs

theorem completes_plain {st st' : State} {p : Position} {c : Char} {cs : List Char}
    (hm : st.mode = .plain) (hs : st.plain p c = .ok st') (h : Completes arityOf st' cs) :
    Completes arityOf st (c :: cs) := by
  have goal : Completes arityOf st (c :: cs)
      = Closes arityOf st.calls st.draft.groups (!st.draft.tree.isEmpty) (c :: cs) := by
    unfold Completes
    rw [hm]
  rw [goal]
  rcases plain_cases hs with ⟨rfl, rfl⟩ | ⟨rfl, rfl⟩ | ⟨rfl, rfl⟩ | ⟨groups, rfl, hg⟩ |
    ⟨call, calls, hcalls, hgroups, ⟨rfl, rfl⟩ | ⟨rfl, hclose⟩⟩
  · -- a backslash
    obtain ⟨g, rest, hw, hg, hr⟩ := h
    rw [List.singleton_append] at hw
    rw [hw]
    exact hr.glyph hg
  · -- a call
    obtain ⟨name, arity, first, more, rest, rfl, hn, ha, hd, hf, hmore, hcount, hr⟩ := h
    simp only [endRun_groups] at hr
    have hw : '$' :: (name ++ '(' :: (writtenAll first ++ (writtenMore more ++ ')' :: rest)))
        = (Piece.call (String.ofList name) first more).written ++ rest := by
      simp [Piece.written]
    rw [hw]
    exact hr.piece (.call (by simpa using hn) ha hd hf hmore hcount)
  · -- a tag
    obtain ⟨name, rest, rfl, hchars, hcolon, hr⟩ := h
    simp only [endRun_groups] at hr
    have hw : '%' :: (name ++ '%' :: rest)
        = (Piece.tag (String.ofList name)).written ++ rest := by simp [Piece.written]
    rw [hw]
    exact hr.piece (.tag ⟨by simpa using hchars, by simpa using hcolon⟩)
  · exact (completes_pushed h).glyph hg
  · rw [hcalls, hgroups]
    simp only [Completes, hm] at h
    exact closes_comma h
  · rw [hcalls, hgroups]
    exact closes_close hclose h

theorem completes_escape {st st' : State} {p : Position} {c : Char} {cs : List Char}
    (hm : st.mode = .escape) (hs : st.escape p c = .ok st') (h : Completes arityOf st' cs) :
    Completes arityOf st (c :: cs) := by
  have goal : Completes arityOf st (c :: cs) = ClosesGlyph arityOf st ['\\'] (c :: cs) := by
    unfold Completes
    rw [hm]
  rw [goal]
  unfold State.escape at hs
  split at hs
  · next hc =>
    obtain rfl := Except.ok.inj hs
    exact ⟨.newline, cs, by rw [hc]; rfl, .newline, completes_push h⟩
  split at hs
  · next hc =>
    obtain rfl := Except.ok.inj hs
    exact ⟨.tab, cs, by rw [hc]; rfl, .tab, completes_push h⟩
  split at hs
  · next hc =>
    obtain rfl := Except.ok.inj hs
    rw [hc]
    exact h
  split at hs
  · next hc =>
    obtain rfl := Except.ok.inj hs
    exact ⟨.special c, cs, rfl, .special ((isSpecial_iff c).mp hc), completes_push h⟩
  · cases hs

/-- The reader keeps at most three digits before it decides. -/
theorem completes_unicode {st st' : State} {first : Position} {digits : List Char} {c : Char}
    {cs : List Char} (hm : st.mode = .unicode first digits) (hd : digits.length < 4)
    (hs : st.unicode first digits c = .ok st') (h : Completes arityOf st' cs) :
    Completes arityOf st (c :: cs) := by
  have goal : Completes arityOf st (c :: cs)
      = ClosesGlyph arityOf st ('\\' :: 'u' :: digits.reverse) (c :: cs) := by
    unfold Completes
    rw [hm]
  rw [goal]
  unfold State.unicode at hs
  simp only at hs
  split at hs
  · obtain rfl := Except.ok.inj hs
    obtain ⟨g, rest, hw, hr⟩ := h
    exact ⟨g, rest, by simpa using hw, hr⟩
  next hlen =>
  split at hs
  · next v hv =>
    obtain rfl := Except.ok.inj hs
    simp only [List.length_cons] at hlen
    obtain ⟨d₃, d₂, d₁, rfl⟩ := List.length_eq_three.mp (by omega : digits.length = 3)
    obtain ⟨n₁, n₂, n₃, n₄, h₁, h₂, h₃, h₄, hn⟩ := scalar?_eq_some_iff.mp hv
    exact ⟨.unicode d₁ d₂ d₃ c v, cs, rfl, .unicode h₁ h₂ h₃ h₄ hn, completes_push h⟩
  · cases hs

theorem completes_tag {st st' : State} {name : List Char} {colon : Bool} {p : Position} {c : Char}
    {cs : List Char} (hm : st.mode = .tag name colon) (hs : st.tagName name colon p c = .ok st')
    (h : Completes arityOf st' cs) : Completes arityOf st (c :: cs) := by
  simp only [Completes, hm]
  unfold State.tagName at hs
  split at hs
  · next hc =>
    obtain rfl := Except.ok.inj hs
    simp only [Completes, tree_add_isEmpty, add_groups] at h
    exact ⟨[], cs, by rw [hc]; rfl, by simp, by cases colon <;> simp, h⟩
  split at hs
  · next hc =>
    obtain rfl := Except.ok.inj hs
    obtain ⟨rest, cs, rfl, hw, hcolon, hr⟩ := h
    simp only [Bool.and_eq_true, decide_eq_true_eq, Bool.not_eq_true'] at hc
    obtain ⟨rfl, rfl⟩ := hc
    refine ⟨':' :: rest, cs, rfl, ?_, by simpa using hcolon, hr⟩
    simpa using hw
  next hcolon =>
  split at hs
  · next hc =>
    obtain rfl := Except.ok.inj hs
    obtain ⟨rest, cs, rfl, hw, hcount, hr⟩ := h
    have hword := (isNameChar_iff c).mp hc
    have hne : c ≠ ':' := by rintro rfl; revert hc; decide
    refine ⟨c :: rest, cs, rfl, ?_, by rwa [List.count_cons_of_ne hne], hr⟩
    rintro d (_ | ⟨_, hd⟩)
    · exact .inl hword
    · exact hw d hd
  · cases hs

theorem completes_function {st st' : State} {name : List Char} {dollar p : Position} {c : Char}
    {cs : List Char} (hm : st.mode = .function name dollar) (hb : st.calls.length ≤ maxNesting)
    (hs : st.functionName arityOf name dollar p c = .ok st') (h : Completes arityOf st' cs) :
    Completes arityOf st (c :: cs) := by
  simp only [Completes, hm]
  unfold State.functionName at hs
  split at hs
  · next hc =>
    unfold State.openCall at hs
    split at hs
    · cases hs
    next arity ha =>
    split at hs
    · cases hs
    next hdepth =>
    obtain rfl := Except.ok.inj hs
    obtain ⟨first, more, rest, rfl, hf, hmore, hcount, hr⟩ := Closes.call_iff.mp h
    have hcount : arity.accepts (argumentCount first more) = true := by
      rw [argumentCount_eq]
      exact hcount
    exact ⟨[], arity, first, more, rest, by rw [hc]; rfl, by simp [IsFunctionName],
      by simpa using ha, Nat.lt_of_le_of_ne hb hdepth, hf, hmore, hcount, hr⟩
  split at hs
  · next hc =>
    obtain rfl := Except.ok.inj hs
    obtain ⟨rest, arity, first, more, cs, rfl, hn, ha, hd, hr⟩ := h
    refine ⟨c :: rest, arity, first, more, cs, rfl, ?_, by simpa using ha, hd, hr⟩
    rintro d (_ | ⟨_, hd⟩)
    · exact (isNameChar_iff c).mp hc
    · exact hn d hd
  · cases hs

/-! ## Whole runs -/

/-- The digits behind `\u` that have been read. -/
def modeDigits : Mode → List Char
  | .unicode _ digits => digits
  | _ => []

/-- What the steps above need to know of the states that a run goes through. -/
structure Bounded (st : State) : Prop where
  nesting : st.calls.length ≤ maxNesting
  digits : (modeDigits st.mode).length < 4

theorem bounded_of_no_digits {st : State} (hm : modeDigits st.mode = [])
    (hn : st.calls.length ≤ maxNesting) : Bounded st :=
  ⟨hn, by rw [hm]; exact Nat.zero_lt_succ 3⟩

theorem step_bounded {st st' : State} {p : Position} {c : Char} (hb : Bounded st)
    (hs : st.step arityOf p c = .ok st') : Bounded st' := by
  have hn := hb.nesting
  cases hm : st.mode with
  | plain =>
    rw [State.step, hm] at hs
    rcases plain_cases hs with ⟨-, rfl⟩ | ⟨-, rfl⟩ | ⟨-, rfl⟩ | ⟨groups, rfl, -⟩ |
      ⟨call, calls, hcalls, -, ⟨-, rfl⟩ | ⟨-, hclose⟩⟩
    · exact bounded_of_no_digits rfl hn
    · exact bounded_of_no_digits rfl hn
    · exact bounded_of_no_digits rfl hn
    · exact bounded_of_no_digits rfl hn
    · exact bounded_of_no_digits (congrArg modeDigits hm) (by simpa [hcalls] using hn)
    · simp only [State.closeCall] at hclose
      split at hclose
      · obtain rfl := Except.ok.inj hclose
        rw [hcalls, List.length_cons] at hn
        exact bounded_of_no_digits rfl (Nat.le_of_succ_le hn)
      · cases hclose
  | escape =>
    rw [State.step, hm] at hs
    simp only [State.escape] at hs
    split_ifs at hs <;> obtain rfl := Except.ok.inj hs
    · exact bounded_of_no_digits rfl hn
    · exact bounded_of_no_digits rfl hn
    · exact bounded_of_no_digits rfl hn
    · exact bounded_of_no_digits rfl hn
  | unicode first digits =>
    rw [State.step, hm] at hs
    simp only [State.unicode] at hs
    split at hs
    · next hlen =>
      obtain rfl := Except.ok.inj hs
      exact ⟨hn, hlen⟩
    split at hs
    · obtain rfl := Except.ok.inj hs
      exact bounded_of_no_digits rfl hn
    · cases hs
  | tag name colon =>
    rw [State.step, hm] at hs
    simp only [State.tagName] at hs
    split_ifs at hs <;> obtain rfl := Except.ok.inj hs <;> exact bounded_of_no_digits rfl hn
  | function name dollar =>
    rw [State.step, hm] at hs
    simp only [State.functionName] at hs
    split at hs
    · simp only [State.openCall] at hs
      split at hs
      · cases hs
      split at hs
      · cases hs
      · next hdepth =>
        obtain rfl := Except.ok.inj hs
        exact bounded_of_no_digits rfl (Nat.lt_of_le_of_ne hn hdepth)
    split at hs
    · obtain rfl := Except.ok.inj hs
      exact bounded_of_no_digits rfl hn
    · cases hs

/-- One step back: what completes the next state completes the present one behind the character
that was read. -/
theorem completes_step {st st' : State} {p : Position} {c : Char} {cs : List Char}
    (hb : Bounded st) (hs : st.step arityOf p c = .ok st') (h : Completes arityOf st' cs) :
    Completes arityOf st (c :: cs) := by
  cases hm : st.mode with
  | plain =>
    rw [State.step, hm] at hs
    exact completes_plain hm hs h
  | escape =>
    rw [State.step, hm] at hs
    exact completes_escape hm hs h
  | unicode first digits =>
    rw [State.step, hm] at hs
    have hd := hb.digits
    rw [hm] at hd
    exact completes_unicode hm hd hs h
  | tag name colon =>
    rw [State.step, hm] at hs
    exact completes_tag hm hs h
  | function name dollar =>
    rw [State.step, hm] at hs
    exact completes_function hm hb.nesting hs h

/-- The invariant over a run to a state in which a script may end. -/
theorem completes_run {st st' : State} {p p' : Position} {cs : List Char} (hb : Bounded st)
    (h : Cursor.foldFrom (State.step arityOf) st p cs = .ok (st', p'))
    (hm : st'.mode = .plain) (hc : st'.calls = []) : Completes arityOf st cs := by
  induction cs generalizing st p with
  | nil =>
    cases h
    simp only [Completes, hm, hc]
    exact .top .nil
  | cons c cs ih =>
    rw [Cursor.foldFrom] at h
    split at h
    · next st₁ hs => exact completes_step hb hs (ih (step_bounded hb hs) h)
    · cases h

theorem finish_ok {st : State} {p : Position} {tree : Tree} (h : st.finish p = .ok tree) :
    st.mode = .plain ∧ st.calls = [] := by
  unfold State.finish at h
  split at h
  · next hm hc => exact ⟨hm, hc⟩
  · cases h

/-- A source that is read has a derivation, and its tree is the tree of the derivation. -/
theorem derivation_of_parse {source : String} {tree : Tree}
    (h : parse arityOf source = .ok tree) :
    ∃ d : Derivation arityOf, d.source = source ∧ d.tree = tree := by
  have hparse := h
  unfold parse at h
  split at h
  · next st p hf =>
    obtain ⟨hm, hc⟩ := finish_ok h
    have hrun : Completes arityOf {} source.toList :=
      completes_run (bounded_of_no_digits rfl (by decide)) hf hm hc
    obtain ⟨ps, hd, hw⟩ : ∃ ps, Derives arityOf 0 none ps none ∧ writtenAll ps = source.toList := by
      generalize source.toList = cs at hrun
      cases hrun with
      | top hd => exact ⟨_, hd, rfl⟩
    have hsource : (Derivation.mk ps hd).source = source := by
      rw [Derivation.source, hw, String.ofList_toList]
    refine ⟨⟨ps, hd⟩, hsource, ?_⟩
    have hread := parse_source ⟨ps, hd⟩
    rw [hsource, hparse] at hread
    exact (Except.ok.inj hread).symm
  · cases h

end Retag.Script.Grammar

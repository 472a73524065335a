import Retag.Proofs.Grammar.Recovery

/-!
# Errors are final

The reader never looks ahead, so an error that it reports stands whatever follows. That the script
ends too early is no such error: no step reports it, and it is reported at the end only.
-/

namespace Retag.Script.Grammar

open Retag.Script.Parser

/-! ## Reading on -/

theorem afterAll_append (p : Position) (xs ys : List Char) :
    p.afterAll (xs ++ ys) = (p.afterAll xs).afterAll ys := List.foldl_append

theorem offset_after (p : Position) (c : Char) : (p.after c).offset = p.offset + 1 := by
  unfold Position.after
  split <;> rfl

theorem offset_afterAll (p : Position) (cs : List Char) :
    (p.afterAll cs).offset = p.offset + cs.length := by
  induction cs generalizing p with
  | nil => rfl
  | cons c cs ih =>
    have h := ih (p.after c)
    rw [offset_after] at h
    rw [List.length_cons, ← Nat.add_assoc, Nat.add_right_comm, ← h]
    rfl

section Fold

variable {σ ε : Type} {step : σ → Position → Char → Except ε σ}

/-- Where reading ends depends on what was read only. -/
theorem foldFrom_place {st st' : σ} {p p' : Position} {cs : List Char}
    (h : Cursor.foldFrom step st p cs = .ok (st', p')) : p' = p.afterAll cs := by
  induction cs generalizing st p with
  | nil =>
    obtain ⟨-, rfl⟩ := Prod.mk.inj (Except.ok.inj h)
    rfl
  | cons c cs ih =>
    rw [Cursor.foldFrom] at h
    split at h
    · exact ih h
    · cases h

theorem foldFrom_append (st : σ) (p : Position) (xs ys : List Char) :
    Cursor.foldFrom step st p (xs ++ ys) = match Cursor.foldFrom step st p xs with
      | .ok (st', p') => Cursor.foldFrom step st' p' ys
      | .error e => .error e := by
  induction xs generalizing st p with
  | nil => rfl
  | cons c cs ih =>
    rw [List.cons_append, Cursor.foldFrom, Cursor.foldFrom]
    cases step st p c with
    | ok st' => exact ih st' (p.after c)
    | error e => rfl

/-- What holds of all errors of the steps holds of the error of a run. -/
theorem foldFrom_error {P : ε → Prop} (hstep : ∀ st p c e, step st p c = .error e → P e)
    {st : σ} {p : Position} {cs : List Char} {e : ε}
    (h : Cursor.foldFrom step st p cs = .error e) : P e := by
  induction cs generalizing st p with
  | nil => cases h
  | cons c cs ih =>
    rw [Cursor.foldFrom] at h
    split at h
    · exact ih h
    · next hs =>
      obtain rfl := Except.error.inj h
      exact hstep _ _ _ _ hs

end Fold

variable {arityOf : String → Option Arity}

/-- A script is read to its end and then finished there, or an error comes before. -/
theorem parse_eq (source : String) :
    parse arityOf source = match Cursor.foldFrom (State.step arityOf) {} .start source.toList with
      | .ok (st, _) => st.finish (Position.start.afterAll source.toList)
      | .error e => .error e := by
  have hparse : parse arityOf source
      = match Cursor.foldFrom (State.step arityOf) {} .start source.toList with
        | .ok (st, p) => st.finish p
        | .error e => .error e := rfl
  rw [hparse]
  rcases hf : Cursor.foldFrom (State.step arityOf) {} .start source.toList with e | ⟨st, p⟩
  · rfl
  · obtain rfl := foldFrom_place hf
    rfl

/-! ## The end of the script -/

theorem closeCall_error {st : State} {call : OpenCall} {calls : List OpenCall} {e : ParseError}
    (h : st.closeCall call calls = .error e) :
    ∃ n, e = ⟨.wrongCount call.name call.arity n, call.position⟩ := by
  unfold State.closeCall at h
  dsimp only at h
  split at h
  · cases h
  · exact ⟨_, (Except.error.inj h).symm⟩

theorem plain_error {st : State} {p : Position} {c : Char} {e : ParseError}
    (h : st.plain p c = .error e) :
    e = ⟨.unexpected c, p⟩ ∨
    ∃ call ∈ st.calls, ∃ n, e = ⟨.wrongCount call.name call.arity n, call.position⟩ := by
  obtain ⟨_ | ⟨call, calls⟩, draft, mode⟩ := st
  · dsimp only [State.plain] at h
    split_ifs at h
    exact .inl (Except.error.inj h).symm
  · dsimp only [State.plain] at h
    split_ifs at h
    exact .inr ⟨call, List.mem_cons_self .., closeCall_error h⟩

theorem functionName_error {st : State} {name : List Char} {dollar p : Position} {c : Char}
    {e : ParseError} (h : st.functionName arityOf name dollar p c = .error e) :
    e = ⟨.unexpected c, p⟩ ∨
    c = '(' ∧ e.position = dollar ∧ (e.fault = .unknownFunction (String.ofList name.reverse) ∨
      e.fault = .tooDeep (String.ofList name.reverse)) := by
  unfold State.functionName at h
  split at h
  · next hc =>
    unfold State.openCall at h
    split at h
    · obtain rfl := Except.error.inj h
      exact .inr ⟨hc, rfl, .inl rfl⟩
    split at h
    · obtain rfl := Except.error.inj h
      exact .inr ⟨hc, rfl, .inr rfl⟩
    · cases h
  split at h
  · cases h
  · exact .inl (Except.error.inj h).symm

/-- Every error of a step, with what the state and the character say of it. -/
theorem step_error {st : State} {p : Position} {c : Char} {e : ParseError}
    (h : st.step arityOf p c = .error e) :
    e = ⟨.unexpected c, p⟩ ∨
    (∃ first digits, st.mode = .unicode first digits ∧ 3 ≤ digits.length ∧
      e = ⟨.notUnicode (String.ofList (c :: digits).reverse), first⟩) ∨
    (∃ name dollar, st.mode = .function name dollar ∧ c = '(' ∧ e.position = dollar ∧
      (e.fault = .unknownFunction (String.ofList name.reverse) ∨
        e.fault = .tooDeep (String.ofList name.reverse))) ∨
    (∃ call ∈ st.calls, ∃ n, e = ⟨.wrongCount call.name call.arity n, call.position⟩) := by
  cases hm : st.mode with
  | plain =>
    replace h : st.plain p c = .error e := by rwa [State.step, hm] at h
    exact (plain_error h).imp_right fun hcall => .inr (.inr hcall)
  | escape =>
    replace h : st.escape p c = .error e := by rwa [State.step, hm] at h
    unfold State.escape at h
    split_ifs at h
    exact .inl (Except.error.inj h).symm
  | unicode first digits =>
    replace h : st.unicode first digits c = .error e := by rwa [State.step, hm] at h
    unfold State.unicode at h
    dsimp only at h
    split at h
    · cases h
    next hlen =>
    rw [List.length_cons] at hlen
    split at h
    · cases h
    · exact .inr (.inl ⟨first, digits, rfl, by omega, (Except.error.inj h).symm⟩)
  | tag name colon =>
    replace h : st.tagName name colon p c = .error e := by rwa [State.step, hm] at h
    unfold State.tagName at h
    split_ifs at h
    exact .inl (Except.error.inj h).symm
  | function name dollar =>
    replace h : st.functionName arityOf name dollar p c = .error e := by rwa [State.step, hm] at h
    rcases functionName_error h with he | hopen
    · exact .inl he
    · exact .inr (.inr (.inl ⟨name, dollar, rfl, hopen⟩))

theorem step_error_ne_end {st : State} {p : Position} {c : Char} {e : ParseError}
    (h : st.step arityOf p c = .error e) : e.fault ≠ .endOfScript := by
  rcases step_error h with rfl | ⟨first, digits, -, -, rfl⟩ | ⟨name, dollar, -, -, -, hf | hf⟩ |
    ⟨call, -, n, rfl⟩
  · exact nofun
  · exact nofun
  · rw [hf]
    exact nofun
  · rw [hf]
    exact nofun
  · exact nofun

theorem finish_error {st : State} {p : Position} {e : ParseError} (h : st.finish p = .error e) :
    e = ⟨.endOfScript, p⟩ := by
  unfold State.finish at h
  split at h
  · cases h
  · exact (Except.error.inj h).symm

/-- An error is one of a step, or the script ends too early and the error is at its end. -/
theorem parse_error_cases {source : String} {e : ParseError}
    (h : parse arityOf source = .error e) :
    (Cursor.foldFrom (State.step arityOf) {} .start source.toList = .error e ∧
      e.fault ≠ .endOfScript) ∨
    e = ⟨.endOfScript, Position.start.afterAll source.toList⟩ := by
  rw [parse_eq] at h
  split at h
  · exact .inr (finish_error h)
  · next hf =>
    obtain rfl := Except.error.inj h
    exact .inl ⟨hf, foldFrom_error (fun _ _ _ _ => step_error_ne_end) hf⟩

/-- An error that is not the end of the script is the error of every longer script. -/
theorem parse_append_of_error {source : String} {e : ParseError}
    (h : parse arityOf source = .error e) (he : e.fault ≠ .endOfScript) (rest : String) :
    parse arityOf (source ++ rest) = .error e := by
  rcases parse_error_cases h with ⟨hf, -⟩ | rfl
  · rw [parse_eq, String.toList_append, foldFrom_append, hf]
  · exact absurd rfl he

/-- Errors are final, and only the end of a script shows that it ends too early: every other error
is also the error of every longer script, the early end is reported at the end, and so a script that
begins one without faults has none either or ends too early. -/
theorem errors_final (arityOf : String → Option Arity) :
    (∀ (source rest : String) (e : ParseError), parse arityOf source = .error e →
      e.fault ≠ .endOfScript → parse arityOf (source ++ rest) = .error e) ∧
    (∀ (source : String) (p : Position), parse arityOf source = .error ⟨.endOfScript, p⟩ →
      p.offset = source.length ∧ p = Position.start.afterAll source.toList) ∧
    (∀ (source rest : String) (tree : Tree), parse arityOf (source ++ rest) = .ok tree →
      (∃ t, parse arityOf source = .ok t) ∨
        ∃ p, parse arityOf source = .error ⟨.endOfScript, p⟩ ∧ p.offset = source.length) := by
  have at_end (source : String) :
      (Position.start.afterAll source.toList).offset = source.length := by
    rw [offset_afterAll, String.length_toList]
    exact Nat.zero_add _
  refine ⟨fun source rest e h he => parse_append_of_error h he rest, ?_, ?_⟩
  · intro source p h
    rcases parse_error_cases h with ⟨-, he⟩ | he
    · exact absurd rfl he
    · obtain rfl : p = _ := congrArg ParseError.position he
      exact ⟨at_end source, rfl⟩
  · intro source rest tree h
    rcases hs : parse arityOf source with e | t
    · rcases parse_error_cases hs with ⟨-, he⟩ | rfl
      · rw [parse_append_of_error hs he rest] at h
        cases h
      · exact .inr ⟨_, rfl, at_end source⟩
    · exact .inl ⟨t, rfl⟩

/-- A bad escape stays one in a longer script, and a call that is cut off ends too early. -/
theorem errors_final_cut :
    let arityOf : String → Option Arity := fun name =>
      if name = "f" then some (.between 0 2) else none
    let bad : ParseError := ⟨.unexpected 'x', ⟨2, 2, 3⟩⟩
    (parse arityOf "a\n\\x" = .error bad ∧ parse arityOf ("a\n\\x" ++ "$f(") = .error bad) ∧
    (parse arityOf "a\n$f(" = .error ⟨.endOfScript, ⟨2, 4, 5⟩⟩ ∧ (5 : Nat) = "a\n$f(".length) ∧
    (parse arityOf ("a\n$f(" ++ "b)") = .ok [.text "a\n", .call "f" [[.text "b"]] ⟨2, 1, 2⟩] ∧
      ((∃ t, parse arityOf "a\n$f(" = .ok t) ∨
        ∃ p, parse arityOf "a\n$f(" = .error ⟨.endOfScript, p⟩ ∧ p.offset = "a\n$f(".length)) := by
  intro arityOf bad
  have hbad : parse arityOf "a\n\\x" = .error bad := rfl
  have hcut : parse arityOf "a\n$f(" = .error ⟨.endOfScript, ⟨2, 4, 5⟩⟩ := rfl
  have hwhole : parse arityOf ("a\n$f(" ++ "b)")
      = .ok [.text "a\n", .call "f" [[.text "b"]] ⟨2, 1, 2⟩] := rfl
  exact ⟨⟨hbad, (errors_final arityOf).1 _ _ _ hbad nofun⟩,
    ⟨hcut, ((errors_final arityOf).2.1 _ _ hcut).1⟩,
    ⟨hwhole, (errors_final arityOf).2.2 _ _ _ hwhole⟩⟩

end Retag.Script.Grammar

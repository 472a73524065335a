import Mathlib.Data.List.Induction
import Retag.Proofs.Grammar.Finality
import Retag.Proofs.Grammar.Trees

/-!
# Places are true to the source

A place counts the characters, lines and columns of the source up to it, and what an error or a call
says of the source is written at its place. For errors the invariant is about what the reader has
read: a name, an escape or an open call is the end of it or a part of it. The places of the calls of
a tree are read off its derivation.
-/

namespace Retag.Script

/-- The line and the column of the place `p` are those of its offset in the text `cs`: one more than
the line ends before it, and one more than the characters since the last of them. -/
structure Position.TrueTo (p : Position) (cs : List Char) : Prop where
  offset : p.offset ≤ cs.length
  line : p.line = 1 + (cs.take p.offset).count '\n'
  column : p.column = 1 + ((cs.take p.offset).reverse.takeWhile (· ≠ '\n')).length

/-- The text `cs` goes on with `part` behind its first `offset` characters. -/
def HoldsAt (cs : List Char) (offset : Nat) (part : List Char) : Prop := part <+: cs.drop offset

/-- What a call of `name` starts with. -/
def opening (name : String) : List Char := '$' :: (name.toList ++ ['('])

/-- The text `cs` shows at `offset` what a fault says of it. -/
def ParseFault.ShownAt (cs : List Char) (offset : Nat) : ParseFault → Prop
  | .endOfScript => True
  | .unexpected c => HoldsAt cs offset [c]
  | .notUnicode digits => digits.length = 4 ∧ 2 ≤ offset ∧
      HoldsAt cs (offset - 2) ('\\' :: 'u' :: digits.toList)
  | .unknownFunction name => HoldsAt cs offset (opening name)
  | .wrongCount name _ _ => HoldsAt cs offset (opening name)
  | .tooDeep name => HoldsAt cs offset (opening name)

namespace Grammar

open Retag.Script.Parser

/-! ## Places behind a text -/

theorem offset_start (cs : List Char) : (Position.start.afterAll cs).offset = cs.length := by
  rw [offset_afterAll]
  exact Nat.zero_add _

theorem afterAll_concat (p : Position) (cs : List Char) (c : Char) :
    p.afterAll (cs ++ [c]) = (p.afterAll cs).after c := afterAll_append p cs [c]

theorem line_start (cs : List Char) :
    (Position.start.afterAll cs).line = 1 + cs.count '\n' := by
  induction cs using List.reverseRecOn with
  | nil => rfl
  | append_singleton cs c ih =>
    rw [afterAll_concat, Position.after, List.count_append]
    by_cases hc : c = '\n'
    · rw [if_pos hc, ih, hc, List.count_singleton_self, Nat.add_assoc]
    · rw [if_neg hc, ih, List.count_singleton, if_neg (by simpa using hc), Nat.add_zero]

theorem column_start (cs : List Char) :
    (Position.start.afterAll cs).column = 1 + (cs.reverse.takeWhile (· ≠ '\n')).length := by
  induction cs using List.reverseRecOn with
  | nil => rfl
  | append_singleton cs c ih =>
    rw [afterAll_concat, Position.after, List.reverse_concat]
    by_cases hc : c = '\n'
    · rw [if_pos hc, List.takeWhile_cons_of_neg (by simpa using hc)]
      rfl
    · rw [if_neg hc, List.takeWhile_cons_of_pos (by simpa using hc), List.length_cons, ih,
        Nat.add_assoc]

/-- Where reading gets to is a true place of every text that starts with what was read. -/
theorem trueTo_start (cs rest : List Char) :
    (Position.start.afterAll cs).TrueTo (cs ++ rest) := by
  have htake : (cs ++ rest).take (Position.start.afterAll cs).offset = cs := by
    rw [offset_start, List.take_left]
  refine ⟨?_, ?_, ?_⟩
  · rw [offset_start, List.length_append]
    omega
  · rw [htake, line_start]
  · rw [htake, column_start]

theorem holdsAt_start (before part rest : List Char) :
    HoldsAt (before ++ (part ++ rest)) (Position.start.afterAll before).offset part := by
  rw [HoldsAt, offset_start, List.drop_left]
  exact List.prefix_append part rest

/-! ## What the reader has read -/

/-- The characters `read` open a call of `name` at the place `p`. -/
def Opens (read : List Char) (name : String) (p : Position) : Prop :=
  ∃ before rest, read = before ++ (opening name ++ rest) ∧ p = Position.start.afterAll before

theorem Opens.append {read : List Char} {name : String} {p : Position} (h : Opens read name p)
    (more : List Char) : Opens (read ++ more) name p := by
  obtain ⟨before, rest, rfl, rfl⟩ := h
  exact ⟨before, rest ++ more, by simp only [List.append_assoc], rfl⟩

theorem Opens.shown {read : List Char} {name : String} {p : Position} (h : Opens read name p) :
    p.TrueTo read ∧ HoldsAt read p.offset (opening name) := by
  obtain ⟨before, rest, rfl, rfl⟩ := h
  exact ⟨trueTo_start _ _, holdsAt_start _ _ _⟩

/-- What has been read ends in what the mode says of it. -/
def ModeShown (read : List Char) : Mode → Prop
  | .plain => True
  | .escape => ∃ before, read = before ++ ['\\']
  | .unicode first digits => ∃ before, read = before ++ ('\\' :: 'u' :: digits.reverse) ∧
      first = Position.start.afterAll (before ++ ['\\', 'u'])
  | .tag _ _ => True
  | .function name dollar => ∃ before, read = before ++ '$' :: name.reverse ∧
      dollar = Position.start.afterAll before

/-- The state is true to what has been read. -/
structure Shown (read : List Char) (st : State) : Prop where
  mode : ModeShown read st.mode
  calls : ∀ call ∈ st.calls, Opens read call.name call.position

variable {arityOf : String → Option Arity}

/-- A step that opens and closes no call only has to account for its mode. -/
theorem Shown.same {read : List Char} {c : Char} {st st' : State} (h : Shown read st)
    (hc : st'.calls = st.calls) (hm : ModeShown (read ++ [c]) st'.mode) :
    Shown (read ++ [c]) st' := by
  refine ⟨hm, fun call hcall => ?_⟩
  rw [hc] at hcall
  exact (h.calls call hcall).append [c]

/-- A name that the reader has read becomes the opening of a call at its parenthesis. -/
theorem ModeShown.opens {read : List Char} {name : List Char} {dollar : Position}
    (h : ModeShown read (.function name dollar)) (rest : List Char) :
    Opens (read ++ '(' :: rest) (String.ofList name.reverse) dollar := by
  obtain ⟨before, rfl, rfl⟩ := h
  exact ⟨before, rest, by simp [opening], rfl⟩

theorem shown_plain {read : List Char} {st st' : State} {c : Char} (h : Shown read st)
    (hm : st.mode = .plain) (hs : st.plain (Position.start.afterAll read) c = .ok st') :
    Shown (read ++ [c]) st' := by
  rcases plain_cases hs with ⟨rfl, rfl⟩ | ⟨rfl, rfl⟩ | ⟨-, rfl⟩ | ⟨groups, rfl, -⟩ |
    ⟨call, calls, hcalls, -, ⟨-, rfl⟩ | ⟨-, hclose⟩⟩
  · exact h.same rfl ⟨read, rfl⟩
  · exact h.same rfl ⟨read, rfl, rfl⟩
  · exact h.same rfl trivial
  · exact h.same rfl trivial
  · -- at a comma the call gets one more argument and stays where it is
    have hopen := h.calls call (by rw [hcalls]; exact List.mem_cons_self ..)
    refine ⟨by rw [hm]; trivial, ?_⟩
    rintro new (_ | ⟨_, hnew⟩)
    · exact hopen.append [c]
    · exact (h.calls new (by rw [hcalls]; exact List.mem_cons_of_mem _ hnew)).append [c]
  · simp only [State.closeCall] at hclose
    split at hclose
    · obtain rfl := Except.ok.inj hclose
      refine ⟨trivial, fun new hnew => ?_⟩
      exact (h.calls new (by rw [hcalls]; exact List.mem_cons_of_mem _ hnew)).append [c]
    · cases hclose

theorem shown_functionName {read name : List Char} {dollar : Position} {st st' : State} {c : Char}
    (h : Shown read st) (hmode : ModeShown read (.function name dollar))
    (hs : st.functionName arityOf name dollar (Position.start.afterAll read) c = .ok st') :
    Shown (read ++ [c]) st' := by
  simp only [State.functionName] at hs
  split at hs
  · next hc =>
    simp only [State.openCall] at hs
    split at hs
    · cases hs
    split at hs
    · cases hs
    obtain rfl := Except.ok.inj hs
    refine ⟨trivial, ?_⟩
    rintro call (_ | ⟨_, hcall⟩)
    · rw [hc]
      exact hmode.opens []
    · exact (h.calls call hcall).append [c]
  split at hs
  · obtain rfl := Except.ok.inj hs
    obtain ⟨before, hread, hdollar⟩ := hmode
    exact h.same rfl ⟨before, by simp [hread], hdollar⟩
  · cases hs

theorem shown_step {read : List Char} {st st' : State} {c : Char} (h : Shown read st)
    (hs : st.step arityOf (Position.start.afterAll read) c = .ok st') :
    Shown (read ++ [c]) st' := by
  have hmode := h.mode
  cases hm : st.mode with
  | plain =>
    rw [State.step, hm] at hs
    exact shown_plain h hm hs
  | escape =>
    rw [State.step, hm] at hs
    rw [hm] at hmode
    obtain ⟨before, hread⟩ := hmode
    simp only [State.escape] at hs
    split_ifs at hs with hn ht hu <;> obtain rfl := Except.ok.inj hs
    · exact h.same rfl trivial
    · exact h.same rfl trivial
    · refine h.same rfl ⟨before, by simp [hread, hu], ?_⟩
      rw [hread, hu, ← afterAll_concat, List.append_assoc]
      rfl
    · exact h.same rfl trivial
  | unicode first digits =>
    rw [State.step, hm] at hs
    rw [hm] at hmode
    obtain ⟨before, hread, hfirst⟩ := hmode
    simp only [State.unicode] at hs
    split at hs
    · obtain rfl := Except.ok.inj hs
      exact h.same rfl ⟨before, by simp [hread], hfirst⟩
    split at hs
    · obtain rfl := Except.ok.inj hs
      exact h.same rfl trivial
    · cases hs
  | tag name colon =>
    rw [State.step, hm] at hs
    simp only [State.tagName] at hs
    split_ifs at hs <;> obtain rfl := Except.ok.inj hs <;> exact h.same rfl trivial
  | function name dollar =>
    rw [State.step, hm] at hs
    rw [hm] at hmode
    exact shown_functionName h hmode hs

/-! ## Errors -/

/-- The place of an error and what it says are true to the text `cs`. -/
structure ErrorShown (cs : List Char) (e : ParseError) : Prop where
  place : e.position.TrueTo cs
  fault : e.fault.ShownAt cs e.position.offset

theorem shown_error {read : List Char} {st : State} {c : Char} {e : ParseError} (h : Shown read st)
    (hb : Bounded st) (hs : st.step arityOf (Position.start.afterAll read) c = .error e)
    (rest : List Char) : ErrorShown (read ++ c :: rest) e := by
  have hmode := h.mode
  rcases step_error hs with rfl | ⟨first, digits, hm, hlen, rfl⟩ |
    ⟨name, dollar, hm, rfl, hp, hfault⟩ | ⟨call, hcall, n, rfl⟩
  · exact ⟨trueTo_start read _, holdsAt_start read [c] rest⟩
  · -- three digits have been read, and `c` is the fourth
    rw [hm] at hmode
    obtain ⟨before, rfl, rfl⟩ := hmode
    have hdigits := hb.digits
    rw [hm] at hdigits
    have hfour : (c :: digits).reverse.length = 4 := by
      rw [List.length_reverse, List.length_cons]
      exact congrArg (· + 1) (Nat.le_antisymm (Nat.le_of_lt_succ hdigits) hlen)
    have htext : before ++ ('\\' :: 'u' :: digits.reverse) ++ c :: rest
        = before ++ ['\\', 'u'] ++ ((c :: digits).reverse ++ rest) := by simp
    have hoffset : (Position.start.afterAll (before ++ ['\\', 'u'])).offset
        = before.length + 2 := by
      rw [offset_start, List.length_append]
      rfl
    refine ⟨htext ▸ trueTo_start _ _, ?_⟩
    simp only [ParseFault.ShownAt, String.length_ofList, String.toList_ofList]
    refine ⟨hfour, by omega, ?_⟩
    rw [hoffset, Nat.add_sub_cancel, ← offset_start before, htext, List.append_assoc]
    exact holdsAt_start before ('\\' :: 'u' :: (c :: digits).reverse) rest
  · rw [hm] at hmode
    have hopens := (hmode.opens rest).shown
    rw [← hp] at hopens
    refine ⟨hopens.1, ?_⟩
    rcases hfault with hf | hf
    · rw [hf]
      exact hopens.2
    · rw [hf]
      exact hopens.2
  · have hopens := ((h.calls call hcall).append (c :: rest)).shown
    exact ⟨hopens.1, hopens.2⟩

/-- The invariant over a run up to its error. -/
theorem shown_run {read cs : List Char} {st : State} {e : ParseError} (h : Shown read st)
    (hb : Bounded st)
    (hf : Cursor.foldFrom (State.step arityOf) st (Position.start.afterAll read) cs = .error e) :
    ErrorShown (read ++ cs) e := by
  induction cs generalizing read st with
  | nil => cases hf
  | cons c cs ih =>
    rw [Cursor.foldFrom] at hf
    split at hf
    · next st' hs =>
      rw [← afterAll_concat] at hf
      rw [List.append_cons]
      exact ih (shown_step h hs) (step_bounded hb hs) hf
    · next hs =>
      obtain rfl := Except.error.inj hf
      exact shown_error h hb hs cs

/-- Every error of reading is shown by the source. -/
theorem errorShown_of_parse {source : String} {e : ParseError}
    (h : parse arityOf source = .error e) : ErrorShown source.toList e := by
  have hstart : Shown [] {} := ⟨trivial, fun _ hc => absurd hc List.not_mem_nil⟩
  rcases parse_error_cases h with ⟨hf, -⟩ | rfl
  · exact shown_run hstart (bounded_of_no_digits rfl (Nat.zero_le _)) hf
  · have hplace := trueTo_start source.toList []
    rw [List.append_nil] at hplace
    exact ⟨hplace, trivial⟩

/-! ## Calls -/

/-- The calls stand in the text `cs`, which starts at `p`, one behind the other. -/
structure CallsIn (cs : List Char) (p : Position) (calls : List (String × Position)) : Prop where
  opened : ∀ call ∈ calls, ∃ before rest, cs = before ++ (opening call.1 ++ rest) ∧
    call.2 = p.afterAll before
  increasing : calls.Pairwise fun a b => a.2.offset < b.2.offset

theorem CallsIn.none (cs : List Char) (p : Position) : CallsIn cs p [] := ⟨nofun, .nil⟩

theorem CallsIn.opening (name : String) (p : Position) :
    CallsIn (opening name) p [(name, p)] := by
  refine ⟨fun call hc => ?_, List.pairwise_singleton _ _⟩
  obtain rfl := List.mem_singleton.mp hc
  exact ⟨[], [], by simp, rfl⟩

theorem CallsIn.append {xs ys : List Char} {p : Position} {as bs : List (String × Position)}
    (hx : CallsIn xs p as) (hy : CallsIn ys (p.afterAll xs) bs) :
    CallsIn (xs ++ ys) p (as ++ bs) := by
  constructor
  · intro call hc
    rcases List.mem_append.mp hc with hc | hc
    · obtain ⟨before, rest, rfl, hp⟩ := hx.opened call hc
      exact ⟨before, rest ++ ys, by simp only [List.append_assoc], hp⟩
    · obtain ⟨before, rest, rfl, hp⟩ := hy.opened call hc
      exact ⟨xs ++ before, rest, by rw [List.append_assoc], by rw [hp, afterAll_append]⟩
  · refine List.pairwise_append.mpr ⟨hx.increasing, hy.increasing, fun a ha b hb => ?_⟩
    obtain ⟨before, rest, hxs, hpa⟩ := hx.opened a ha
    obtain ⟨before', rest', -, hpb⟩ := hy.opened b hb
    have hlen := congrArg List.length hxs
    simp only [List.length_append, Script.opening, List.length_cons] at hlen
    rw [hpa, hpb]
    simp only [offset_afterAll]
    omega

theorem callsIn_treesAt {more : List (List Piece)}
    (ih : ∀ a ∈ more, ∀ p, CallsIn (writtenAll a) p (callsOf (treeAt a p))) (p : Position) :
    CallsIn (writtenMore more) p (callsOfAll (treesAt more p)) := by
  induction more generalizing p with
  | nil => exact .none _ _
  | cons a rest ihr =>
    have hrest := ihr (fun b hb => ih b (List.mem_cons_of_mem _ hb))
      ((p.after ',').afterAll (writtenAll a))
    exact (CallsIn.none [','] p).append ((ih a (List.mem_cons_self ..) (p.after ',')).append hrest)

theorem callsOf_arguments (first : List Piece) (more : List (List Piece)) (p q : Position) :
    callsOfAll (if first.isEmpty && more.isEmpty then [] else treeAt first p :: treesAt more q)
      = callsOf (treeAt first p) ++ callsOfAll (treesAt more q) := by
  split
  · next h =>
    simp only [Bool.and_eq_true, List.isEmpty_iff] at h
    obtain ⟨rfl, rfl⟩ := h
    rfl
  · rfl

/-- The calls of pieces stand in what the pieces are written as. -/
theorem Derives.callsIn {depth : Nat} {l l' : Level} {ps : List Piece}
    (h : Derives arityOf depth l ps l') (p : Position) :
    CallsIn (writtenAll ps) p (callsOf (treeAt ps p)) := by
  induction h generalizing p with
  | nil => exact .none _ _
  | text _ _ _ _ ih => exact (CallsIn.none _ p).append (ih _)
  | tag _ _ ih => exact (CallsIn.none _ p).append (ih _)
  | @call depth l l₂ name arity first rest more _ _ _ _ _ _ _ ihf ihm ih =>
    have hwritten : (Piece.call name first more).written
        = opening name ++ (writtenAll first ++ (writtenMore more ++ [')'])) := by
      simp [Piece.written, opening]
    have hcall : CallsIn (Piece.call name first more).written p
        ((Piece.call name first more).nodeAt p).calls := by
      rw [Piece.nodeAt, Node.calls, callsOf_arguments, hwritten]
      have hmore := callsIn_treesAt ihm ((p.afterAll (opening name)).afterAll (writtenAll first))
      have hclosed := hmore.append (CallsIn.none [')'] _)
      rw [List.append_nil] at hclosed
      exact (CallsIn.opening name p).append ((ihf _).append hclosed)
    exact hcall.append (ih _)

/-- What an error or a call says of the source is true: its line and column are those of its offset,
and there stands the character, the escape or the opening of the call that it names. The calls of a
tree follow one another in the source. -/
theorem places_true (arityOf : String → Option Arity) (source : String) :
    (∀ e, parse arityOf source = .error e →
      e.position.TrueTo source.toList ∧ e.fault.ShownAt source.toList e.position.offset) ∧
    (∀ tree, parse arityOf source = .ok tree →
      (∀ name p, (name, p) ∈ callsOf tree →
        p.TrueTo source.toList ∧ HoldsAt source.toList p.offset (opening name)) ∧
      ((callsOf tree).map (·.2.offset)).Pairwise (· < ·)) := by
  refine ⟨fun e h => ?_, fun tree h => ?_⟩
  · have hshown := errorShown_of_parse h
    exact ⟨hshown.place, hshown.fault⟩
  · obtain ⟨d, rfl, rfl⟩ := derivation_of_parse h
    have hcalls := d.derives.callsIn .start
    rw [Derivation.source, String.toList_ofList]
    exact ⟨fun name p hc => Opens.shown (hcalls.opened (name, p) hc),
      List.pairwise_map.mpr hcalls.increasing⟩

/-- A call in the second argument of a call in the second line, and a bad escape behind it. -/
theorem places_true_nested :
    let arityOf : String → Option Arity := fun name =>
      if name = "f" then some (.between 0 2) else none
    let tree : Tree := [.text "é\n", .call "f" [[.text "b"], [.call "f" [] ⟨2, 6, 7⟩]] ⟨2, 1, 2⟩]
    let bad : ParseError := ⟨.notUnicode "12g4", ⟨2, 12, 13⟩⟩
    (parse arityOf "é\n$f(b,$f())" = .ok tree ∧ ("f", ⟨2, 6, 7⟩) ∈ callsOf tree ∧
      HoldsAt "é\n$f(b,$f())".toList 7 (opening "f")) ∧
    (parse arityOf "é\n$f(b,$f()\\u12g4)" = .error bad ∧
      bad.position.TrueTo "é\n$f(b,$f()\\u12g4)".toList) := by
  intro arityOf tree bad
  have hok : parse arityOf "é\n$f(b,$f())" = .ok tree := rfl
  have hmem : ("f", ⟨2, 6, 7⟩) ∈ callsOf tree := List.mem_cons_of_mem _ (List.mem_cons_self ..)
  have hbad : parse arityOf "é\n$f(b,$f()\\u12g4)" = .error bad := rfl
  exact ⟨⟨hok, hmem, (((places_true arityOf _).2 tree hok).1 _ _ hmem).2⟩,
    ⟨hbad, ((places_true arityOf _).1 bad hbad).1⟩⟩

end Grammar
end Retag.Script

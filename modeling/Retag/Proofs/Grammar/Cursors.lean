import Retag.Proofs.Grammar.Places

/-!
# Taking moves back

Whatever a cursor did before, it stands between what was read and what is left, and what it
remembers is the character in front of it or nothing. So a move is taken back wherever one can be
made. At the end of a text there is none to make, and then the move that led there is taken back
instead.
-/

namespace Retag.Script

/-- What a cursor can be asked to do. -/
inductive Move where
  | advance
  | peek
  | pushback
  deriving DecidableEq, Repr

namespace Cursor

def apply (c : Cursor) : Move → Cursor
  | .advance => c.advance.2
  | .peek => c
  | .pushback => c.pushback

/-- The cursor that is reached from the start of a text. -/
def reached (text : String) (moves : List Move) : Cursor := moves.foldl apply (ofText text)

/-- A cursor between `read` and `left`. It remembers nothing only where it has not moved, or where a
move was taken back, and there something is left. -/
inductive Stands : List Char → List Char → Cursor → Prop where
  | start (left : List Char) : Stands [] left ⟨left, .start, none⟩
  | moved (read : List Char) (ch : Char) (left : List Char) :
    Stands (read ++ [ch]) left
      ⟨left, Position.start.afterAll (read ++ [ch]),
        some (ch :: left, Position.start.afterAll read)⟩
  | back (read : List Char) (ch : Char) (left : List Char) :
    Stands read (ch :: left) ⟨ch :: left, Position.start.afterAll read, none⟩

variable {read left text : List Char} {c : Cursor}

theorem Stands.rest_eq (h : Stands read left c) : c.rest = left := by
  cases h <;> rfl

theorem Stands.position_eq (h : Stands read left c) :
    c.position = Position.start.afterAll read := by
  cases h <;> rfl

theorem Stands.offset_eq (h : Stands read left c) : c.position.offset = read.length := by
  rw [h.position_eq, Grammar.offset_start]

/-! ## Steps -/

theorem Stands.advance {ch : Char} (h : Stands read (ch :: left) c) :
    Stands (read ++ [ch]) left c.advance.2 := by
  have hmoved : c.advance.2 = ⟨left, c.position.after ch, some (ch :: left, c.position)⟩ := by
    rw [Cursor.advance, h.rest_eq]
  rw [hmoved, h.position_eq, ← Grammar.afterAll_concat]
  exact .moved read ch left

/-- At the end nothing is read. -/
theorem Stands.advance_of_nil (h : Stands read [] c) : c.advance = (none, c) := by
  rw [Cursor.advance, h.rest_eq]

/-- What can be asked for keeps the text. -/
theorem Stands.exists_apply (h : Stands read left c) (htext : read ++ left = text) (m : Move) :
    ∃ read' left', read' ++ left' = text ∧ Stands read' left' (c.apply m) := by
  cases m with
  | advance =>
    cases left with
    | nil => exact ⟨read, [], htext, by rwa [apply, h.advance_of_nil]⟩
    | cons ch left =>
      refine ⟨read ++ [ch], left, ?_, h.advance⟩
      rw [← htext, List.append_assoc, List.singleton_append]
  | peek => exact ⟨read, left, htext, h⟩
  | pushback =>
    cases h with
    | start left => exact ⟨[], left, htext, .start left⟩
    | moved read ch left =>
      refine ⟨read, ch :: left, ?_, .back read ch left⟩
      rw [← htext, List.append_assoc, List.singleton_append]
    | back read ch left => exact ⟨read, ch :: left, htext, .back read ch left⟩

theorem Stands.exists_foldl (moves : List Move) (h : Stands read left c)
    (htext : read ++ left = text) :
    ∃ read' left', read' ++ left' = text ∧ Stands read' left' (moves.foldl apply c) := by
  induction moves generalizing c read left with
  | nil => exact ⟨read, left, htext, h⟩
  | cons m moves ih =>
    obtain ⟨read', left', htext', h'⟩ := h.exists_apply htext m
    exact ih h' htext'

/-- So every cursor that is reached stands somewhere in its text. -/
theorem exists_stands (text : String) (moves : List Move) :
    ∃ read left, read ++ left = text.toList ∧ Stands read left (reached text moves) :=
  (Stands.start text.toList).exists_foldl moves rfl

/-! ## Taking back -/

/-- Where something is left, a move is taken back. -/
theorem Stands.pushback_advance {ch : Char} (h : Stands read (ch :: left) c) :
    c.advance.2.pushback = ⟨c.rest, c.position, none⟩ := by
  have hmoved : c.advance.2 = ⟨left, c.position.after ch, some (c.rest, c.position)⟩ := by
    rw [Cursor.advance, h.rest_eq]
  rw [hmoved]
  rfl

/-- At the end, the move that led there is. -/
theorem Stands.pushback_advance_of_concat {before : List Char} {last : Char}
    (h : Stands read [] c) (hread : read = before ++ [last]) :
    c.advance.2.pushback = ⟨[last], Position.start.afterAll before, none⟩ := by
  rw [h.advance_of_nil]
  cases h with
  | start => exact absurd hread (by simp)
  | moved read ch =>
    obtain ⟨rfl, rfl⟩ := List.append_singleton_inj.mp hread
    rfl

/-- In an empty text there is nothing to take back. -/
theorem Stands.pushback_advance_of_nil (h : Stands read [] c) (hread : read = []) :
    c.advance.2.pushback = c := by
  rw [h.advance_of_nil]
  cases h with
  | start => rfl
  | moved read ch => exact absurd hread (by simp)

theorem Stands.taken_back_iff (h : Stands read left c) :
    (c.advance.2.pushback.rest = c.rest ∧ c.advance.2.pushback.position = c.position)
      ↔ left ≠ [] ∨ read = [] := by
  cases left with
  | cons ch left =>
    rw [h.pushback_advance]
    exact iff_of_true ⟨rfl, rfl⟩ (.inl (List.cons_ne_nil ch left))
  | nil =>
    rcases List.eq_nil_or_concat read with rfl | ⟨before, last, rfl⟩
    · rw [h.pushback_advance_of_nil rfl]
      exact iff_of_true ⟨rfl, rfl⟩ (.inr rfl)
    · rw [h.pushback_advance_of_concat List.concat_eq_append, h.rest_eq]
      exact iff_of_false (by simp) (by simp)

/-- A cursor that was reached by any moves is at the place behind what was read, with what follows
that place still to be read. Moving on and taking that back changes neither of the two where
something is left to be read, and where the text is empty. At the end of any other text it takes
back a move that was made before, and leaves the last character to be read. -/
theorem move_taken_back (text : String) (moves : List Move) :
    let c := reached text moves
    let back := c.advance.2.pushback
    (c.position = Position.start.afterAll (text.toList.take c.position.offset) ∧
      c.rest = text.toList.drop c.position.offset) ∧
    (back.rest = c.rest ∧ back.position = c.position ↔ c.rest ≠ [] ∨ text = "") ∧
    (c.rest = [] → ∀ before last, text.toList = before ++ [last] →
      back.rest = [last] ∧ back.position = Position.start.afterAll before) := by
  intro c back
  obtain ⟨read, left, htext, h⟩ := exists_stands text moves
  have hrest : c.rest = left := h.rest_eq
  refine ⟨⟨?_, ?_⟩, ?_, fun hend before last hlast => ?_⟩
  · rw [h.offset_eq, ← htext, List.take_left]
    exact h.position_eq
  · rw [h.offset_eq, ← htext, List.drop_left]
    exact h.rest_eq
  · have hempty : text = "" ↔ read = [] ∧ left = [] := by
      rw [← String.toList_eq_nil_iff, ← htext, List.append_eq_nil_iff]
    rw [h.taken_back_iff, hrest, hempty]
    by_cases hleft : left = [] <;> simp [hleft]
  · obtain rfl : left = [] := hrest.symm.trans hend
    rw [List.append_nil] at htext
    have hback : back = ⟨[last], Position.start.afterAll before, none⟩ :=
      h.pushback_advance_of_concat (htext.trans hlast)
    rw [hback]
    exact ⟨rfl, rfl⟩

/-- The move over the end of a line is taken back, and at the end of the text the one before. -/
theorem move_taken_back_line :
    let c := reached "a\nb" [.advance, .peek, .advance, .pushback]
    let e := reached "a\nb" [.advance, .advance, .advance, .peek]
    (c.rest = ['\n', 'b'] ∧ c.position = ⟨1, 2, 1⟩ ∧
      c.advance.2.pushback.rest = c.rest ∧ c.advance.2.pushback.position = c.position) ∧
    e.rest = [] ∧ e.position = ⟨2, 2, 3⟩ ∧ "a\nb".toList = ['a', '\n'] ++ ['b'] ∧
      e.advance.2.pushback.rest = ['b'] ∧ e.advance.2.pushback.position = ⟨2, 1, 2⟩ := by
  intro c e
  obtain ⟨-, hback, -⟩ := move_taken_back "a\nb" [.advance, .peek, .advance, .pushback]
  obtain ⟨-, -, hend⟩ := move_taken_back "a\nb" [.advance, .advance, .advance, .peek]
  have hrest : c.rest = ['\n', 'b'] := by decide
  have hdone : e.rest = [] := by decide
  have htext : "a\nb".toList = ['a', '\n'] ++ ['b'] := by decide
  exact ⟨⟨hrest, rfl, hback.mpr (.inl (by rw [hrest]; exact List.cons_ne_nil _ _))⟩, hdone, rfl,
    htext, hend hdone _ _ htext⟩

/-- After a text of one character was read, moving on and taking that back leads to its start. -/
theorem end_taken_back :
    ¬ ∀ text moves,
      let c := reached text moves
      c.advance.2.pushback.rest = c.rest ∧ c.advance.2.pushback.position = c.position := by
  intro h
  exact absurd (h "a" [.advance]) (by decide)

end Cursor
end Retag.Script

import Retag.Glob

/-!
# Classes read by place

The characters of a class and whether each of them was escaped are kept in two lists, and a loop over
their places reads the members off. `readFrom?` has no result if the loop asks for a place that is
not there; it always has one, that of `readFrom`.
-/

namespace Retag.Glob

/-- Whether the characters of a class from a place on, escaped or not, begin with a range. -/
def rangeAt? (chars : List Char) (escaped : List Bool) (i : Nat) : Option Bool := do
  if ← escaped[i]? then return false
  else if chars[i + 1]? = some '-' then
    if ← escaped[i + 1]? then return false else return decide (i + 2 < chars.length)
  else return false

/-- The members that the characters of a class denote from a place on. -/
def membersFrom? (chars : List Char) (escaped : List Bool) (i : Nat) : Option (List Member) :=
  if i < chars.length then do
    let first ← chars[i]?
    if ← rangeAt? chars escaped i then
      let last ← chars[i + 2]?
      return .range first last :: (← membersFrom? chars escaped (i + 3))
    else return .one first :: (← membersFrom? chars escaped (i + 1))
  else some []
termination_by chars.length - i

/-- As `readFrom`, with the characters of a class in two lists when it is closed. -/
def readFrom? : Option OpenClass → List Char → Option (Option (List Item))
  | none, [] => some (some [])
  | some _, [] => some none
  | none, '*' :: rest => (readFrom? none rest).map (·.map (.anything :: ·))
  | none, '?' :: rest => (readFrom? none rest).map (·.map (.any :: ·))
  | none, ['\\'] => some (some [.char '\\'])
  | none, '\\' :: c :: rest => (readFrom? none rest).map (·.map (.char c :: ·))
  | none, '[' :: rest => readFrom? (some {}) rest
  | none, c :: rest => (readFrom? none rest).map (·.map (.char c :: ·))
  | some o, ']' :: rest => do
    let chars := o.chars.reverse
    let members ← membersFrom? (chars.map (·.1)) (chars.map (·.2)) 0
    (readFrom? none rest).map (·.map (.cls o.negated members :: ·))
  | some _, ['\\'] => some none
  | some o, '\\' :: c :: rest =>
    readFrom? (some { o with atStart := false, chars := (c, true) :: o.chars }) rest
  | some o, c :: rest =>
    if c = '^' && o.atStart then readFrom? (some { o with negated := true, atStart := false }) rest
    else readFrom? (some { o with atStart := false, chars := (c, false) :: o.chars }) rest

section Classes

/-! ## The characters ahead -/

variable {β : Type} (done rest : List (Char × Bool))

theorem getElem?_ahead (f : Char × Bool → β) (k : Nat) :
    ((done ++ rest).map f)[done.length + k]? = rest[k]?.map f := by
  rw [List.getElem?_map, List.getElem?_append_right (Nat.le_add_right ..), Nat.add_sub_cancel_left]

theorem getElem?_next (x : Char × Bool) (f : Char × Bool → β) :
    ((done ++ x :: rest).map f)[done.length]? = some (f x) :=
  getElem?_ahead done (x :: rest) f 0

theorem length_ahead (f : Char × Bool → β) :
    ((done ++ rest).map f).length = done.length + rest.length := by
  rw [List.length_map, List.length_append]

theorem rangeAt?_range (a b : Char) (e : Bool) :
    let chars := done ++ (a, false) :: ('-', false) :: (b, e) :: rest
    rangeAt? (chars.map (·.1)) (chars.map (·.2)) done.length = some true := by
  dsimp only
  rw [rangeAt?, getElem?_next, getElem?_ahead, getElem?_ahead, length_ahead]
  simp

theorem rangeAt?_one {a : Char} {e : Bool}
    (hone : ∀ b e' tail, rest = ('-', false) :: (b, e') :: tail → e = false → False) :
    let chars := done ++ (a, e) :: rest
    rangeAt? (chars.map (·.1)) (chars.map (·.2)) done.length = some false := by
  dsimp only
  rw [rangeAt?, getElem?_next, getElem?_ahead, getElem?_ahead, length_ahead]
  cases e with
  | true => rfl
  | false =>
    rcases rest with _ | ⟨⟨dash, e⟩, _ | ⟨⟨b, e'⟩, tail⟩⟩
    · rfl
    · simp
    · by_cases hdash : dash = '-'
      · cases e with
        | true => simp [hdash]
        | false => exact (hone b e' tail (by rw [hdash]) rfl).elim
      · simp [hdash]

/-! ## The loop -/

/-- The loop reads the members off the characters that are ahead. -/
theorem membersFrom?_eq :
    membersFrom? ((done ++ rest).map (·.1)) ((done ++ rest).map (·.2)) done.length
      = some (membersOf rest) := by
  induction rest using membersOf.induct generalizing done with
  | case1 a b e rest ih =>
    -- The loop goes on behind the three characters of the range.
    have hrest := ih (done ++ [(a, false), ('-', false), (b, e)])
    simp only [List.append_assoc, List.cons_append, List.nil_append, List.length_append,
      List.length_cons, List.length_nil, Nat.zero_add, Nat.reduceAdd] at hrest
    rw [membersFrom?, if_pos (by simp), getElem?_next, rangeAt?_range, getElem?_ahead, hrest]
    rfl
  | case2 a e rest hone ih =>
    have hrest := ih (done ++ [(a, e)])
    rw [List.append_assoc, List.singleton_append, List.length_append, List.length_singleton]
      at hrest
    rw [membersFrom?, if_pos (by simp), getElem?_next, rangeAt?_one done rest hone, hrest,
      membersOf]
    · rfl
    · exact hone
  | case3 => rw [membersFrom?, if_neg (by simp), membersOf]

end Classes

theorem readFrom?_eq (o : Option OpenClass) (text : List Char) :
    readFrom? o text = some (readFrom o text) := by
  induction o, text using readFrom.induct with
  | case9 o rest ih =>
    have hmembers := membersFrom?_eq [] o.chars.reverse
    rw [List.nil_append, List.length_nil] at hmembers
    simp only [readFrom?, readFrom, hmembers, ih, Option.map_some]
    rfl
  | case12 o c rest hclose hend hescape hnegates ih =>
    rw [readFrom?, readFrom, if_pos hnegates, if_pos hnegates, ih] <;> assumption
  | case13 o c rest hclose hend hescape hplain ih =>
    rw [readFrom?, readFrom, if_neg hplain, if_neg hplain, ih] <;> assumption
  | _ => simp_all [readFrom?, readFrom]

end Retag.Glob

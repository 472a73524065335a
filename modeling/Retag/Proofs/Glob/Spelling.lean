import Retag.Filter

/-!
# How globs are written

The rules below say of a text which items it stands for, and when it is no glob because a class in
it is never closed; they know nothing of the state of a reader. Every text is one or the other, and
reading follows them.
-/

namespace Retag.Glob

/-! ## Classes -/

/-- The characters of a class as they are written, each with whether it is escaped. A bare `]` would
end the class. -/
inductive ClassChars : List Char → List (Char × Bool) → Prop
  | nil : ClassChars [] []
  | escaped {c : Char} {written : List Char} {chars : List (Char × Bool)} :
      ClassChars written chars → ClassChars ('\\' :: c :: written) ((c, true) :: chars)
  | bare {c : Char} {written : List Char} {chars : List (Char × Bool)} :
      c ∉ ['\\', ']'] → ClassChars written chars → ClassChars (c :: written) ((c, false) :: chars)

/-- The text does not come to the end of a class that is open where it starts. -/
def NeverCloses (text : List Char) : Prop :=
  ∀ written chars rest, ClassChars written chars → text ≠ written ++ ']' :: rest

/-- A character that is not escaped, a dash that is not escaped, and any character. -/
def StartsRange (chars : List (Char × Bool)) : Prop :=
  ∃ a b escaped rest, chars = (a, false) :: ('-', false) :: (b, escaped) :: rest

/-- The members that the characters of a class stand for, from left to right. -/
inductive Denotes : List (Char × Bool) → List Member → Prop
  | nil : Denotes [] []
  | range {a b : Char} {escaped : Bool} {rest : List (Char × Bool)} {members : List Member} :
      Denotes rest members →
      Denotes ((a, false) :: ('-', false) :: (b, escaped) :: rest) (.range a b :: members)
  | one {a : Char} {escaped : Bool} {rest : List (Char × Bool)} {members : List Member} :
      ¬ StartsRange ((a, escaped) :: rest) → Denotes rest members →
      Denotes ((a, escaped) :: rest) (.one a :: members)

/-- A class with these characters is negated or not and has these members: a bare `^` at its start
negates it. -/
inductive ClassDenotes : List (Char × Bool) → Bool → List Member → Prop
  | caret {chars : List (Char × Bool)} {members : List Member} :
      Denotes chars members → ClassDenotes (('^', false) :: chars) true members
  | plain {chars : List (Char × Bool)} {members : List Member} :
      chars.head? ≠ some ('^', false) → Denotes chars members → ClassDenotes chars false members

/-! ## Globs -/

/-- The items that a text stands for. A backslash at the end of the text stands for itself. -/
inductive Spells : List Char → List Item → Prop
  | nil : Spells [] []
  | anything {rest : List Char} {items : List Item} :
      Spells rest items → Spells ('*' :: rest) (.anything :: items)
  | any {rest : List Char} {items : List Item} :
      Spells rest items → Spells ('?' :: rest) (.any :: items)
  | escaped {c : Char} {rest : List Char} {items : List Item} :
      Spells rest items → Spells ('\\' :: c :: rest) (.char c :: items)
  | backslash : Spells ['\\'] [.char '\\']
  | bare {c : Char} {rest : List Char} {items : List Item} :
      c ∉ ['*', '?', '\\', '['] → Spells rest items → Spells (c :: rest) (.char c :: items)
  | cls {written rest : List Char} {chars : List (Char × Bool)} {negated : Bool}
      {members : List Member} {items : List Item} :
      ClassChars written chars → ClassDenotes chars negated members → Spells rest items →
      Spells ('[' :: (written ++ ']' :: rest)) (.cls negated members :: items)

/-- Somewhere outside of classes stands a `[` that is not escaped, and its class is never closed. -/
inductive Unclosed : List Char → Prop
  | here {rest : List Char} : NeverCloses rest → Unclosed ('[' :: rest)
  | escaped {c : Char} {rest : List Char} : Unclosed rest → Unclosed ('\\' :: c :: rest)
  | bare {c : Char} {rest : List Char} :
      c ∉ ['\\', '['] → Unclosed rest → Unclosed (c :: rest)
  | cls {written rest : List Char} {chars : List (Char × Bool)} :
      ClassChars written chars → Unclosed rest → Unclosed ('[' :: (written ++ ']' :: rest))

/-! ## Reading classes -/

theorem denotes_membersOf (chars : List (Char × Bool)) : Denotes chars (membersOf chars) := by
  fun_induction membersOf chars with
  | case1 a b escaped rest ih => exact .range ih
  | case2 a escaped rest hrange ih =>
    refine .one ?_ ih
    rintro ⟨a', b, escaped', rest', he⟩
    obtain ⟨ha, rfl⟩ := List.cons.inj he
    obtain ⟨-, rfl⟩ := Prod.mk.inj ha
    exact hrange b escaped' rest' rfl rfl
  | case3 => exact .nil

theorem Denotes.members_eq {chars : List (Char × Bool)} {members : List Member}
    (h : Denotes chars members) : membersOf chars = members := by
  induction h with
  | nil => rfl
  | range _ ih => rw [membersOf, ih]
  | @one a escaped rest members hone _ ih =>
    rw [membersOf, ih]
    rintro b escaped' rest' rfl rfl
    exact hone ⟨a, b, escaped', rest', rfl⟩

variable {o : OpenClass} {c : Char} {text written rest : List Char} {chars : List (Char × Bool)}
  {items : List Item}

theorem readFrom_bare_class (hc : c ∉ ['\\', ']']) (ho : c = '^' → o.atStart = false) :
    readFrom (some o) (c :: rest)
      = readFrom (some { o with atStart := false, chars := (c, false) :: o.chars }) rest := by
  simp only [List.mem_cons, List.not_mem_nil, or_false, not_or] at hc
  have hcaret : (decide (c = '^') && o.atStart) = false := by
    by_cases h : c = '^'
    · rw [ho h, Bool.and_false]
    · rw [decide_eq_false h, Bool.false_and]
  rw [readFrom, hcaret]
  · rfl
  · exact hc.2
  · exact fun h => absurd h hc.1
  · exact fun _ _ h => absurd h hc.1

/-- Behind its start a class is read up to its `]`. -/
theorem readFrom_class (h : ClassChars written chars)
    (ho : written.head? = some '^' → o.atStart = false) :
    readFrom (some o) (written ++ ']' :: rest)
      = (readFrom none rest).map (.cls o.negated (membersOf (o.chars.reverse ++ chars)) :: ·) := by
  induction h generalizing o with
  | nil =>
    rw [List.append_nil]
    rfl
  | escaped _ ih =>
    rw [List.cons_append, List.cons_append, readFrom, ih fun _ => rfl, List.reverse_cons,
      List.append_assoc]
    rfl
  | @bare c _ _ hc _ ih =>
    have hstart : c = '^' → o.atStart = false := fun h => ho (congrArg some h)
    rw [List.cons_append, readFrom_bare_class hc hstart, ih fun _ => rfl, List.reverse_cons,
      List.append_assoc]
    rfl

theorem NeverCloses.tail (hc : c ∉ ['\\', ']']) (h : NeverCloses (c :: rest)) :
    NeverCloses rest :=
  fun _ _ more hw he => h _ _ more (.bare hc hw) (congrArg (c :: ·) he)

theorem NeverCloses.unescape (h : NeverCloses ('\\' :: c :: rest)) : NeverCloses rest :=
  fun _ _ more hw he => h _ _ more (.escaped hw) (congrArg ('\\' :: c :: ·) he)

/-- A class that is never closed has no items. -/
theorem readFrom_neverCloses : ∀ {text : List Char} {o : OpenClass}, NeverCloses text →
    readFrom (some o) text = none
  | [], _, _ => rfl
  | [c], o, h => by
    by_cases hclose : c = ']'
    · subst hclose
      exact absurd rfl (h [] [] [] .nil)
    by_cases hescape : c = '\\'
    · subst hescape
      rfl
    rw [readFrom]
    · split <;> rfl
    · exact hclose
    · exact fun h' => absurd h' hescape
    · exact fun _ _ h' => absurd h' hescape
  | c :: d :: rest, o, h => by
    by_cases hclose : c = ']'
    · subst hclose
      exact absurd rfl (h [] [] (d :: rest) .nil)
    by_cases hescape : c = '\\'
    · subst hescape
      rw [readFrom]
      exact readFrom_neverCloses h.unescape
    have hrest : NeverCloses (d :: rest) := h.tail (by simp [hclose, hescape])
    rw [readFrom]
    · split <;> exact readFrom_neverCloses hrest
    · exact hclose
    · exact fun h' => absurd h' hescape
    · exact fun _ _ h' => absurd h' hescape

theorem exists_classDenotes (chars : List (Char × Bool)) :
    ∃ negated members, ClassDenotes chars negated members := by
  by_cases h : chars.head? = some ('^', false)
  · obtain ⟨rest, rfl⟩ := List.head?_eq_some_iff.mp h
    exact ⟨true, _, .caret (denotes_membersOf rest)⟩
  · exact ⟨false, _, .plain h (denotes_membersOf chars)⟩

theorem readFrom_cls {negated : Bool} {members : List Member} (hw : ClassChars written chars)
    (hc : ClassDenotes chars negated members) :
    readFrom none ('[' :: (written ++ ']' :: rest))
      = (readFrom none rest).map (.cls negated members :: ·) := by
  rw [readFrom]
  cases hc with
  | caret hd =>
    cases hw with
    | @bare _ written _ _ hw =>
      have hcaret : readFrom (some {}) ('^' :: (written ++ ']' :: rest))
          = readFrom (some { negated := true, atStart := false }) (written ++ ']' :: rest) := rfl
      rw [List.cons_append, hcaret, readFrom_class hw fun _ => rfl, ← hd.members_eq]
      rfl
  | plain hcaret hd =>
    have hstart : written.head? ≠ some '^' := by
      cases hw with
      | nil => nofun
      | escaped _ => simp
      | bare _ _ => simpa using hcaret
    rw [readFrom_class hw fun h => absurd h hstart, ← hd.members_eq]
    rfl

/-! ## Reading globs -/

theorem readFrom_bare (hc : c ∉ ['*', '?', '\\', '[']) :
    readFrom none (c :: rest) = (readFrom none rest).map (.char c :: ·) := by
  simp only [List.mem_cons, List.not_mem_nil, or_false, not_or] at hc
  obtain ⟨hstar, hmark, hescape, hopen⟩ := hc
  rw [readFrom]
  · exact hstar
  · exact hmark
  · exact fun h => absurd h hescape
  · exact fun _ _ h => absurd h hescape
  · exact hopen

theorem Spells.readFrom_eq (h : Spells text items) : readFrom none text = some items := by
  induction h with
  | nil => rfl
  | anything _ ih => rw [readFrom, ih, Option.map_some]
  | any _ ih => rw [readFrom, ih, Option.map_some]
  | escaped _ ih => rw [readFrom, ih, Option.map_some]
  | backslash => rfl
  | bare hc _ ih => rw [readFrom_bare hc, ih, Option.map_some]
  | cls hw hc _ ih => rw [readFrom_cls hw hc, ih, Option.map_some]

theorem Unclosed.readFrom_eq (h : Unclosed text) : readFrom none text = none := by
  induction h with
  | here hopen => rw [readFrom, readFrom_neverCloses hopen]
  | escaped _ ih => rw [readFrom, ih, Option.map_none]
  | @bare c rest hc _ ih =>
    by_cases hwild : c ∈ ['*', '?']
    · simp only [List.mem_cons, List.not_mem_nil, or_false] at hwild
      rcases hwild with rfl | rfl
      · rw [readFrom, ih, Option.map_none]
      · rw [readFrom, ih, Option.map_none]
    · rw [readFrom_bare (by simp_all), ih, Option.map_none]
  | cls hw _ ih =>
    obtain ⟨negated, members, hc⟩ := exists_classDenotes _
    rw [readFrom_cls hw hc, ih, Option.map_none]

/-- Every text is a glob, or a class in it is never closed. -/
theorem spells_or_unclosed (text : List Char) : (∃ items, Spells text items) ∨ Unclosed text := by
  induction hn : text.length using Nat.strongRecOn generalizing text with
  | ind n ih =>
    have shorter (rest : List Char) (hrest : rest.length < text.length) :
        (∃ items, Spells rest items) ∨ Unclosed rest := ih _ (hn ▸ hrest) rest rfl
    rcases text with _ | ⟨c, rest⟩
    · exact .inl ⟨[], .nil⟩
    have htail := shorter rest (Nat.lt_succ_self _)
    by_cases hspecial : c ∈ ['*', '?', '\\', '[']
    case neg =>
      have hbare : c ∉ ['\\', '['] := fun h => hspecial (by simp_all)
      exact htail.imp (fun ⟨_, h⟩ => ⟨_, .bare hspecial h⟩) (.bare hbare)
    simp only [List.mem_cons, List.not_mem_nil, or_false] at hspecial
    rcases hspecial with rfl | rfl | rfl | rfl
    · exact htail.imp (fun ⟨_, h⟩ => ⟨_, .anything h⟩) (.bare (by decide))
    · exact htail.imp (fun ⟨_, h⟩ => ⟨_, .any h⟩) (.bare (by decide))
    · rcases rest with _ | ⟨c, rest⟩
      · exact .inl ⟨_, .backslash⟩
      · have hbehind := shorter rest (by simp only [List.length_cons]; omega)
        exact hbehind.imp (fun ⟨_, h⟩ => ⟨_, .escaped h⟩) .escaped
    · by_cases hopen : NeverCloses rest
      · exact .inr (.here hopen)
      · simp only [NeverCloses, Classical.not_forall, Decidable.not_not] at hopen
        obtain ⟨written, chars, more, hw, rfl⟩ := hopen
        obtain ⟨negated, members, hc⟩ := exists_classDenotes chars
        have hbehind := shorter more (by simp only [List.length_cons, List.length_append]; omega)
        exact hbehind.imp (fun ⟨_, h⟩ => ⟨_, .cls hw hc h⟩) (.cls hw)

theorem readFrom_eq_some_iff : readFrom none text = some items ↔ Spells text items := by
  refine ⟨fun h => ?_, Spells.readFrom_eq⟩
  rcases spells_or_unclosed text with ⟨items', hs⟩ | hu
  · rw [hs.readFrom_eq] at h
    exact Option.some.inj h ▸ hs
  · rw [hu.readFrom_eq] at h
    cases h

theorem readFrom_eq_none_iff : readFrom none text = none ↔ Unclosed text := by
  refine ⟨fun h => ?_, Unclosed.readFrom_eq⟩
  rcases spells_or_unclosed text with ⟨items', hs⟩ | hu
  · rw [hs.readFrom_eq] at h
    cases h
  · exact hu

end Retag.Glob

import Retag.Proofs.Grammar.Recovery

/-!
# A source has at most one derivation

Two derivations of one text agree piece by piece, because the first character of a piece tells what
it is and where it ends. Every statement allows for characters behind the pieces, which must not be
able to go on with them. With the two directions of reading this makes the reader a decision of the
grammar.
-/

namespace Retag.Script.Grammar

variable {arityOf : String → Option Arity}

/-! ## Glyphs -/

theorem Glyph.Reads.plain_ne {l l' : Level} {c : Char} (h : (Glyph.plain c).Reads l l') :
    c ≠ '\\' ∧ c ≠ '$' ∧ c ≠ '%' := by
  cases h with
  | top hc => simp_all
  | inside hc => simp_all [specials]
  | opening => decide
  | closing => decide
  | comma => decide

theorem Glyph.Reads.special_mem {l l' : Level} {c : Char} (h : (Glyph.special c).Reads l l') :
    c ∈ specials := by
  cases h
  assumption

/-- Digits name one character. -/
theorem Glyph.Reads.unicode_value {l l' k k' : Level} {d₁ d₂ d₃ d₄ c c' : Char}
    (h : (Glyph.unicode d₁ d₂ d₃ d₄ c).Reads l l')
    (h' : (Glyph.unicode d₁ d₂ d₃ d₄ c').Reads k k') : c = c' := by
  obtain _ | _ | _ | _ | _ | _ | _ | _ | ⟨h₁, h₂, h₃, h₄, hc⟩ := h
  obtain _ | _ | _ | _ | _ | _ | _ | _ | ⟨h₁', h₂', h₃', h₄', hc'⟩ := h'
  obtain rfl := Option.some.inj (h₁.symm.trans h₁')
  obtain rfl := Option.some.inj (h₂.symm.trans h₂')
  obtain rfl := Option.some.inj (h₃.symm.trans h₃')
  obtain rfl := Option.some.inj (h₄.symm.trans h₄')
  exact Char.toNat_inj.mp (hc.trans hc'.symm)

theorem specials_ne {c : Char} (h : c ∈ specials) : c ≠ 'n' ∧ c ≠ 't' ∧ c ≠ 'u' := by
  simp only [specials, List.mem_cons, List.not_mem_nil, or_false] at h
  rcases h with rfl | rfl | rfl | rfl | rfl | rfl <;> decide

/-- The first characters of a text determine its first glyph: no bare character is a backslash, and
the character behind a backslash tells the escapes apart. -/
theorem Glyph.Reads.unique {l l₁ l₂ : Level} {g g' : Glyph} {r s : List Char} (h : g.Reads l l₁)
    (h' : g'.Reads l l₂) (he : g.written ++ r = g'.written ++ s) : g = g' ∧ r = s := by
  have hp : ∀ c, g = .plain c → c ≠ '\\' := by
    rintro c rfl
    exact h.plain_ne.1
  have hp' : ∀ c, g' = .plain c → c ≠ '\\' := by
    rintro c rfl
    exact h'.plain_ne.1
  have hs : ∀ c, g = .special c → c ≠ 'n' ∧ c ≠ 't' ∧ c ≠ 'u' := by
    rintro c rfl
    exact specials_ne h.special_mem
  have hs' : ∀ c, g' = .special c → c ≠ 'n' ∧ c ≠ 't' ∧ c ≠ 'u' := by
    rintro c rfl
    exact specials_ne h'.special_mem
  have hu : ∀ d₁ d₂ d₃ d₄ c c', g = .unicode d₁ d₂ d₃ d₄ c → g' = .unicode d₁ d₂ d₃ d₄ c' →
      c = c' := by
    rintro d₁ d₂ d₃ d₄ c c' rfl rfl
    exact h.unicode_value h'
  clear h h'
  cases g <;> cases g' <;> grind [Glyph.written]

theorem Glyph.Reads.level_unique {l l₁ l₂ : Level} {g : Glyph} (h : g.Reads l l₁)
    (h' : g.Reads l l₂) : l₁ = l₂ := by
  cases h <;> cases h' <;> first | rfl | simp_all [specials]

/-! ## Runs of text -/

/-- No glyph that may stand at level `l` starts here. -/
def NoGlyph (l : Level) (r : List Char) : Prop :=
  ∀ (g : Glyph) (l' : Level) (s : List Char), g.Reads l l' → r ≠ g.written ++ s

theorem noGlyph_nil (l : Level) : NoGlyph l [] := by
  intro g _ s _ he
  cases g <;> cases he

/-- A glyph starts with a backslash or is one bare character. -/
theorem Glyph.written_cons {g : Glyph} {c : Char} {r s : List Char}
    (h : c :: r = g.written ++ s) : c = '\\' ∨ g = .plain c := by
  cases g <;> simp_all [Glyph.written]

theorem noGlyph_of_ne {l : Level} {c : Char} {r : List Char} (hb : c ≠ '\\')
    (hp : ∀ l', ¬ (Glyph.plain c).Reads l l') : NoGlyph l (c :: r) := by
  intro g l' s hg he
  rcases Glyph.written_cons he with rfl | rfl
  · exact hb rfl
  · exact hp l' hg

/-- Text that is cut where no glyph goes on is cut in one place only. -/
theorem Glyph.Run.unique {l l₁ l₂ : Level} {gs gs' : List Glyph} {r s : List Char}
    (h : Run l gs l₁) (h' : Run l gs' l₂) (hr : NoGlyph l₁ r) (hs : NoGlyph l₂ s)
    (he : gs.flatMap written ++ r = gs'.flatMap written ++ s) : gs = gs' ∧ l₁ = l₂ ∧ r = s := by
  induction h generalizing gs' with
  | nil =>
    cases h' with
    | nil => exact ⟨rfl, rfl, he⟩
    | cons hg _ =>
      rw [List.flatMap_cons, List.append_assoc] at he
      exact absurd he (hr _ _ _ hg)
  | @cons l l₁ l₃ g gs hg _ ih =>
    cases h' with
    | nil =>
      rw [List.flatMap_cons, List.append_assoc] at he
      exact absurd he.symm (hs _ _ _ hg)
    | @cons _ l₂' _ g' gs' hg' hrun' =>
      simp only [List.flatMap_cons, List.append_assoc] at he
      obtain ⟨rfl, hrest⟩ := hg.unique hg' he
      obtain rfl := hg.level_unique hg'
      obtain ⟨rfl, hl, hrest⟩ := ih hrun' hr hrest
      exact ⟨rfl, hl, hrest⟩

/-! ## Pieces -/

/-- Where a script or argument ends: at the end of the source, or at a comma or closing parenthesis
outside groups. -/
def Ends : Level → List Char → Prop
  | none, r => r = []
  | some n, r => n = 0 ∧ ∃ rest, r = ',' :: rest ∨ r = ')' :: rest

theorem Ends.noGlyph {l : Level} {r : List Char} (h : Ends l r) : NoGlyph l r := by
  cases l with
  | none =>
    obtain rfl : r = [] := h
    exact noGlyph_nil none
  | some n =>
    obtain ⟨rfl, rest, rfl | rfl⟩ := h
    · refine noGlyph_of_ne (by decide) fun l' hg => ?_
      cases hg with
      | inside hc => exact hc (by decide)
    · refine noGlyph_of_ne (by decide) fun l' hg => ?_
      cases hg with
      | inside hc => exact hc (by decide)

theorem Ends.ne_cons {l : Level} {r s : List Char} {c : Char} (h : Ends l r) (hc : c ≠ ',')
    (hp : c ≠ ')') : r ≠ c :: s := by
  rintro rfl
  cases l with
  | none => cases h
  | some n =>
    obtain ⟨-, rest, he | he⟩ := h
    · exact hc (List.cons.inj he).1
    · exact hp (List.cons.inj he).1

theorem writtenAll_cons (x : Piece) (rest : List Piece) (r : List Char) :
    writtenAll (x :: rest) ++ r = x.written ++ (writtenAll rest ++ r) := by
  rw [writtenAll, List.append_assoc]

theorem noGlyph_tag {l : Level} {name : String} {r : List Char} :
    NoGlyph l ((Piece.tag name).written ++ r) := by
  refine noGlyph_of_ne (by decide) fun l' hg => hg.plain_ne.2.2 rfl

theorem noGlyph_call {l : Level} {name : String} {first : List Piece} {more : List (List Piece)}
    {r : List Char} : NoGlyph l ((Piece.call name first more).written ++ r) := by
  refine noGlyph_of_ne (by decide) fun l' hg => hg.plain_ne.2.1 rfl

theorem not_noGlyph_text {l l' : Level} {gs : List Glyph} {r : List Char} (hne : gs ≠ [])
    (hrun : Glyph.Run l gs l') : ¬ NoGlyph l ((Piece.text gs).written ++ r) := by
  intro hn
  cases hrun with
  | nil => exact hne rfl
  | @cons _ _ _ g gs hg _ =>
    refine hn g _ (gs.flatMap Glyph.written ++ r) hg ?_
    simp only [Piece.written, List.flatMap_cons, List.append_assoc]

/-- Text is maximal: behind it no glyph goes on. -/
theorem Derives.noGlyph {depth : Nat} {l l' : Level} {ps : List Piece} {r : List Char}
    (h : Derives arityOf depth l ps l') (ht : startsText ps = false) (hr : Ends l' r) :
    NoGlyph l (writtenAll ps ++ r) := by
  cases h with
  | nil => exact hr.noGlyph
  | text => cases ht
  | tag =>
    rw [writtenAll_cons]
    exact noGlyph_tag
  | call =>
    rw [writtenAll_cons]
    exact noGlyph_call

theorem isWord_ne {c : Char} (h : IsWord c) : c ≠ '%' ∧ c ≠ '(' := by
  constructor <;> rintro rfl <;> revert h <;> simp [IsWord]

theorem percent_not_mem {name : List Char} (h : IsTagName name) : '%' ∉ name := by
  intro hm
  rcases h.1 _ hm with hw | hc
  · exact (isWord_ne hw).1 rfl
  · cases hc

theorem paren_not_mem {name : List Char} (h : IsFunctionName name) : '(' ∉ name :=
  fun hm => (isWord_ne (h _ hm)).2 rfl

/-- Names that end at the first `c` are equal if the texts are. -/
theorem name_unique {xs ys r s : List Char} {c : Char} (hx : c ∉ xs) (hy : c ∉ ys)
    (he : xs ++ c :: r = ys ++ c :: s) : xs = ys ∧ r = s := by
  induction xs generalizing ys with
  | nil =>
    cases ys with
    | nil => exact ⟨rfl, (List.cons.inj he).2⟩
    | cons y ys => exact absurd (List.cons.inj he).1 (by rintro rfl; simp at hy)
  | cons x xs ih =>
    cases ys with
    | nil => exact absurd (List.cons.inj he).1 (by rintro rfl; simp at hx)
    | cons y ys =>
      obtain ⟨rfl, htail⟩ := List.cons.inj he
      obtain ⟨rfl, hr⟩ := ih (fun hm => hx (List.mem_cons_of_mem _ hm))
        (fun hm => hy (List.mem_cons_of_mem _ hm)) htail
      exact ⟨rfl, hr⟩

theorem written_tag (name : String) (r : List Char) :
    (Piece.tag name).written ++ r = '%' :: (name.toList ++ '%' :: r) := by
  simp [Piece.written]

theorem written_call (name : String) (first : List Piece) (more : List (List Piece))
    (r : List Char) : (Piece.call name first more).written ++ r =
      '$' :: (name.toList ++ '(' :: (writtenAll first ++ (writtenMore more ++ ')' :: r))) := by
  simp [Piece.written]

theorem ends_more (more : List (List Piece)) (r : List Char) :
    Ends (some 0) (writtenMore more ++ ')' :: r) := by
  cases more with
  | nil => exact ⟨rfl, r, .inr rfl⟩
  | cons a rest => exact ⟨rfl, _, .inl rfl⟩

/-- The pieces that can be cut off the front of a text up to where a script or argument ends. -/
def CutOnce (arityOf : String → Option Arity) (depth : Nat) (l l' : Level) (ps : List Piece) :
    Prop :=
  ∀ (l₂ : Level) (qs : List Piece) (r s : List Char), Derives arityOf depth l qs l₂ →
    Ends l' r → Ends l₂ s → writtenAll ps ++ r = writtenAll qs ++ s → ps = qs ∧ r = s

theorem more_unique {depth : Nat} {more : List (List Piece)}
    (ih : ∀ a ∈ more, CutOnce arityOf depth (some 0) (some 0) a) {more' : List (List Piece)}
    (h' : ∀ a ∈ more', Derives arityOf depth (some 0) a (some 0)) {r s : List Char}
    (he : writtenMore more ++ ')' :: r = writtenMore more' ++ ')' :: s) :
    more = more' ∧ r = s := by
  induction more generalizing more' with
  | nil =>
    cases more' with
    | nil => exact ⟨rfl, (List.cons.inj he).2⟩
    | cons a' rest' => exact absurd (List.cons.inj he).1 (by decide)
  | cons a rest ihr =>
    cases more' with
    | nil => exact absurd (List.cons.inj he).1 (by decide)
    | cons a' rest' =>
      rw [writtenMore, writtenMore, List.cons_append, List.cons_append, List.append_assoc,
        List.append_assoc] at he
      obtain ⟨rfl, hmore⟩ := ih a (List.mem_cons_self ..) _ a' _ _ (h' a' (List.mem_cons_self ..))
        (ends_more rest r) (ends_more rest' s) (List.cons.inj he).2
      obtain ⟨rfl, hr⟩ := ihr (fun b hb => ih b (List.mem_cons_of_mem _ hb))
        (fun b hb => h' b (List.mem_cons_of_mem _ hb)) hmore
      exact ⟨rfl, hr⟩

/-- The induction is on one derivation; the other is taken apart beside it. -/
theorem Derives.cutOnce {depth : Nat} {l l' : Level} {ps : List Piece}
    (h : Derives arityOf depth l ps l') : CutOnce arityOf depth l l' ps := by
  induction h with
  | nil =>
    intro l₂ qs r s h' hr hs he
    cases h' with
    | nil => exact ⟨rfl, he⟩
    | text hne hrun =>
      rw [writtenAll_cons, writtenAll, List.nil_append] at he
      exact absurd (he ▸ hr.noGlyph) (not_noGlyph_text hne hrun)
    | tag =>
      rw [writtenAll_cons, written_tag] at he
      exact absurd he (hr.ne_cons (by decide) (by decide))
    | call =>
      rw [writtenAll_cons, written_call] at he
      exact absurd he (hr.ne_cons (by decide) (by decide))
  | @text depth l l₁ l₃ gs rest hne hrun ht hd ih =>
    intro l₂ qs r s h' hr hs he
    rw [writtenAll_cons] at he
    have hstart : ¬ NoGlyph l (writtenAll qs ++ s) := he ▸ not_noGlyph_text hne hrun
    cases h' with
    | nil => exact absurd hs.noGlyph hstart
    | @text _ _ l₁' _ gs' rest' _ hrun' ht' hd' =>
      rw [writtenAll_cons] at he
      obtain ⟨rfl, rfl, he₁⟩ := hrun.unique hrun' (hd.noGlyph ht hr) (hd'.noGlyph ht' hs) he
      obtain ⟨rfl, hrest⟩ := ih _ _ _ _ hd' hr hs he₁
      exact ⟨rfl, hrest⟩
    | tag =>
      rw [writtenAll_cons] at hstart
      exact absurd noGlyph_tag hstart
    | call =>
      rw [writtenAll_cons] at hstart
      exact absurd noGlyph_call hstart
  | @tag depth l l₃ name rest hname hd ih =>
    intro l₂ qs r s h' hr hs he
    rw [writtenAll_cons] at he
    cases h' with
    | nil =>
      rw [written_tag] at he
      exact absurd he.symm (hs.ne_cons (by decide) (by decide))
    | text hne hrun =>
      rw [writtenAll_cons] at he
      exact absurd (he ▸ noGlyph_tag) (not_noGlyph_text hne hrun)
    | tag hname' hd' =>
      rw [writtenAll_cons, written_tag, written_tag] at he
      obtain ⟨hn, he₁⟩ := name_unique (percent_not_mem hname) (percent_not_mem hname')
        (List.cons.inj he).2
      obtain rfl := String.toList_inj.mp hn
      obtain ⟨rfl, hrest⟩ := ih _ _ _ _ hd' hr hs he₁
      exact ⟨rfl, hrest⟩
    | call =>
      rw [writtenAll_cons, written_tag, written_call] at he
      exact absurd (List.cons.inj he).1 (by decide)
  | @call depth l l₃ name arity first rest more hname _ _ hf hm _ hd ihf ihm ih =>
    intro l₂ qs r s h' hr hs he
    rw [writtenAll_cons] at he
    cases h' with
    | nil =>
      rw [written_call] at he
      exact absurd he.symm (hs.ne_cons (by decide) (by decide))
    | text hne hrun =>
      rw [writtenAll_cons] at he
      exact absurd (he ▸ noGlyph_call) (not_noGlyph_text hne hrun)
    | tag =>
      rw [writtenAll_cons, written_tag, written_call] at he
      exact absurd (List.cons.inj he).1 (by decide)
    | call hname' _ _ hf' hm' _ hd' =>
      rw [writtenAll_cons, written_call, written_call] at he
      obtain ⟨hn, he₁⟩ := name_unique (paren_not_mem hname) (paren_not_mem hname')
        (List.cons.inj he).2
      obtain rfl := String.toList_inj.mp hn
      obtain ⟨rfl, he₂⟩ := ihf _ _ _ _ hf' (ends_more more _) (ends_more _ _) he₁
      obtain ⟨rfl, he₃⟩ := more_unique ihm hm' he₂
      obtain ⟨rfl, hrest⟩ := ih _ _ _ _ hd' hr hs he₃
      exact ⟨rfl, hrest⟩

theorem Derivation.eq_of_source_eq {d d' : Derivation arityOf} (h : d.source = d'.source) :
    d = d' := by
  obtain ⟨ps, hd⟩ := d
  obtain ⟨qs, hd'⟩ := d'
  have hw : writtenAll ps = writtenAll qs := String.ofList_injective h
  obtain ⟨rfl, -⟩ := hd.cutOnce _ _ [] [] hd' rfl rfl (by rw [hw])
  rfl

/-- A script is read exactly if it has a derivation, as the tree of that derivation, and no source
has two derivations. Nothing is assumed of the functions that there are. -/
theorem parse_ok_iff_derivation (arityOf : String → Option Arity) (source : String) (tree : Tree) :
    (parse arityOf source = .ok tree ↔
      ∃ d : Derivation arityOf, d.source = source ∧ d.tree = tree) ∧
    Function.Injective fun d : Derivation arityOf => d.source := by
  refine ⟨⟨derivation_of_parse, ?_⟩, fun _ _ h => Derivation.eq_of_source_eq h⟩
  rintro ⟨d, rfl, rfl⟩
  exact parse_source d

end Retag.Script.Grammar

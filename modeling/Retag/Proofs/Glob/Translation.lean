import Retag.Proofs.Glob.Brackets
import Retag.Proofs.Regex.Meaning

/-!
# Globs as regular expressions

The translation of a glob is a well-formed regular expression unless a class of the glob has nothing
but reversed ranges, and it then finds exactly the texts that the glob matches. Each metacharacter
of regular expressions is written so that it stands for itself.
-/

namespace Retag.Glob

open Unicode Regex Regex.Parser

/-! ## What a translation denotes -/

/-- The class of the characters that a class of a glob stands for. -/
def classOf (negated : Bool) (members : List Member) : CharClass :=
  closed (hasCaret negated members) ⟨(setsOf members).reverse, none⟩

/-- What an item is translated to. -/
def Item.expression : Item → Regex.Pattern
  | .anything => .repeat (.char .any) 0 none true
  | .any => .char .any
  | .char c => .char (CharClass.single c).fold
  | .cls negated members => .char (classOf negated members)

/-- How deep the translation of an item nests. -/
def Item.depth : Item → Nat
  | .anything => 1
  | .any | .char _ => 0
  | .cls negated members => (classOf negated members).depth

/-- What the items are translated to. -/
def expression (items : List Item) : Regex.Pattern :=
  .seq .empty (.seq (.look .textStart)
    (items.foldr (fun item r => .seq item.expression r) (.look .textEnd)))

variable {items : List Item} {item : Item} {text rest : List Char} {fuel : Nat} {st : State}

/-- What the items leave to be read: their translations, and the end of the text. -/
def written (items : List Item) : List Char := items.flatMap Item.pattern ++ ['\\', 'z']

/-! ## Items in brackets -/

theorem written_cons (item : Item) (items : List Item) :
    written (item :: items) = item.pattern ++ written items := by
  rw [written, List.flatMap_cons, List.append_assoc]
  rfl

theorem written_ne_nil (items : List Item) : written items ≠ [] :=
  List.append_ne_nil_of_right_ne_nil _ (List.cons_ne_nil _ _)

theorem written_cls (negated : Bool) (members : List Member) (items : List Item) :
    ∃ text, Writes text (setsOf members) ∧ written (.cls negated members :: items)
      = '[' :: (caret (hasCaret negated members) ++ (text ++ ']' :: written items)) := by
  obtain ⟨text, hpattern, hwrites⟩ := pattern_cls negated members
  refine ⟨text, hwrites, ?_⟩
  rw [written_cons, hpattern, List.cons_append, List.append_assoc, List.append_assoc]
  rfl

theorem tame_written (items : List Item) : Tame (written items) := by
  rcases items with _ | ⟨item, items⟩
  · exact tame_of_mem (by decide) _
  cases item with
  | anything => exact tame_of_mem (by decide) _
  | any => exact tame_of_mem (by decide) _
  | char c =>
    rw [written_cons]
    exact tame_quote c _
  | cls negated members =>
    obtain ⟨text, -, hwritten⟩ := written_cls negated members items
    rw [hwritten]
    exact tame_of_mem (by decide) _

/-- Brackets around a translation never end: it closes with a condition, and that is no member. -/
theorem setBody_written (items : List Item) (negated : Bool) (fuel : Nat) (o : OpenSet) :
    setBody flags negated fuel o (written items) = none := by
  induction items generalizing negated fuel o with
  | nil =>
    cases fuel with
    | zero => rfl
    | succ fuel => rfl
  | cons item items ih =>
    have hne := written_ne_nil items
    have hdash : (written items).head? ≠ some '-' := (tame_written items).head_ne (by decide)
    cases fuel with
    | zero => rfl
    | succ fuel =>
      cases item with
      | anything =>
        refine (setBody_bare (by decide) (List.cons_ne_nil _ _) (by simp)).trans ?_
        cases fuel with
        | zero => rfl
        | succ fuel => exact (setBody_bare (by decide) hne hdash).trans (ih ..)
      | any => exact (setBody_bare (by decide) hne hdash).trans (ih ..)
      | char c =>
        rw [written_cons]
        exact ((WritesOne.one c).setBody_eq hne (tame_written items)).trans (ih ..)
      | cls innerNegated members =>
        obtain ⟨text, hwrites, hwritten⟩ := written_cls innerNegated members items
        rw [hwritten]
        exact setBody_nested _ hwrites fun negated o => ih negated fuel o

theorem set?_eq_none_iff (m : Member) : m.set? = none ↔ m.pattern = [] := by
  have hquote (c : Char) : quote c ≠ [] := List.ne_nil_of_length_pos (WritesOne.one c).length_pos
  cases m with
  | one c => simp [Member.set?, Member.pattern, hquote]
  | range a b => by_cases hab : a ≤ b <;> simp [Member.set?, Member.pattern, hab]

/-- The class has a member that is not an empty range, or none at all. -/
theorem isWritable_cls (negated : Bool) (members : List Member) :
    Item.isWritable (.cls negated members) = true ↔ setsOf members ≠ [] := by
  rcases members with _ | ⟨m, members⟩
  · exact iff_of_true rfl (List.cons_ne_nil _ _)
  rw [Item.isWritable, setsOf, List.isEmpty_cons, Bool.false_or, if_neg Bool.false_ne_true,
    List.any_eq_true, ne_eq, List.filterMap_eq_nil_iff]
  simp [set?_eq_none_iff, or_iff_not_imp_left]

/-! ## Reading items -/

/-- A step, where blanks in the pattern count. -/
theorem run_unspaced {c : Char} {st' : State} (hspaced : st.flags.spaced = false)
    (hstep : step st c text = some (st', rest)) :
    run (fuel + 1) st (c :: text) = run fuel st' rest := by
  have hnext : next st.flags (c :: text) = c :: text := by
    rw [next, hspaced]
    rfl
  rw [run, hnext]
  change (step st c text).bind _ = _
  rw [hstep, Option.bind_some]

theorem run_step {c : Char} {st' : State} (hflags : st.flags = flags)
    (hstep : step st c text = some (st', rest)) :
    run (fuel + 1) st (c :: text) = run fuel st' rest := run_unspaced (by rw [hflags]; rfl) hstep

theorem step_escape {a : Atom} {st' : State} (hescape : escape st.flags text = some (a, rest))
    (hatom : st.atom a = some st') : step st '\\' text = some (st', rest) := by
  change ((escape st.flags text).bind fun r => (st.atom r.1).bind fun st => some (st, r.2)) = _
  rw [hescape, Option.bind_some]
  change (st.atom a).bind _ = _
  rw [hatom, Option.bind_some]

/-- A quoted character stands for itself under all flags, case aside. -/
theorem run_character (hspaced : st.flags.spaced = false) (hunicode : st.flags.unicode = true)
    (c : Char) (rest : List Char) :
    run (fuel + 1) st (quote c ++ rest)
      = run fuel (st.push (.char (foldCase st.flags (.single c)))) rest := by
  have hatom : st.atom (.literal c false)
      = some (st.push (.char (foldCase st.flags (.single c)))) := by
    rw [State.atom, State.literal, hunicode]
    rfl
  rw [quote]
  split
  case isTrue hmeta =>
    rw [List.cons_append, List.singleton_append]
    exact run_unspaced hspaced (step_escape (escape_meta hmeta _) hatom)
  case isFalse hmeta =>
    rw [List.singleton_append]
    refine run_unspaced hspaced ?_
    rw [step]
    · rw [hatom]
      rfl
    all_goals
      rintro rfl
      exact hmeta rfl

theorem run_quote (hflags : st.flags = flags) (c : Char) (rest : List Char) :
    run (fuel + 1) st (quote c ++ rest)
      = run fuel (st.push (.char (CharClass.single c).fold)) rest := by
  rw [run_character (by rw [hflags]; rfl) (by rw [hflags]; rfl), hflags]
  rfl

theorem step_dot (hflags : st.flags = flags) (rest : List Char) :
    step st '.' rest = some (st.push (.char .any), rest) := by
  change ((State.dot st.flags).bind fun r => some (st.push r, rest)) = _
  rw [hflags]
  rfl

theorem step_star (hflags : st.flags = flags) (hrest : rest.head? ≠ some '?') :
    step (st.push (.char .any)) '*' rest
      = some (st.push (.repeat (.char .any) 0 none true) 1, rest) := by
  change State.repeatedThen _ 0 none rest = _
  rw [State.repeatedThen]
  · change some (st.push (.mkRepeat (.char .any) 0 none (true != st.flags.lazyFirst)) 1, rest) = _
    rw [hflags]
    rfl
  · rintro more rfl
    exact hrest rfl

/-- Reading goes over a well-formed item, and keeps what it is translated to. -/
theorem run_item (hw : item.isWritable = true) (hflags : st.flags = flags) (items : List Item) :
    ∃ k ≤ item.pattern.length, ∀ fuel, run (fuel + k) st (written (item :: items))
      = run fuel (st.push item.expression item.depth) (written items) := by
  cases item with
  | anything =>
    have hmark : (written items).head? ≠ some '?' := (tame_written items).head_ne (by decide)
    exact ⟨2, Nat.le_refl _, fun fuel => (run_step hflags (step_dot hflags _)).trans
      (run_step hflags (step_star hflags hmark))⟩
  | any => exact ⟨1, Nat.le_refl _, fun fuel => run_step hflags (step_dot hflags _)⟩
  | char c =>
    refine ⟨1, (WritesOne.one c).length_pos, fun fuel => ?_⟩
    rw [written_cons]
    exact run_quote hflags c _
  | cls negated members =>
    obtain ⟨text, hwrites, hwritten⟩ := written_cls negated members items
    have hread := bracketed_writes (hasCaret negated members) hwrites
      ((isWritable_cls negated members).mp hw) (written items)
    refine ⟨1, ?_, fun fuel => ?_⟩
    · obtain ⟨text, hpattern, -⟩ := pattern_cls negated members
      simp [hpattern]
    · rw [hwritten]
      refine run_step hflags ?_
      change (bracketed st.flags _).map _ = _
      rw [hflags, hread]
      rfl

theorem run_unwritable {negated : Bool} {members : List Member}
    (hw : Item.isWritable (.cls negated members) = false) (hflags : st.flags = flags)
    (items : List Item) (fuel : Nat) :
    run (fuel + 1) st (written (.cls negated members :: items)) = none := by
  have hempty : setsOf members = [] := by
    by_contra hne
    exact Bool.false_ne_true (hw.symm.trans ((isWritable_cls negated members).mpr hne))
  obtain ⟨text, hwrites, hwritten⟩ := written_cls negated members items
  rw [hempty] at hwrites
  cases hwrites
  have hopen :
      bracketed flags (caret (hasCaret negated members) ++ ']' :: written items) = none := by
    rw [bracketed, openSet_caret _ (by decide), if_pos rfl, if_neg (by simp [written_ne_nil])]
    exact setBody_written items _ _ _
  rw [hwritten, run, hflags, next_flags]
  change ((bracketed st.flags _).map _).bind _ = _
  rw [hflags, List.nil_append, hopen]
  rfl

/-- What is read of an item. -/
def Item.piece (item : Item) : Piece := .expr item.expression item.depth

/-- Behind these pieces, those of the items and the end of the text, nearest first. -/
def pieces (items : List Item) (before : List Piece) : List Piece :=
  .expr (.look .textEnd) 0 :: ((items.map Item.piece).reverse ++ before)

theorem pieces_cons (item : Item) (items : List Item) (before : List Piece) :
    pieces (item :: items) before = pieces items (item.piece :: before) := by
  rw [pieces, List.map_cons, List.reverse_cons, List.append_assoc]
  rfl

theorem run_written (items : List Item) (hflags : st.flags = flags) :
    ∃ k ≤ (written items).length, ∀ fuel, run (fuel + k) st (written items)
      = if items.all Item.isWritable then some { st with pieces := pieces items st.pieces }
        else none := by
  induction items generalizing st with
  | nil =>
    refine ⟨2, Nat.le_refl _, fun fuel => ?_⟩
    have hend : step st '\\' ['z'] = some (st.push (.look .textEnd), []) := step_escape rfl rfl
    refine (run_step hflags hend).trans ?_
    rw [run, State.push, hflags]
    rfl
  | cons item items ih =>
    by_cases hw : item.isWritable = true
    · obtain ⟨k, hk, hitem⟩ := run_item hw hflags items
      have hpushed : (st.push item.expression item.depth).flags = flags := hflags
      obtain ⟨j, hj, hitems⟩ := ih hpushed
      refine ⟨j + k, ?_, fun fuel => ?_⟩
      · rw [written_cons, List.length_append]
        omega
      · rw [← Nat.add_assoc, hitem, hitems, List.all_cons, hw, Bool.true_and, pieces_cons]
        rfl
    · cases item
      case cls negated members =>
        refine ⟨1, ?_, fun fuel => ?_⟩
        · rw [written_cons, List.length_append]
          have := (List.length_pos_iff.mpr (written_ne_nil items))
          omega
        rw [run_unwritable (Bool.eq_false_iff.mpr hw) hflags, List.all_cons,
        Bool.eq_false_iff.mpr hw]
        rfl
      all_goals exact absurd rfl hw

/-! ## Whole translations -/

theorem depth_setsOf (members : List Member) : ∀ s ∈ setsOf members, s.depth = 0 := by
  intro s hs
  rw [setsOf] at hs
  split at hs
  · simp only [List.mem_cons, List.not_mem_nil, or_false] at hs
    rcases hs with rfl | rfl <;> rfl
  · obtain ⟨m, -, hm⟩ := List.mem_filterMap.mp hs
    cases m with
    | one c =>
      cases hm
      rfl
    | range a b =>
      rw [Member.set?] at hm
      split at hm
      · cases hm
        rw [CharClass.range]
        split <;> rfl
      · cases hm

theorem depth_union {sets : List CharClass} (h : ∀ s ∈ sets, s.depth = 0) :
    (OpenSet.union sets).depth ≤ 1 := by
  have hzero : (sets.foldr CharClass.union CharClass.none).depth = 0 := by
    induction sets with
    | nil => rfl
    | cons s sets ih =>
      have hs := h s List.mem_cons_self
      have hsets := ih fun t ht => h t (List.mem_cons_of_mem _ ht)
      rw [List.foldr_cons, CharClass.union, hs, hsets]
      rfl
  rw [OpenSet.union, hzero]
  split
  · exact Nat.zero_le 1
  · exact Nat.le_refl 1

theorem depth_classOf (negated : Bool) (members : List Member) :
    (classOf negated members).depth ≤ 2 := by
  have hunion : (OpenSet.union (setsOf members).reverse).depth ≤ 1 :=
    depth_union fun s hs => depth_setsOf members s (List.mem_reverse.mp hs)
  rw [classOf, closed, CharClass.negateIf]
  split <;> exact Nat.succ_le_succ hunion

theorem depth_le (item : Item) : item.depth ≤ 2 := by
  cases item with
  | anything => decide
  | any => decide
  | char c => exact Nat.zero_le 2
  | cls negated members => exact depth_classOf negated members

theorem foldl_max_le {bound depth : Nat} {ps : List Piece} (h : ∀ p ∈ ps, p.depth ≤ bound)
    (hdepth : depth ≤ bound) : ps.foldl (fun d p => max d p.depth) depth ≤ bound := by
  induction ps generalizing depth with
  | nil => exact hdepth
  | cons p ps ih =>
    exact ih (fun q hq => h q (List.mem_cons_of_mem _ hq))
      (Nat.max_le.mpr ⟨hdepth, h p List.mem_cons_self⟩)

/-- The start of every translation sets the flags and looks for the start of the text. -/
def start : State := { flags := flags, pieces := [.expr (.look .textStart) 0, .flags] }

/-- What is read of a whole translation. -/
def finished (items : List Item) : State := { start with pieces := pieces items start.pieces }

theorem run_start (fuel : Nat) (text : List Char) :
    run (fuel + 2) {} ("(?is)\\A".toList ++ text) = run fuel start text := rfl

theorem join_cons {op : Regex.Pattern → Regex.Pattern → Regex.Pattern} {p : Piece}
    {ps : List Piece} (hne : ps ≠ []) :
    Piece.join op (p :: ps) = .expr (ps.foldl (fun r q => op q.pattern r) p.pattern)
      ((p :: ps).foldl (fun d q => max d q.depth) 0 + 1) := by
  cases ps with
  | nil => exact absurd rfl hne
  | cons q ps => rfl

theorem body_finished (items : List Item) :
    ∃ depth ≤ 3, (finished items).body = .expr (expression items) depth := by
  have hne : (items.map Item.piece).reverse ++ start.pieces ≠ [] :=
    List.append_ne_nil_of_right_ne_nil _ (List.cons_ne_nil _ _)
  have hdepth : ∀ p ∈ pieces items start.pieces, p.depth ≤ 2 := by
    intro p hp
    rcases List.mem_cons.mp hp with rfl | hp
    · exact Nat.zero_le 2
    rcases List.mem_append.mp hp with hp | hp
    · obtain ⟨item, -, rfl⟩ := List.mem_map.mp (List.mem_reverse.mp hp)
      exact depth_le item
    · simp only [start, List.mem_cons, List.not_mem_nil, or_false] at hp
      rcases hp with rfl | rfl <;> exact Nat.zero_le 2
  refine ⟨_, Nat.succ_le_succ (foldl_max_le hdepth (Nat.zero_le 2)), ?_⟩
  change Piece.join .seq (pieces items start.pieces) = _
  rw [pieces, join_cons hne, List.foldl_append, List.foldl_reverse, List.foldr_map]
  rfl

theorem toList_pattern (items : List Item) :
    (pattern items).toList = "(?is)\\A".toList ++ written items := by
  have hend : "\\z".toList = ['\\', 'z'] := rfl
  have hpattern : pattern items
      = String.ofList ("(?is)\\A".toList ++ items.flatMap Item.pattern ++ "\\z".toList) := rfl
  rw [hpattern, String.toList_ofList, List.append_assoc]
  exact congrArg (fun text => "(?is)\\A".toList ++ (items.flatMap Item.pattern ++ text)) hend

theorem run_pattern (items : List Item) :
    run ((pattern items).toList.length + 1) {} (pattern items).toList
      = if items.all Item.isWritable then some (finished items) else none := by
  have hstart : start.flags = flags := rfl
  obtain ⟨k, hk, hrun⟩ := run_written items hstart
  obtain ⟨more, hmore⟩ : ∃ more, (pattern items).toList.length + 1 = more + k + 2 := by
    rw [toList_pattern, List.length_append]
    have hlength : "(?is)\\A".toList.length = 7 := rfl
    exact ⟨6 + (written items).length - k, by omega⟩
  rw [hmore, toList_pattern, run_start, hrun]
  rfl

/-- A translation is refused if it holds brackets without members or is too large; else it denotes
what its items are translated to. -/
theorem parse_pattern (items : List Item) :
    Regex.Pattern.parse? (pattern items)
      = if items.all Item.isWritable ∧ (expression items).weight ≤ maxWeight then
          some (expression items, [])
        else none := by
  rw [Regex.Pattern.parse?, run_pattern]
  cases hw : items.all Item.isWritable
  case false => simp
  case true =>
    obtain ⟨depth, hdepth, hbody⟩ := body_finished items
    have hnested : depth ≤ maxDepth := hdepth.trans (by decide)
    have hgroups : (finished items).groups = [] := rfl
    have hnames : (finished items).names = [] := rfl
    by_cases hweight : (expression items).weight ≤ maxWeight <;>
      simp [hbody, hweight, hnested, hgroups, hnames, Piece.depth, Piece.pattern]

end Retag.Glob

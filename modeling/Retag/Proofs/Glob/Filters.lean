import Retag.Proofs.Glob.Translation

/-!
# Filters made of globs

A filter is made of every glob whose classes are all closed, unless one of them has reversed ranges
and nothing else: its translation is no regular expression. A filter that is made selects the texts
that match the glob, and so does the translation.
-/

namespace Retag.Glob

open Unicode Regex

/-- The class has reversed ranges, and nothing else. -/
def Hollow (item : Item) : Prop :=
  ∃ negated members, item = .cls negated members ∧ members ≠ [] ∧
    ∀ m ∈ members, ∃ a b, m = .range a b ∧ b < a

variable {items : List Item} {item : Item} {text before taken after : List Char}

/-! ## Well-formed translations -/

theorem set?_eq_none_iff_reversed (m : Member) :
    m.set? = none ↔ ∃ a b, m = .range a b ∧ b < a := by
  cases m with
  | one c => simp [Member.set?]
  | range a b => simp [Member.set?]

theorem isWritable_iff (item : Item) : item.isWritable = true ↔ ¬ Hollow item := by
  cases item with
  | cls negated members =>
    rw [isWritable_cls]
    refine not_congr ⟨fun h => ?_, ?_⟩
    · rcases members with _ | ⟨m, members⟩
      · cases h
      · refine ⟨negated, _, rfl, List.cons_ne_nil _ _, fun n hn => ?_⟩
        exact (set?_eq_none_iff_reversed n).mp (List.filterMap_eq_nil_iff.mp h n hn)
    · rintro ⟨_, _, ⟨⟩, hne, hreversed⟩
      rw [setsOf, if_neg (by simpa using hne), List.filterMap_eq_nil_iff]
      exact fun m hm => (set?_eq_none_iff_reversed m).mpr (hreversed m hm)
  | anything => exact iff_of_true rfl (by rintro ⟨_, _, ⟨⟩, _⟩)
  | any => exact iff_of_true rfl (by rintro ⟨_, _, ⟨⟩, _⟩)
  | char c => exact iff_of_true rfl (by rintro ⟨_, _, ⟨⟩, _⟩)

theorem all_isWritable_iff (items : List Item) :
    items.all Item.isWritable = true ↔ ∀ item ∈ items, ¬ Hollow item := by
  simp only [List.all_eq_true, isWritable_iff]

/-! ## Meaning of translations -/

theorem mem_union (sets : List CharClass) (c : Char) :
    (Parser.OpenSet.union sets).mem c = sets.any (·.mem c) := by
  have hfold : (sets.foldr CharClass.union CharClass.none).mem c = sets.any (·.mem c) := by
    induction sets with
    | nil => rfl
    | cons s sets ih =>
      rw [List.foldr_cons, List.any_cons, ← ih]
      rfl
  exact hfold

theorem caseVariants_ne_nil (c : Char) : caseVariants c ≠ [] := by
  have hgroups : ∀ group ∈ caseGroups, group ≠ [] := by decide
  simp only [caseVariants]
  split
  case h_1 group hgroup =>
    simpa using hgroups group (List.mem_of_find?_eq_some hgroup)
  case h_2 =>
    split
    · exact List.cons_ne_nil _ _
    · split <;> exact List.cons_ne_nil _ _

theorem exists_set?_iff (m : Member) (d : Char) :
    (∃ s, m.set? = some s ∧ s.mem d = true) ↔ m.Has d := by
  rw [← Member.holds_iff]
  cases m with
  | one c => simp [Member.set?, CharClass.single, Member.holds]
  | range a b =>
    have hmem : (CharClass.range a b).mem d = (decide (a ≤ d) && decide (d ≤ b)) := by
      rw [CharClass.range]
      split <;> rfl
    by_cases hab : a ≤ b
    · simp [Member.set?, hab, hmem, Member.holds]
    · simpa [Member.set?, hab, Member.holds] using fun ha hb => hab (Char.le_trans ha hb)

theorem any_setsOf {members : List Member} (hne : members ≠ []) (d : Char) :
    (setsOf members).any (·.mem d) = true ↔ ∃ m ∈ members, m.Has d := by
  rw [setsOf, if_neg (by simpa using hne), List.any_eq_true]
  simp only [List.mem_filterMap, ← exists_set?_iff]
  constructor
  · rintro ⟨s, ⟨m, hm, hs⟩, hd⟩
    exact ⟨m, hm, s, hs, hd⟩
  · rintro ⟨m, hm, s, hs, hd⟩
    exact ⟨s, ⟨m, hm, hs⟩, hd⟩

/-- The brackets of a class without members hold all characters. -/
theorem any_setsOf_nil (d : Char) : (setsOf []).any (·.mem d) = true := by
  change (isBlank d || (!isBlank d || false)) = true
  cases isBlank d <;> rfl

theorem admits_cls_iff (negated : Bool) (members : List Member) (c : Char) :
    Item.Admits (.cls negated members) c ↔ (InClass members c ↔ negated = false) := by
  cases negated with
  | false =>
    refine ⟨?_, fun h => .inside (h.mpr rfl)⟩
    rintro (_ | _ | h)
    exact iff_of_true h rfl
  | true =>
    refine ⟨?_, fun h => .outside fun hin => Bool.noConfusion (h.mp hin)⟩
    rintro (_ | _ | _ | h)
    exact iff_of_false h nofun

theorem mem_classOf (negated : Bool) (members : List Member) (c : Char) :
    (classOf negated members).mem c = true ↔ Item.Admits (.cls negated members) c := by
  have hmem : (classOf negated members).mem c = (((caseVariants c).any fun d =>
      (setsOf members).any (·.mem d)) != hasCaret negated members) := by
    have hunion (d : Char) : (Parser.OpenSet.union (setsOf members).reverse).mem d
        = (setsOf members).any (·.mem d) := by
      rw [mem_union, List.any_reverse]
    simp only [← hunion]
    rw [classOf, closed, CharClass.negateIf]
    split
    case isTrue hcaret =>
      rw [hcaret, Bool.bne_true]
      rfl
    case isFalse hcaret =>
      rw [Bool.eq_false_iff.mpr hcaret, Bool.bne_false]
      rfl
  rw [hmem, admits_cls_iff]
  rcases members with _ | ⟨m, members⟩
  · obtain ⟨d, variants, hvariants⟩ := List.exists_cons_of_ne_nil (caseVariants_ne_nil c)
    have hnone : ¬ InClass [] c := by
      rintro ⟨_, _, _, ⟨⟩, _⟩
    rw [hvariants, List.any_cons, any_setsOf_nil]
    cases negated <;> simp [hasCaret, hnone]
  · have hany : ((caseVariants c).any fun d => (setsOf (m :: members)).any (·.mem d)) = true ↔
        InClass (m :: members) c := by
      simp only [List.any_eq_true, any_setsOf (List.cons_ne_nil _ _)]
      rfl
    rw [← hany]
    cases negated <;> simp [hasCaret]

theorem mem_fold_single (c d : Char) : (CharClass.single d).fold.mem c = true ↔ SameCase c d := by
  change (caseVariants c).any (· == d) = true ↔ _
  simp [SameCase]

theorem takes_expression (h : item ≠ .anything) :
    item.expression.Takes before taken after ↔ ∃ c, taken = [c] ∧ item.Admits c := by
  cases item with
  | anything => exact absurd rfl h
  | any =>
    rw [Item.expression, Pattern.takes_char_iff]
    exact exists_congr fun c => and_congr_right fun _ => iff_of_true rfl (.any c)
  | char d =>
    rw [Item.expression, Pattern.takes_char_iff]
    refine exists_congr fun c => and_congr_right fun _ => (mem_fold_single c d).trans ⟨.char, ?_⟩
    rintro (_ | h)
    exact h
  | cls negated members =>
    rw [Item.expression, Pattern.takes_char_iff]
    exact exists_congr fun c => and_congr_right fun _ => mem_classOf negated members c

theorem takes_items : (items.foldr (fun item r => Pattern.seq item.expression r)
    (Pattern.look .textEnd)).Takes before taken after ↔ Fits items taken ∧ after = [] := by
  induction items generalizing before taken with
  | nil =>
    rw [List.foldr_nil, Pattern.takes_look_iff]
    refine and_congr ⟨?_, ?_⟩ (by simp [Look.holds])
    · rintro rfl
      exact .nil
    · rintro ⟨⟩
      rfl
  | cons item items ih =>
    rw [List.foldr_cons, Pattern.takes_seq_iff]
    simp only [ih]
    constructor
    · rintro ⟨first, second, rfl, hfirst, hfits, rfl⟩
      refine ⟨?_, rfl⟩
      by_cases hitem : item = .anything
      · subst hitem
        exact .anything first hfits
      · obtain ⟨c, rfl, hc⟩ := (takes_expression hitem).mp hfirst
        exact .one hc hfits
    · rintro ⟨hfits, rfl⟩
      cases hfits with
      | anything first hfits =>
        exact ⟨first, _, rfl, Pattern.takes_repeat_any true, hfits, rfl⟩
      | @one _ _ c text hc hfits =>
        by_cases hitem : item = .anything
        · subst hitem
          exact ⟨[c], text, rfl, Pattern.takes_repeat_any true, hfits, rfl⟩
        · exact ⟨[c], text, rfl, (takes_expression hitem).mpr ⟨c, rfl, hc⟩, hfits, rfl⟩

theorem takes_expression_items : (Glob.expression items).Takes before taken after ↔
    before = [] ∧ Fits items taken ∧ after = [] := by
  rw [Glob.expression, Pattern.takes_seq_iff]
  simp only [Pattern.takes_empty_iff, Pattern.takes_seq_iff, Pattern.takes_look_iff, takes_items]
  simp [Look.holds]

/-- What a translation denotes finds the texts that the items stand for as a whole. -/
theorem occurs_expression : (Glob.expression items).Occurs text ↔ Fits items text := by
  simp only [Pattern.Occurs, takes_expression_items]
  constructor
  · rintro ⟨_, taken, _, rfl, rfl, hfits, rfl⟩
    simpa using hfits
  · intro hfits
    exact ⟨[], text, [], by simp, rfl, hfits, rfl⟩

/-! ## Filters -/

variable {glob : String}

theorem read?_eq_some_iff : read? glob = some items ↔ Spells glob.toList items :=
  readFrom_eq_some_iff

theorem read?_eq_none_iff : read? glob = none ↔ Unclosed glob.toList :=
  readFrom_eq_none_iff

theorem make_of_spells (h : Spells glob.toList items) :
    Filter.make glob .glob = if items.all Item.isWritable then .ok ⟨glob, .glob, .glob items⟩
      else .error .invalidRegex := by
  rw [Filter.make, read?_eq_some_iff.mpr h]

theorem make_of_unclosed (h : Unclosed glob.toList) :
    Filter.make glob .glob = .error .unclosedClass := by
  rw [Filter.make, read?_eq_none_iff.mpr h]

theorem make_of_whole (h : Spells glob.toList items) (hwhole : ∀ item ∈ items, ¬ Hollow item) :
    Filter.make glob .glob = .ok ⟨glob, .glob, .glob items⟩ := by
  rw [make_of_spells h, if_pos ((all_isWritable_iff items).mpr hwhole)]

theorem make_of_hollow (h : Spells glob.toList items) (hhollow : ∃ item ∈ items, Hollow item) :
    Filter.make glob .glob = .error .invalidRegex := by
  obtain ⟨item, hitem, hhollow⟩ := hhollow
  rw [make_of_spells h, if_neg fun hall => (all_isWritable_iff items).mp hall item hitem hhollow]

/-- A class of the glob is never closed, or one is hollow, or a filter is made. -/
theorem make_cases (glob : String) :
    (Unclosed glob.toList ∧ Filter.make glob .glob = .error .unclosedClass) ∨
    ∃ items, Spells glob.toList items ∧
      ((∃ item ∈ items, Hollow item) ∧ Filter.make glob .glob = .error .invalidRegex ∨
      (∀ item ∈ items, ¬ Hollow item) ∧
        Filter.make glob .glob = .ok ⟨glob, .glob, .glob items⟩) := by
  rcases spells_or_unclosed glob.toList with ⟨items, hspells⟩ | hunclosed
  · refine .inr ⟨items, hspells, ?_⟩
    by_cases hhollow : ∃ item ∈ items, Hollow item
    · exact .inl ⟨hhollow, make_of_hollow hspells hhollow⟩
    · have hwhole : ∀ item ∈ items, ¬ Hollow item := by simpa using hhollow
      exact .inr ⟨hwhole, make_of_whole hspells hwhole⟩
  · exact .inl ⟨hunclosed, make_of_unclosed hunclosed⟩

/-- A glob is refused where a class is never closed, and also where a class has reversed ranges and
nothing else. All other globs make a filter, and theirs are the translations that compile. -/
theorem globs_compile (glob : String) :
    (read? glob = none ↔ Unclosed glob.toList) ∧
    (Filter.make glob .glob = .error .unclosedClass ↔ Unclosed glob.toList) ∧
    (Filter.make glob .glob = .error .invalidRegex ↔
      ∃ items, Spells glob.toList items ∧ ∃ item ∈ items, Hollow item) ∧
    ((∃ f, Filter.make glob .glob = .ok f) ↔
      ∃ items, Spells glob.toList items ∧ ∀ item ∈ items, ¬ Hollow item) ∧
    ∀ items, read? glob = some items → (Glob.expression items).weight ≤ maxWeight →
      ((Program.compile? (pattern items)).isSome = true ↔ ∃ f, Filter.make glob .glob = .ok f) := by
  refine ⟨read?_eq_none_iff, ⟨fun h => ?_, make_of_unclosed⟩, ⟨fun h => ?_, ?_⟩, ⟨?_, ?_⟩, ?_⟩
  · rcases make_cases glob with ⟨hunclosed, -⟩ | ⟨items, -, ⟨-, hmake⟩ | ⟨-, hmake⟩⟩
    · exact hunclosed
    · cases h.symm.trans hmake
    · cases h.symm.trans hmake
  · rcases make_cases glob with ⟨-, hmake⟩ | ⟨items, hspells, ⟨hhollow, -⟩ | ⟨-, hmake⟩⟩
    · cases h.symm.trans hmake
    · exact ⟨items, hspells, hhollow⟩
    · cases h.symm.trans hmake
  · rintro ⟨items, hspells, hhollow⟩
    exact make_of_hollow hspells hhollow
  · rintro ⟨f, h⟩
    rcases make_cases glob with ⟨-, hmake⟩ | ⟨items, hspells, ⟨-, hmake⟩ | ⟨hwhole, -⟩⟩
    · cases h.symm.trans hmake
    · cases h.symm.trans hmake
    · exact ⟨items, hspells, hwhole⟩
  · rintro ⟨items, hspells, hwhole⟩
    exact ⟨_, make_of_whole hspells hwhole⟩
  · intro items hread hweight
    rw [Program.compile?, parse_pattern, make_of_spells (read?_eq_some_iff.mp hread)]
    by_cases hall : items.all Item.isWritable = true
    · simp [hall, hweight]
    · simp [hall]

/-- Beside another member a reversed range does no harm: `[z-ab]*`. -/
theorem globs_compile_reversed :
    read? "[z-ab]*" = some [.cls false [.range 'z' 'a', .one 'b'], .anything] ∧
    (Glob.expression [.cls false [.range 'z' 'a', .one 'b'], .anything]).weight ≤ maxWeight ∧
    (Program.compile? (pattern [.cls false [.range 'z' 'a', .one 'b'], .anything])).isSome
      = true := by
  have hread : read? "[z-ab]*" = some [.cls false [.range 'z' 'a', .one 'b'], .anything] := by
    decide
  have hweight : (Glob.expression [.cls false [.range 'z' 'a', .one 'b'], .anything]).weight
      ≤ maxWeight := by
    decide
  obtain ⟨-, -, -, -, hcompile⟩ := globs_compile "[z-ab]*"
  exact ⟨hread, hweight, (hcompile _ hread hweight).mpr ⟨_, rfl⟩⟩

/-- All classes of `[z-a]` are closed, and no filter is made of it. -/
theorem reversed_range_refused :
    (read? "[z-a]").isSome = true ∧ ¬ Unclosed "[z-a]".toList ∧
    (Program.compile? (pattern [.cls false [.range 'z' 'a']])).isSome = false ∧
    ¬ ∃ f, Filter.make "[z-a]" .glob = .ok f := by
  have hread : read? "[z-a]" = some [.cls false [.range 'z' 'a']] := by decide
  have hmake : Filter.make "[z-a]" .glob = .error .invalidRegex := by rfl
  have hclosed : ¬ Unclosed "[z-a]".toList := by
    rw [← read?_eq_none_iff, hread]
    exact Option.some_ne_none _
  refine ⟨by decide, hclosed, ?_, ?_⟩
  · rw [Program.compile?, parse_pattern]
    rfl
  · rintro ⟨f, h⟩
    cases h.symm.trans hmake

/-- A filter made of a glob selects the texts that the glob matches, and these are the texts in
which its translation, where it is not too large, finds something. -/
theorem translation_preserves_meaning (glob text : String) (f : Filter) (hne : glob ≠ "")
    (hmake : Filter.make glob .glob = .ok f) :
    (f.selects text = true ↔ Matches glob.toList text.toList) ∧
    (acceptsText glob text = true ↔ Matches glob.toList text.toList) ∧
    ∃ items, read? glob = some items ∧
      ((Glob.expression items).weight ≤ maxWeight →
        Regex.Pattern.parse? (pattern items) = some (Glob.expression items, [])) ∧
      ((Glob.expression items).Occurs text.toList ↔ Matches glob.toList text.toList) := by
  rcases make_cases glob with ⟨-, h⟩ | ⟨items, hspells, ⟨-, h⟩ | ⟨hwhole, h⟩⟩
  · cases hmake.symm.trans h
  · cases hmake.symm.trans h
  cases hmake.symm.trans h
  have hread : read? glob = some items := read?_eq_some_iff.mpr hspells
  have hall : items.all Item.isWritable = true := (all_isWritable_iff items).mpr hwhole
  have hfits : Fits items text.toList ↔ Matches glob.toList text.toList := by
    refine ⟨fun hf => ⟨items, hspells, hf⟩, ?_⟩
    rintro ⟨items', hspells', hf⟩
    have hsame := hspells'.readFrom_eq.symm.trans hspells.readFrom_eq
    exact Option.some.inj hsame ▸ hf
  have haccepts : accepts items text.toList = true ↔ Matches glob.toList text.toList :=
    (accepts_iff items text.toList).trans hfits
  have hsource : glob.isEmpty = false := by simpa using hne
  refine ⟨?_, ?_, items, hread, fun hweight => ?_, occurs_expression.trans hfits⟩
  · simp only [Filter.selects, hsource, Bool.false_or]
    exact haccepts
  · simp only [acceptsText, hread, hall, Bool.true_and]
    exact haccepts
  · rw [parse_pattern, if_pos ⟨hall, hweight⟩]

/-- A negated class refuses its members in every case, and literals take both. -/
theorem translation_preserves_meaning_negated :
    ∃ f, Filter.make "[^j-k]?s*" .glob = .ok f ∧ "[^j-k]?s*" ≠ "" ∧
      Matches "[^j-k]?s*".toList "sKSk".toList ∧ ¬ Matches "[^j-k]?s*".toList "KKSk".toList := by
  have hmake : Filter.make "[^j-k]?s*" .glob = .ok ⟨"[^j-k]?s*", .glob,
      .glob [.cls true [.range 'j' 'k'], .any, .char 's', .anything]⟩ := by rfl
  have hmeaning (text : String) :=
    (translation_preserves_meaning "[^j-k]?s*" text _ (by decide) hmake).1
  exact ⟨_, hmake, by decide, (hmeaning "sKSk").mp (by decide),
    (hmeaning "KKSk").not.mp (by decide)⟩

end Retag.Glob

import Mathlib.Data.List.Induction
import Retag.Program
import Retag.Proofs.Store.Lookup

/-!
# Tags from the command line

A tag that no option names keeps what the settings say. The options that name a tag give it their
values in order, as long as they spell its name alike. A spelling that has not occurred before makes
a new start, although it denotes the same tag: what earlier spellings gave is lost.
-/

namespace Retag.Program

/-- An option that gives a value to the tag that is kept as `name` is. -/
def Names (name : String) (option : String × String) : Prop :=
  storageName (internalName option.1) = storageName name

instance (name : String) : DecidablePred (Names name) := fun option =>
  inferInstanceAs (Decidable (storageName (internalName option.1) = storageName name))

/-- The options that give a tag values. -/
def optionsFor (name : String) (options : List (String × String)) : List (String × String) :=
  options.filter (Names name)

/-- The name as the option spells it, with a leading `_` for `~`. -/
def spelling (option : String × String) : String := internalName option.1

variable {name : String} {options : List (String × String)}

theorem optionsFor_cons_of_names {o : String × String} (h : Names name o) :
    optionsFor name (o :: options) = o :: optionsFor name options :=
  List.filter_cons_of_pos (decide_eq_true h)

theorem optionsFor_cons_of_not {o : String × String} (h : ¬ Names name o) :
    optionsFor name (o :: options) = optionsFor name options :=
  List.filter_cons_of_neg (by simpa using h)

/-! ## One option -/

section Option

variable {seeded : List String} {tags : TagStore} {o : String × String}

theorem seed_cons_of_mem (h : spelling o ∈ seeded) :
    seed seeded tags (o :: options) = seed seeded (tags.add (spelling o) o.2) options := by
  rw [seed]
  exact if_pos (List.contains_iff_mem.mpr h)

theorem seed_cons_of_not_mem (h : spelling o ∉ seeded) :
    seed seeded tags (o :: options) =
      seed (spelling o :: seeded) ((tags.unset (spelling o)).add (spelling o) o.2) options := by
  rw [seed]
  exact if_neg fun hc => h (List.contains_iff_mem.mp hc)

end Option

/-! ## All options -/

/-- Options for other tags do not matter to a tag. -/
theorem values?_seed_of_unnamed {seeded : List String} {tags : TagStore}
    (h : optionsFor name options = []) :
    (seed seeded tags options).values? name = tags.values? name := by
  induction options generalizing seeded tags with
  | nil => rfl
  | cons o rest ih =>
    have hother : ¬ Names name o := fun hn => by
      rw [optionsFor_cons_of_names hn] at h
      cases h
    have hne : ¬ storageName name = storageName (spelling o) := fun he => hother he.symm
    rw [optionsFor_cons_of_not hother] at h
    by_cases hmem : spelling o ∈ seeded
    · rw [seed_cons_of_mem hmem, ih h, TagStore.values?_add, if_neg hne]
    · rw [seed_cons_of_not_mem hmem, ih h, TagStore.values?_add, if_neg hne,
        TagStore.values?_unset, if_neg hne]

/-- Options whose spelling of the tag has occurred append their values. -/
theorem values_seed_of_seeded {seeded : List String} {tags : TagStore}
    (h : ∀ o ∈ optionsFor name options, spelling o ∈ seeded) :
    (seed seeded tags options).values name
      = tags.values name ++ (optionsFor name options).map (·.2) := by
  induction options generalizing seeded tags with
  | nil => exact (List.append_nil _).symm
  | cons o rest ih =>
    by_cases hn : Names name o
    · rw [optionsFor_cons_of_names hn] at h ⊢
      obtain ⟨ho, hrest⟩ := List.forall_mem_cons.mp h
      have hadd : (tags.add (spelling o) o.2).values name = tags.values name ++ [o.2] := by
        have hsame : storageName name = storageName (spelling o) := hn.symm
        rw [TagStore.values, TagStore.values?_add, if_pos hsame, Option.getD_some,
          TagStore.values, TagStore.values, TagStore.values?, TagStore.values?, hsame]
      rw [seed_cons_of_mem ho, ih hrest, hadd, List.map_cons, List.append_assoc,
        List.singleton_append]
    · have hne : ¬ storageName name = storageName (spelling o) := fun he => hn he.symm
      rw [optionsFor_cons_of_not hn] at h ⊢
      by_cases hmem : spelling o ∈ seeded
      · rw [seed_cons_of_mem hmem, ih h, TagStore.values, TagStore.values?_add, if_neg hne,
          TagStore.values]
      · have hseeded : ∀ a ∈ optionsFor name rest, spelling a ∈ spelling o :: seeded :=
          fun a ha => List.mem_cons_of_mem _ (h a ha)
        rw [seed_cons_of_not_mem hmem, ih hseeded, TagStore.values, TagStore.values?_add,
          if_neg hne, TagStore.values?_unset, if_neg hne, TagStore.values]

/-- After some options the spellings that have occurred are theirs and those of before. -/
theorem seed_append (seeded : List String) (tags : TagStore) (front : List (String × String)) :
    ∃ seen : List String,
      (∀ n, n ∈ seen ↔ n ∈ seeded ∨ ∃ a ∈ front, spelling a = n) ∧
      ∀ back, seed seeded tags (front ++ back) = seed seen (seed seeded tags front) back := by
  induction front generalizing seeded tags with
  | nil => exact ⟨seeded, by simp, fun _ => rfl⟩
  | cons o rest ih =>
    by_cases hmem : spelling o ∈ seeded
    · obtain ⟨seen, hseen, hrun⟩ := ih seeded (tags.add (spelling o) o.2)
      refine ⟨seen, fun n => ?_, fun back => ?_⟩
      · rw [hseen, List.exists_mem_cons_iff]
        constructor
        · exact fun h => h.imp_right .inr
        · rintro (h | rfl | h)
          · exact .inl h
          · exact .inl hmem
          · exact .inr h
      · rw [List.cons_append, seed_cons_of_mem hmem, seed_cons_of_mem hmem, hrun]
    · obtain ⟨seen, hseen, hrun⟩ :=
        ih (spelling o :: seeded) ((tags.unset (spelling o)).add (spelling o) o.2)
      refine ⟨seen, fun n => ?_, fun back => ?_⟩
      · rw [hseen, List.exists_mem_cons_iff, List.mem_cons, eq_comm, or_assoc, or_left_comm]
      · rw [List.cons_append, seed_cons_of_not_mem hmem, seed_cons_of_not_mem hmem, hrun]

/-- The values of a tag are those of the options from a new spelling on, if no later one is new. -/
theorem values_seed_of_new {tags : TagStore} {front back : List (String × String)}
    {o : String × String} (hsplit : optionsFor name options = front ++ o :: back)
    (hnew : ∀ a ∈ front, spelling a ≠ spelling o)
    (hold : ∀ b ∈ back, ∃ a ∈ front ++ [o], spelling a = spelling b) :
    (seed [] tags options).values name = (o :: back).map (·.2) := by
  obtain ⟨before, behind, rfl, hfront, hbehind⟩ := List.filter_eq_append_iff.mp hsplit
  obtain ⟨between, after, rfl, hbetween, ho, hback⟩ := List.filter_eq_cons_iff.mp hbehind
  have hnames : Names name o := of_decide_eq_true ho
  have hsame : storageName name = storageName (spelling o) := hnames.symm
  have hmem : ∀ a ∈ before ++ between, Names name a → a ∈ front := by
    intro a ha hn
    rcases List.mem_append.mp ha with ha | ha
    · exact hfront ▸ List.mem_filter.mpr ⟨ha, decide_eq_true hn⟩
    · exact absurd (decide_eq_true hn) (hbetween a ha)
  obtain ⟨seen, hseen, hrun⟩ := seed_append [] tags (before ++ between)
  have hfresh : spelling o ∉ seen := by
    rw [hseen]
    rintro (h | ⟨a, ha, he⟩)
    · cases h
    · have hn : Names name a := (congrArg storageName he).trans hnames
      exact hnew a (hmem a ha hn) he
  have hknown : ∀ b ∈ optionsFor name after, spelling b ∈ spelling o :: seen := by
    intro b hb
    obtain ⟨a, ha, he⟩ := hold b (hback ▸ hb)
    rw [List.mem_cons, hseen, ← he]
    rcases List.mem_append.mp ha with ha | ha
    · rw [← hfront] at ha
      exact .inr (.inr ⟨a, List.mem_append_left _ (List.mem_of_mem_filter ha), rfl⟩)
    · exact .inl (congrArg spelling (List.mem_singleton.mp ha))
  rw [← List.append_assoc, hrun, seed_cons_of_not_mem hfresh, values_seed_of_seeded hknown]
  rw [TagStore.values, TagStore.values?_add, if_pos hsame, TagStore.values, TagStore.values?_unset,
    if_pos rfl, optionsFor, hback]
  rfl

/-- Every list of options ends with a new spelling and options that repeat what has occurred. -/
theorem exists_last_new {options : List (String × String)} (h : options ≠ []) :
    ∃ front o back, options = front ++ o :: back ∧ (∀ a ∈ front, spelling a ≠ spelling o) ∧
      ∀ b ∈ back, ∃ a ∈ front ++ [o], spelling a = spelling b := by
  induction options using List.reverseRecOn with
  | nil => exact absurd rfl h
  | append_singleton init x ih =>
    by_cases hx : ∃ a ∈ init, spelling a = spelling x
    · obtain ⟨a, ha, he⟩ := hx
      obtain ⟨front, o, back, rfl, hnew, hold⟩ := ih (List.ne_nil_of_mem ha)
      refine ⟨front, o, back ++ [x], by simp, hnew, fun b hb => ?_⟩
      rcases List.mem_append.mp hb with hb | hb
      · exact hold b hb
      · rw [List.mem_singleton.mp hb, ← he]
        rw [List.append_cons, List.mem_append] at ha
        rcases ha with ha | ha
        · exact ⟨a, ha, rfl⟩
        · exact hold a ha
    · refine ⟨init, x, [], rfl, fun a ha he => hx ⟨a, ha, he⟩, nofun⟩

/-- A tag that no option names is as the settings have it. A tag that options name has exactly their
values in order if they spell its name alike, and only then: in general it has the values from the
last option on whose spelling is new. -/
theorem seed_values (tags : TagStore) (options : List (String × String)) (name : String) :
    (optionsFor name options = [] →
      (seed [] tags options).values? name = tags.values? name) ∧
    (optionsFor name options ≠ [] →
      ((seed [] tags options).values name = (optionsFor name options).map (·.2) ↔
        ∀ o ∈ optionsFor name options, ∀ o' ∈ optionsFor name options,
          internalName o.1 = internalName o'.1) ∧
      ∃ front o back, optionsFor name options = front ++ o :: back ∧
        (∀ a ∈ front, internalName a.1 ≠ internalName o.1) ∧
        (∀ b ∈ back, ∃ a ∈ front ++ [o], internalName a.1 = internalName b.1) ∧
        (seed [] tags options).values name = (o :: back).map (·.2)) := by
  refine ⟨values?_seed_of_unnamed, fun hnamed => ?_⟩
  obtain ⟨front, o, back, hsplit, hnew, hold⟩ := exists_last_new hnamed
  have hvalues : (seed [] tags options).values name = (o :: back).map (·.2) :=
    values_seed_of_new hsplit hnew hold
  refine ⟨?_, front, o, back, hsplit, hnew, hold, hvalues⟩
  rw [hvalues, hsplit]
  constructor
  · intro he
    have hlength := congrArg List.length he
    have hfront : front = [] := by
      simp only [List.length_map, List.length_append, List.length_cons] at hlength
      exact List.eq_nil_of_length_eq_zero (by omega)
    subst hfront
    have halike : ∀ b ∈ [] ++ o :: back, spelling b = spelling o := by
      intro b hb
      rcases List.mem_cons.mp hb with rfl | hb
      · rfl
      · obtain ⟨a, ha, hs⟩ := hold b hb
        rw [← hs, List.mem_singleton.mp ha]
    exact fun a ha b hb => (halike a ha).trans (halike b hb).symm
  · intro halike
    rcases front with _ | ⟨a, front⟩
    · rfl
    · have hsame := halike a (List.mem_cons_self ..) o (by simp)
      exact absurd hsame (hnew a (List.mem_cons_self ..))

/-- Two options that spell a hidden tag alike, a tag of the settings that they replace, and one that
they leave alone. -/
theorem seed_values_hidden :
    let tags : TagStore := .ofPairs [("~mood", "calm"), ("title", "x")]
    let options := [("_mood", "a"), ("artist", "Queen"), ("~mood", "b")]
    (seed [] tags options).values? "title" = some ["x"] ∧
    (seed [] tags options).values "~mood" = ["a", "b"] := by
  intro tags options
  refine ⟨(seed_values tags options "title").1 (by decide), ?_⟩
  exact ((seed_values tags options "~mood").2 (by decide)).1.mpr (by decide)

/-- Two spellings of one tag: the value of the first is lost. -/
theorem seed_forgets_first_spelling :
    let options := [("comment:", "1"), ("comment", "2")]
    optionsFor "comment" options = options ∧
    (seed [] .empty options).values "comment" ≠ options.map (·.2) := by
  decide

end Retag.Program

import Mathlib.Data.List.Basic
import Retag.Proofs.Regex.Meaning

/-!
# What regular expressions prefer

The ways in which an expression takes a part of a text have an order: alternatives in front come
before those behind, and another round of a greedy repetition before none. They are the ways that
the expression has without an order. A search finds the first of them at the first place that has
any.
-/

namespace Retag.Regex.Pattern

/-- Each of the first parts, continued in each of its ways. -/
def continued (firsts : List (List Char)) (seconds : List Char → List (List Char)) :
    List (List Char) :=
  firsts.flatMap fun first => (seconds first).map (first ++ ·)

/-- More rounds of a repetition, and none if that is enough. -/
def roundsOr (min : Nat) (greedy : Bool) (again : List (List Char)) : List (List Char) :=
  if 0 < min then again else if greedy then again ++ [[]] else [] :: again

/-- Standing between `before` and `after`, the expression takes one of these, in the order of
preference. -/
inductive Tries : Pattern → (before after : List Char) → List (List Char) → Prop
  | empty {before after : List Char} : Tries .empty before after [[]]
  | char {s : CharClass} {c : Char} {before after : List Char} :
      s.mem c = true → Tries (.char s) before (c :: after) [[c]]
  | noChar {s : CharClass} {before after : List Char} :
      (∀ c ∈ after.head?, ¬ s.mem c = true) → Tries (.char s) before after []
  | look {l : Look} {before after : List Char} :
      l.holds before.getLast? after.head? = true → Tries (.look l) before after [[]]
  | noLook {l : Look} {before after : List Char} :
      ¬ l.holds before.getLast? after.head? = true → Tries (.look l) before after []
  | seq {a b : Pattern} {before after : List Char} {firsts : List (List Char)}
      {seconds : List Char → List (List Char)} :
      Tries a before after firsts →
      (∀ first ∈ firsts, Tries b (before ++ first) (after.drop first.length) (seconds first)) →
      Tries (.seq a b) before after (continued firsts seconds)
  | alt {a b : Pattern} {before after : List Char} {lefts rights : List (List Char)} :
      Tries a before after lefts → Tries b before after rights →
      Tries (.alt a b) before after (lefts ++ rights)
  | stop {body : Pattern} {greedy : Bool} {before after : List Char} :
      Tries (.repeat body 0 (some 0) greedy) before after [[]]
  | rounds {body : Pattern} {min : Nat} {max : Option Nat} {greedy : Bool}
      {before after : List Char} {firsts : List (List Char)}
      {others : List Char → List (List Char)} :
      max ≠ some 0 → Tries body before after firsts →
      (∀ first ∈ firsts, Tries (.repeat body (min - 1) (max.map (· - 1)) greedy) (before ++ first)
        (after.drop first.length) (others first)) →
      Tries (.repeat body min max greedy) before after
        (roundsOr min greedy (continued firsts others))
  | capture {i : Nat} {body : Pattern} {before after : List Char} {ways : List (List Char)} :
      Tries body before after ways → Tries (.capture i body) before after ways

variable {r : Pattern} {before taken after text : List Char} {ways : List (List Char)}

theorem continued_congr {firsts : List (List Char)} {seconds others : List Char → List (List Char)}
    (h : ∀ first ∈ firsts, others first = seconds first) :
    continued firsts others = continued firsts seconds := by
  rw [continued, continued]
  exact List.flatMap_congr fun first hfirst => by rw [h first hfirst]

/-- The ways of an expression and their order are settled by what it stands between. -/
theorem Tries.unique {others : List (List Char)} (h : Tries r before after ways)
    (hother : Tries r before after others) : others = ways := by
  induction h generalizing others with
  | empty => cases hother; rfl
  | char hc =>
    cases hother with
    | char => rfl
    | noChar hnone => exact absurd hc (hnone _ rfl)
  | noChar hnone =>
    cases hother with
    | char hc => exact absurd hc (hnone _ rfl)
    | noChar => rfl
  | look hholds =>
    cases hother with
    | look => rfl
    | noLook hfails => exact absurd hholds hfails
  | noLook hfails =>
    cases hother with
    | look hholds => exact absurd hholds hfails
    | noLook => rfl
  | seq _ _ iha ihb =>
    cases hother with
    | seq ha hb =>
      cases iha ha
      exact continued_congr fun first hfirst => ihb first hfirst (hb first hfirst)
  | alt _ _ iha ihb =>
    cases hother with
    | alt ha hb => rw [iha ha, ihb hb]
  | stop =>
    cases hother with
    | stop => rfl
    | rounds hmax => exact absurd rfl hmax
  | rounds hmax _ _ ihbody ihothers =>
    cases hother with
    | stop => exact absurd rfl hmax
    | rounds _ hbody hothers =>
      cases ihbody hbody
      rw [continued_congr fun first hfirst => ihothers first hfirst (hothers first hfirst)]
  | capture _ ih =>
    cases hother with
    | capture hbody => exact ih hbody

theorem mem_continued {firsts : List (List Char)} {seconds : List Char → List (List Char)} :
    taken ∈ continued firsts seconds
      ↔ ∃ first ∈ firsts, ∃ second ∈ seconds first, first ++ second = taken := by
  simp only [continued, List.mem_flatMap, List.mem_map]

theorem mem_roundsOr {min : Nat} {greedy : Bool} {again : List (List Char)} :
    taken ∈ roundsOr min greedy again ↔ taken ∈ again ∨ min = 0 ∧ taken = [] := by
  rw [roundsOr]
  split
  · next h => simp [Nat.ne_of_gt h]
  · next h =>
    obtain rfl : min = 0 := by omega
    cases greedy <;> simp [or_comm]

/-- Where the ways of the parts are those without an order, so are those of one after the other. -/
theorem mem_continued_iff {firsts : List (List Char)} {seconds : List Char → List (List Char)}
    {first? second? : List Char → List Char → List Char → Prop}
    (hfirsts : ∀ {first}, first ∈ firsts
      ↔ ∃ rest, after = first ++ rest ∧ first? before first rest)
    (hseconds : ∀ first ∈ firsts, ∀ {second}, second ∈ seconds first
      ↔ ∃ rest, after.drop first.length = second ++ rest ∧ second? (before ++ first) second rest) :
    taken ∈ continued firsts seconds ↔ ∃ rest, after = taken ++ rest ∧ ∃ first second,
      taken = first ++ second ∧ first? before first (second ++ rest)
      ∧ second? (before ++ first) second rest := by
  rw [mem_continued]
  constructor
  · rintro ⟨first, hfirst, second, hsecond, rfl⟩
    obtain ⟨rest, rfl, hrest⟩ := hfirsts.mp hfirst
    obtain ⟨last, hlast, hsecond⟩ := (hseconds first hfirst).mp hsecond
    rw [List.drop_left] at hlast
    subst hlast
    exact ⟨last, (List.append_assoc ..).symm, first, second, rfl, hrest, hsecond⟩
  · rintro ⟨rest, hafter, first, second, rfl, hfirst, hsecond⟩
    rw [List.append_assoc] at hafter
    have hmem := hfirsts.mpr ⟨_, hafter, hfirst⟩
    refine ⟨first, hmem, second, (hseconds first hmem).mpr ⟨rest, ?_, hsecond⟩, rfl⟩
    rw [hafter, List.drop_left]

/-- The ways are those of the meaning without an order. -/
theorem Tries.mem_iff (h : Tries r before after ways) {taken : List Char} :
    taken ∈ ways ↔ ∃ rest, after = taken ++ rest ∧ Takes r before taken rest := by
  induction h generalizing taken with
  | empty =>
    simp only [takes_empty_iff, List.mem_singleton]
    constructor
    · rintro rfl
      exact ⟨_, rfl, rfl⟩
    · rintro ⟨_, _, h⟩
      exact h
  | @char s c before after hc =>
    simp only [takes_char_iff, List.mem_singleton]
    constructor
    · rintro rfl
      exact ⟨after, rfl, c, rfl, hc⟩
    · rintro ⟨rest, hrest, d, rfl, -⟩
      rw [(List.cons.inj hrest).1]
  | noChar hnone =>
    simp only [takes_char_iff, List.not_mem_nil, false_iff]
    rintro ⟨rest, rfl, c, rfl, hc⟩
    exact hnone c rfl hc
  | look hholds =>
    simp only [takes_look_iff, List.mem_singleton]
    constructor
    · rintro rfl
      exact ⟨_, rfl, rfl, hholds⟩
    · rintro ⟨_, _, h, _⟩
      exact h
  | noLook hfails =>
    simp only [takes_look_iff, List.not_mem_nil, false_iff]
    rintro ⟨rest, rfl, rfl, hholds⟩
    exact hfails hholds
  | seq _ _ iha ihb =>
    simp only [takes_seq_iff]
    exact mem_continued_iff iha fun first hfirst => ihb first hfirst
  | alt _ _ iha ihb =>
    simp only [takes_alt_iff, List.mem_append, iha, ihb, and_or_left, exists_or]
  | stop =>
    rw [List.mem_singleton]
    constructor
    · rintro rfl
      exact ⟨_, rfl, .stop⟩
    · rintro ⟨_, _, h⟩
      rcases takes_repeat_iff.mp h with ⟨-, hnil⟩ | ⟨hmax, -⟩
      · exact hnil
      · exact absurd rfl hmax
  | @rounds body min max greedy before after firsts others hmax _ _ ihbody ihothers =>
    rw [mem_roundsOr, mem_continued_iff ihbody fun first hfirst => ihothers first hfirst]
    constructor
    · rintro (⟨rest, hafter, hparts⟩ | ⟨rfl, rfl⟩)
      · exact ⟨rest, hafter, takes_repeat_iff.mpr (.inr ⟨hmax, hparts⟩)⟩
      · exact ⟨after, rfl, .stop⟩
    · rintro ⟨rest, hafter, h⟩
      rcases takes_repeat_iff.mp h with ⟨hmin, hnil⟩ | ⟨-, hparts⟩
      · exact .inr ⟨hmin, hnil⟩
      · exact .inl ⟨rest, hafter, hparts⟩
  | capture _ ih => simp only [ih, takes_capture_iff]

/-! ## One after the other -/

theorem continued_singleton (first : List Char) (seconds : List Char → List (List Char)) :
    continued [first] seconds = (seconds first).map (first ++ ·) := List.flatMap_singleton _ _

/-- Behind the only way of the first part come all ways of the second. -/
theorem Tries.seq_of_only {a b : Pattern} {first : List Char}
    (ha : Tries a before (first ++ after) [first]) (hb : Tries b (before ++ first) after ways) :
    Tries (.seq a b) before (first ++ after) (ways.map (first ++ ·)) := by
  have hseq := @Tries.seq a b before (first ++ after) [first] (fun _ => ways) ha
    fun other hother => by rwa [List.mem_singleton.mp hother, List.drop_left]
  rwa [continued_singleton] at hseq

theorem Tries.seq_of_none {a b : Pattern} (ha : Tries a before after []) :
    Tries (.seq a b) before after [] := @Tries.seq a b before after [] (fun _ => []) ha nofun

/-! ## Runs of one class -/

variable {s : CharClass} {min : Nat}

/-- Where a class has no more characters, the rounds are over. -/
theorem tries_no_round (hafter : ∀ c ∈ after.head?, ¬ s.mem c = true) (greedy : Bool) :
    Tries (.repeat (.char s) min none greedy) before after (roundsOr min greedy []) :=
  @Tries.rounds _ _ _ _ _ _ [] (fun _ => []) (by simp) (.noChar hafter) nofun

theorem tries_round {c : Char} {greedy : Bool} (hc : s.mem c = true)
    (h : Tries (.repeat (.char s) (min - 1) none greedy) (before ++ [c]) after ways) :
    Tries (.repeat (.char s) min none greedy) before (c :: after)
      (roundsOr min greedy (ways.map (c :: ·))) := by
  have hrounds := @Tries.rounds (.char s) min none greedy before (c :: after) [[c]]
    (fun _ => ways) (by simp) (.char hc) fun first hfirst => by
      rwa [List.mem_singleton.mp hfirst]
  rwa [continued_singleton] at hrounds

/-- A greedy repetition takes as many characters of its class as there are. -/
theorem tries_run {run : List Char} (hrun : ∀ c ∈ run, s.mem c = true)
    (hafter : ∀ c ∈ after.head?, ¬ s.mem c = true) (hmin : min ≤ run.length) :
    ∃ others, Tries (.repeat (.char s) min none true) before (run ++ after) (run :: others) := by
  induction run generalizing before min with
  | nil =>
    obtain rfl := Nat.le_zero.mp hmin
    exact ⟨[], tries_no_round hafter true⟩
  | cons c run ih =>
    obtain ⟨hc, hrun⟩ := List.forall_mem_cons.mp hrun
    obtain ⟨others, hothers⟩ := @ih (before ++ [c]) (min - 1) hrun
      (by rw [List.length_cons] at hmin; omega)
    have hround := tries_round hc hothers
    rw [List.map_cons, roundsOr] at hround
    split at hround
    · exact ⟨_, hround⟩
    · exact ⟨_, hround⟩

/-! ## Searches -/

/-- A search of the text finds `taken`: no place in front has a way, and this is the first. -/
structure Found (r : Pattern) (text before taken after : List Char) : Prop where
  whole : text = before ++ (taken ++ after)
  leftmost : ∀ earlier later, text = earlier ++ later → earlier.length < before.length →
    Tries r earlier later []
  preferred : ∃ others, Tries r before (taken ++ after) (taken :: others)

/-- A search finds at most one thing. -/
theorem Found.unique {before' taken' after' : List Char} (h : Found r text before taken after)
    (hother : Found r text before' taken' after') :
    before' = before ∧ taken' = taken ∧ after' = after := by
  obtain ⟨others, hways⟩ := h.preferred
  obtain ⟨others', hways'⟩ := hother.preferred
  -- The place that is further to the right is not the leftmost.
  have hplace : before.length = before'.length := by
    refine Nat.le_antisymm (Nat.not_lt.mp fun hlt => ?_) (Nat.not_lt.mp fun hlt => ?_)
    · exact absurd ((h.leftmost _ _ hother.whole hlt).unique hways') (List.cons_ne_nil _ _)
    · exact absurd ((hother.leftmost _ _ h.whole hlt).unique hways) (List.cons_ne_nil _ _)
  obtain ⟨rfl, htail⟩ := List.append_inj (h.whole.symm.trans hother.whole) hplace
  rw [htail] at hways
  obtain rfl := (List.cons.inj (hways.unique hways')).1
  exact ⟨rfl, rfl, (List.append_cancel_left htail).symm⟩

theorem Found.takes (h : Found r text before taken after) : Takes r before taken after := by
  obtain ⟨others, hways⟩ := h.preferred
  obtain ⟨rest, hrest, htakes⟩ := hways.mem_iff.mp List.mem_cons_self
  rwa [List.append_cancel_left hrest]

end Retag.Regex.Pattern

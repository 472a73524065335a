import Mathlib.Data.List.Nodup
import Mathlib.Data.List.Perm.Basic
import Mathlib.Logic.Function.Basic
import Retag.Proofs.Lists.Order
import Retag.Proofs.Running.LoneTags
import Retag.Proofs.Running.ValueCalls

/-!
# One value of each kind

Taking the distinct values of a list keeps each of them, or, without regard to case, the last value
with each lower-case form. What is kept is put in order, so it does not matter how the forms are
enumerated, for instance by a map from forms to values in which a later value takes the place of an
earlier one.
-/

namespace Retag.Library.Lists

open Script

variable {values : List String} {u v w : String}

/-! ## The last value for each key -/

section LastByKey

variable {key : String → String}

/-- A value behind which there is none with its key. -/
def IsLast (key : String → String) (values : List String) (w : String) : Prop :=
  ∃ before after, values = before ++ w :: after ∧ ∀ u ∈ after, key u ≠ key w

theorem IsLast.cons (h : IsLast key values w) (v : String) : IsLast key (v :: values) w := by
  obtain ⟨before, after, rfl, hafter⟩ := h
  exact ⟨v :: before, after, rfl, hafter⟩

theorem isLast_concat :
    IsLast key (values ++ [v]) w ↔ w = v ∨ (IsLast key values w ∧ key v ≠ key w) := by
  constructor
  · rintro ⟨before, after, hvalues, hafter⟩
    rcases after.eq_nil_or_concat with rfl | ⟨after, u, rfl⟩
    · obtain ⟨-, hlast⟩ := List.append_inj' hvalues rfl
      exact .inl (List.cons.inj hlast).1.symm
    · have hsplit : values ++ [v] = (before ++ w :: after) ++ [u] := by simpa using hvalues
      obtain ⟨rfl, hlast⟩ := List.append_inj' hsplit rfl
      obtain rfl := (List.cons.inj hlast).1
      exact .inr ⟨⟨before, after, rfl, fun u hu => hafter u (by simp [hu])⟩, hafter v (by simp)⟩
  · rintro (rfl | ⟨⟨before, after, rfl, hafter⟩, hv⟩)
    · exact ⟨values, [], rfl, nofun⟩
    · refine ⟨before, after ++ [v], by simp, fun u hu => ?_⟩
      rcases List.mem_append.mp hu with hu | hu
      · exact hafter u hu
      · exact List.mem_singleton.mp hu ▸ hv

theorem exists_isLast (hv : v ∈ values) : ∃ w, IsLast key values w ∧ key w = key v := by
  induction values generalizing v with
  | nil => cases hv
  | cons u rest ih =>
    by_cases hlater : ∃ x ∈ rest, key x = key v
    · obtain ⟨x, hx, hkey⟩ := hlater
      obtain ⟨w, hw, hsame⟩ := ih hx
      exact ⟨w, hw.cons u, hsame.trans hkey⟩
    · have hfirst : v = u := by
        rcases List.mem_cons.mp hv with rfl | hrest
        · rfl
        · exact absurd ⟨v, hrest, rfl⟩ hlater
      exact ⟨v, ⟨[], rest, by rw [hfirst, List.nil_append], fun x hx hkey => hlater ⟨x, hx, hkey⟩⟩,
        rfl⟩

theorem mem_lastByKey_iff :
    w ∈ lastByKey (values.map fun v => (key v, v)) ↔ IsLast key values w := by
  induction values with
  | nil => simp [lastByKey, IsLast]
  | cons v rest ih =>
    rw [lastByKey_cons]
    constructor
    · intro hw
      split at hw
      · exact (ih.mp hw).cons v
      · next hnone =>
        rcases List.mem_cons.mp hw with rfl | hw
        · exact ⟨[], rest, rfl, fun u hu hkey => hnone ⟨u, hu, hkey⟩⟩
        · exact (ih.mp hw).cons v
    · rintro ⟨before, after, hvalues, hafter⟩
      rcases before with - | ⟨b, before⟩
      · obtain ⟨rfl, rfl⟩ := List.cons.inj hvalues
        have hnone : ¬ ∃ u ∈ rest, key u = key v := by
          rintro ⟨u, hu, hkey⟩
          exact hafter u hu hkey
        rw [if_neg hnone]
        exact List.mem_cons_self
      · obtain ⟨rfl, rfl⟩ := List.cons.inj hvalues
        have hmem := ih.mpr ⟨before, after, rfl, hafter⟩
        split
        · exact hmem
        · exact List.mem_cons_of_mem _ hmem

/-! ## A map in which the last value stays -/

/-- The map from keys to values when all values have been put in, one after the other. -/
def keptByKey (key : String → String) (values : List String) : String → Option String :=
  values.foldl (fun kept v => Function.update kept (key v) (some v)) fun _ => none

/-- A list of the entries of a map, each of them once, in any order. -/
structure Enumerates (entries : List (String × String)) (kept : String → Option String) : Prop where
  once : (entries.map (·.1)).Nodup
  complete : ∀ k v, (k, v) ∈ entries ↔ kept k = some v

theorem keptByKey_eq_some_iff {k : String} :
    keptByKey key values k = some w ↔ IsLast key values w ∧ key w = k := by
  induction values using List.reverseRecOn with
  | nil => simp [keptByKey, IsLast]
  | append_singleton values v ih =>
    have hput : keptByKey key (values ++ [v])
        = Function.update (keptByKey key values) (key v) (some v) := by
      rw [keptByKey, List.foldl_concat, keptByKey]
    rw [hput, isLast_concat]
    by_cases hk : k = key v
    · subst hk
      rw [Function.update_self, Option.some.injEq]
      constructor
      · rintro rfl
        exact ⟨.inl rfl, rfl⟩
      · rintro ⟨rfl | ⟨-, hne⟩, hsame⟩
        · rfl
        · exact absurd hsame.symm hne
    · rw [Function.update_of_ne hk, ih]
      constructor
      · rintro ⟨hw, rfl⟩
        exact ⟨.inr ⟨hw, fun h => hk h.symm⟩, rfl⟩
      · rintro ⟨rfl | ⟨hw, -⟩, hsame⟩
        · exact absurd hsame.symm hk
        · exact ⟨hw, hsame⟩

/-- Of two values that are the last ones with one key each is the other. -/
theorem IsLast.unique (hv : IsLast key values v) (hw : IsLast key values w) (h : key v = key w) :
    v = w :=
  Option.some.inj ((keptByKey_eq_some_iff.mpr ⟨hv, h⟩).symm.trans
    (keptByKey_eq_some_iff.mpr ⟨hw, rfl⟩))

/-- However the map is enumerated, its values are those that are kept. -/
theorem Enumerates.perm {entries : List (String × String)}
    (h : Enumerates entries (keptByKey key values)) :
    (entries.map (·.2)).Perm (lastByKey (values.map fun v => (key v, v))) := by
  have hkey (e : String × String) (he : e ∈ entries) : IsLast key values e.2 ∧ key e.2 = e.1 :=
    keptByKey_eq_some_iff.mp ((h.complete e.1 e.2).mp he)
  have hentries : (entries.map (·.2)).Nodup := by
    refine (List.Nodup.of_map _ h.once).map_on fun e he e' he' hvalue => ?_
    refine Prod.ext ?_ hvalue
    rw [← (hkey e he).2, ← (hkey e' he').2, hvalue]
  have hkept : (lastByKey (values.map fun v => (key v, v))).Nodup :=
    (pairwise_lastByKey key values).imp fun hne heq => hne (congrArg key heq)
  refine (List.perm_ext_iff_of_nodup hentries hkept).mpr fun w => ?_
  rw [mem_lastByKey_iff, List.mem_map]
  constructor
  · rintro ⟨e, he, rfl⟩
    exact (hkey e he).1
  · intro hw
    exact ⟨(key w, w), (h.complete _ _).mpr (keptByKey_eq_some_iff.mpr ⟨hw, rfl⟩), rfl⟩

end LastByKey

/-! ## The distinct values -/

theorem mem_dropRepeats_iff : v ∈ dropRepeats values ↔ v ∈ values := by
  fun_induction dropRepeats values with
  | case1 a rest ih => simp [ih]
  | case2 a b rest hne ih => rw [List.mem_cons, ih, ← List.mem_cons (a := v)]
  | case3 values => rfl

theorem mem_distinct_iff {caseSensitive : Bool} :
    v ∈ distinct caseSensitive values ↔ v ∈ representatives caseSensitive values := by
  rw [distinct_eq, mem_dropRepeats_iff, (sorted_perm _).mem_iff]

theorem mem_distinct_false_iff :
    v ∈ distinct false values ↔ IsLast Unicode.lowercase values v := by
  rw [mem_distinct_iff]
  exact mem_lastByKey_iff

/-- Texts are compared by their first code points that differ. -/
theorem codePoints_lt (h : v < w) : v.toList.map Char.toNat < w.toList.map Char.toNat :=
  List.map_lt (fun _ _ hlt => hlt) (String.lt_iff_toList_lt.mp h)

/-! ## Calls -/

/-- Without an argument for it, case does not count. -/
theorem evalTree_unique_alone (t : Tree) (position : Position) :
    evalTree standard [.call "unique" [t] position]
      = Eval.inFrame ⟨"unique", position⟩ (do
        let list ← listOf (argument t) none
        return joined list (distinct false list.values)) := by
  rw [evalTree_lazy ((find?_standard _).trans rfl) rfl, argumentsOf_standard]
  exact congrArg _ (unique_alone_eq (argument t))

theorem evalTree_unique (t caseSensitive : Tree) (separator : Option Tree) (position : Position) :
    evalTree standard [.call "unique" (t :: caseSensitive :: separator.toList) position]
      = Eval.inFrame ⟨"unique", position⟩ (do
        let caseSensitive ← evalTree standard caseSensitive
        let list ← listOf (argument t) (separator.map argument)
        return joined list (distinct (!caseSensitive.isEmpty) list.values)) := by
  have haccepts : (Arity.between 1 3).accepts (t :: caseSensitive :: separator.toList).length
      = true := by
    cases separator <;> rfl
  rw [evalTree_lazy ((find?_standard _).trans rfl) haccepts, argumentsOf_standard, List.map_cons,
    List.map_cons, map_argument]
  exact congrArg _ (unique_eq (argument t) (separator.map argument) (argument caseSensitive))

/-- A call joins the distinct values of its list. They are in order, each greater than the one
before. If case counts, they are the values of the list; otherwise they are some of them, one for
each lower-case form of a value, and that is the last one with this form. They are the same in
whichever order a map from forms to last values is enumerated. -/
theorem unique_representatives :
    (∀ t position,
      evalTree standard [.call "unique" [t] position]
        = Eval.inFrame ⟨"unique", position⟩ (do
          let list ← listOf (argument t) none
          return joined list (distinct false list.values))) ∧
    (∀ t caseSensitive (separator : Option Tree) position,
      evalTree standard [.call "unique" (t :: caseSensitive :: separator.toList) position]
        = Eval.inFrame ⟨"unique", position⟩ (do
          let caseSensitive ← evalTree standard caseSensitive
          let list ← listOf (argument t) (separator.map argument)
          return joined list (distinct (!caseSensitive.isEmpty) list.values))) ∧
    ∀ values,
      (∀ caseSensitive, (distinct caseSensitive values).Pairwise fun a b =>
        a.toList.map Char.toNat < b.toList.map Char.toNat) ∧
      (∀ v, v ∈ distinct true values ↔ v ∈ values) ∧
      (∀ v ∈ distinct false values, v ∈ values) ∧
      (∀ v ∈ values, ∃! w, w ∈ distinct false values ∧
        Unicode.lowercase w = Unicode.lowercase v) ∧
      (∀ w ∈ distinct false values, IsLast Unicode.lowercase values w) ∧
      (∀ entries, Enumerates entries (keptByKey Unicode.lowercase values) →
        dropRepeats (sorted (entries.map (·.2))) = distinct false values) := by
  refine ⟨evalTree_unique_alone, evalTree_unique, fun values => ⟨?_, ?_, ?_, ?_, ?_, ?_⟩⟩
  · intro caseSensitive
    exact (pairwise_distinct caseSensitive values).imp codePoints_lt
  · intro v
    exact mem_distinct_iff
  · intro v
    exact mem_of_mem_distinct
  · intro v hv
    obtain ⟨w, hw, hform⟩ := exists_isLast hv
    refine ⟨w, ⟨mem_distinct_false_iff.mpr hw, hform⟩, fun x ⟨hx, hsame⟩ => ?_⟩
    exact (mem_distinct_false_iff.mp hx).unique hw (hsame.trans hform.symm)
  · intro w
    exact mem_distinct_false_iff.mp
  · intro entries h
    rw [sorted_eq_of_perm h.perm]
    rfl

/-- The second of two spellings stays, wherever a map has it. -/
theorem unique_representatives_spellings :
    let values := ["b", "Rock", "a", "rock"]
    let entries := [("rock", "rock"), ("a", "a"), ("b", "b")]
    Enumerates entries (keptByKey Unicode.lowercase values) ∧
    distinct false values = ["a", "b", "rock"] ∧
    dropRepeats (sorted (entries.map (·.2))) = ["a", "b", "rock"] ∧
    "Rock" ∈ values ∧
    (∃! w, w ∈ distinct false values ∧ Unicode.lowercase w = Unicode.lowercase "Rock") ∧
    "rock" ∈ distinct false values ∧ "rock" ∈ values ∧
    IsLast Unicode.lowercase values "rock" := by
  intro values entries
  have ha : Unicode.lowercase "a" = "a" := by rfl
  have hb : Unicode.lowercase "b" = "b" := by rfl
  have hrock : Unicode.lowercase "rock" = "rock" := by rfl
  have hRock : Unicode.lowercase "Rock" = "rock" := by rfl
  have hvalues : distinct false values = ["a", "b", "rock"] := by
    have hkept : representatives false values = ["b", "a", "rock"] := by
      simp [representatives, values, lastByKey, ha, hb, hrock, hRock]
    have hsorted : sorted ["b", "a", "rock"] = ["a", "b", "rock"] :=
      (sorted_eq_of_perm (by decide)).trans (sorted_of_pairwise (by decide))
    rw [distinct_eq, hkept, hsorted]
    decide
  have hentries : Enumerates entries (keptByKey Unicode.lowercase values) := by
    refine ⟨by decide, fun k v => ?_⟩
    simp only [keptByKey, values, List.foldl_cons, List.foldl_nil, ha, hb, hrock, hRock,
      Function.update_apply, entries]
    by_cases hkrock : k = "rock"
    · subst hkrock; simp [eq_comm]
    by_cases hka : k = "a"
    · subst hka; simp [eq_comm]
    by_cases hkb : k = "b"
    · subst hkb; simp [eq_comm]
    · simp [hkrock, hka, hkb]
  have hmem : "rock" ∈ distinct false values := by simp [hvalues]
  obtain ⟨-, -, hsub, hone, hlast, horder⟩ := unique_representatives.2.2 values
  exact ⟨hentries, hvalues, (horder entries hentries).trans hvalues, by decide,
    hone "Rock" (by decide), hmem, hsub "rock" hmem, hlast "rock" hmem⟩

end Retag.Library.Lists

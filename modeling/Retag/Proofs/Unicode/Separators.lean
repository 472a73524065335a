import Mathlib.Tactic.SplitIfs
import Retag.Proofs.Unicode.Runs

/-!
# Separators are no letters

A character that separates words is not alphabetic. Categories and letters are kept in different
tables, in which both are walked over at once.
-/

namespace Retag.Unicode

open Table

/-- How the names of such categories are spelled, among others. -/
def spellsSeparator : List Char → Bool
  | 'P' :: _ => true
  | ['Z', 's'] => true
  | ['S', 'k'] => true
  | _ => false

theorem spellsSeparator_of_separatesWords {name : String}
    (h : ((Category.ofAbbreviation? name).getD .unassigned).separatesWords = true) :
    spellsSeparator name.toList = true := by
  rcases hfound : Category.ofAbbreviation? name with - | k
  · rw [hfound] at h
    cases h
  · have hname : (k.abbreviation == name) = true :=
      List.find?_some (p := fun k : Category => k.abbreviation == name) hfound
    rw [hfound, Option.getD_some] at h
    obtain rfl := beq_iff_eq.mp hname
    cases k <;> first | rfl | cases h

/-- The length of a run by its word. -/
def runLength (word : List Char) : Nat := number (word.dropWhile fun c => !c.isDigit)

/-- Where a text lists runs by category, the separators among them. -/
def separators (text : List Char) : List (Bool × Nat) :=
  (words text).map fun word =>
    (spellsSeparator (word.takeWhile fun c => !c.isDigit), runLength word)

theorem apart_readRuns {runs gaps : List Char} {first second : String}
    (h : apart (separators runs) false ((words gaps).map runLength) = true)
    (hfirst : first = String.ofList runs) (hsecond : second = String.ofList gaps) :
    apart ((readRuns first).map fun run => (spellsSeparator run.1.toList, run.2)) false
      ((readRuns second).map (·.2)) = true := by
  have hmarks : (fun run : String × Nat => (spellsSeparator run.1.toList, run.2)) ∘ labelled
      = fun word => (spellsSeparator (word.takeWhile fun c => !c.isDigit), runLength word) := by
    funext word
    rw [Function.comp_apply, labelled, String.toList_ofList, runLength]
  rw [hfirst, hsecond, readRuns, readRuns, String.toList_ofList, String.toList_ofList, List.map_map,
    List.map_map, hmarks]
  exact h

/-- The runs of the categories, the separators among them marked. -/
def separatorRuns : List (Bool × Nat) :=
  categoryRuns.map fun run => (spellsSeparator run.1.toList, run.2)

theorem separatesWords_category (c : Char) :
    (category c).separatesWords = marked (categoryRuns.map fun run =>
      (((Category.ofAbbreviation? run.1).getD .unassigned).separatesWords, run.2)) c.toNat := by
  rw [category, categoryEnds, categoryLabels, rank_sums]
  generalize categoryRuns = runs
  exact label_eq_marked rfl _ Prod.snd runs c.toNat

theorem marked_of_separatesWords {c : Char} (h : (category c).separatesWords = true) :
    marked separatorRuns c.toNat = true := by
  rw [separatesWords_category] at h
  rw [separatorRuns]
  generalize categoryRuns = runs at h ⊢
  exact marked_mono (fun _ => spellsSeparator_of_separatesWords) h

theorem contains_eq_false {gaps : List Nat} {c : Char}
    (hapart : apart separatorRuns false gaps = true) (h : (category c).separatesWords = true) :
    CodeSet.contains ⟨(sums 0 gaps).toArray⟩ c = false := by
  have hinside := inside_of_apart hapart (marked_of_separatesWords h)
  rwa [inside_eq, Bool.false_bne, ← rank_sums] at hinside

/-! ## The tables -/

/-- The letters of ASCII. -/
def asciiLetters : List Nat := (readRuns "65 26 6 26").map (·.2)

set_option maxRecDepth 100000 in
/-- No run of letters reaches into one of separators. -/
theorem tables_apart :
    (∃ gaps, Property.alphabetic = ⟨(sums 0 gaps).toArray⟩
      ∧ apart separatorRuns false gaps = true) ∧
    (∃ gaps, alphabeticChanges = ⟨(sums 0 gaps).toArray⟩
      ∧ apart separatorRuns false gaps = true) ∧
    apart separatorRuns false asciiLetters = true := by
  refine ⟨⟨_, rfl, ?_⟩, ⟨_, rfl, ?_⟩, ?_⟩
  all_goals
    delta separatorRuns categoryRuns
    refine apart_readRuns ?_ (by with_reducible exact Eq.refl _) (by with_reducible exact Eq.refl _)
    decide +kernel

theorem inside_asciiLetters (c : Char) : inside false asciiLetters c.toNat = c.isAlpha := by
  have hgaps : asciiLetters = [65, 26, 6, 26] := by decide
  have hupper : c.isUpper = true ↔ 65 ≤ c.toNat ∧ c.toNat ≤ 90 := decide_eq_true_iff
  have hlower : c.isLower = true ↔ 97 ≤ c.toNat ∧ c.toNat ≤ 122 :=
    Bool.and_eq_true_iff.trans (and_congr decide_eq_true_iff decide_eq_true_iff)
  have halpha : c.isAlpha = (c.isUpper || c.isLower) := rfl
  rw [hgaps, halpha, Bool.eq_iff_iff, Bool.or_eq_true, hupper, hlower]
  simp only [inside]
  split_ifs <;> simp <;> omega

/-- No separator of words is a letter. -/
theorem isAlphabetic_of_separatesWords {c : Char} (h : (category c).separatesWords = true) :
    isAlphabetic c = false := by
  obtain ⟨⟨letters, hletters, hapart⟩, ⟨changes, hchanges, hchanged⟩, hascii⟩ := tables_apart
  rw [isAlphabetic]
  split
  · rw [← inside_asciiLetters]
    exact inside_of_apart hascii (marked_of_separatesWords h)
  · rw [CodeSet.containsRevised, hletters, hchanges, contains_eq_false hapart h,
      contains_eq_false hchanged h]
    rfl

theorem marked_readRuns (kind : String → Bool) {runs : List Char} {text : String} {n : Nat}
    (h : marked ((words runs).map fun word => (kind (labelled word).1, (labelled word).2)) n = true)
    (htext : text = String.ofList runs) :
    marked ((readRuns text).map fun run => (kind run.1, run.2)) n = true := by
  rw [htext, readRuns, String.toList_ofList, List.map_map]
  exact h

set_option maxRecDepth 100000 in
theorem separatesWords_dash : (category '-').separatesWords = true := by
  rw [separatesWords_category]
  delta categoryRuns
  refine marked_readRuns
    (fun name => ((Category.ofAbbreviation? name).getD .unassigned).separatesWords) ?_
    (by with_reducible exact Eq.refl _)
  decide +kernel

end Retag.Unicode

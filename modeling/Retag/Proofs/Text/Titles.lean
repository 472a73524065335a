import Retag.Proofs.Running.ValueCalls
import Retag.Proofs.Unicode.Separators

/-!
# Titles

A title is made by a walk that remembers one character and whether a word has ended. It comes to a
rule about places: a letter is a capital where what stands in front of it has ended a word. Only
behind the first character this does not hold, as the walk takes no notice of what that one ends.
-/

namespace Retag.Library.Texts

open Script Unicode

/-! ## Where words end -/

/-- What is in front ends in a separator that is no apostrophe right behind a letter. -/
def endsWord (front : List Char) : Bool :=
  front.getLast?.any fun c =>
    isWordBoundary c && !(isApostrophe c && front.dropLast.getLast?.any isAlphabetic)

theorem endsWord_concat (front : List Char) (b c : Char) :
    endsWord (front ++ [b] ++ [c])
      = (isWordBoundary c && !(isApostrophe c && isAlphabetic b)) := by
  rw [endsWord, List.getLast?_concat, List.dropLast_concat, List.getLast?_concat, Option.any_some,
    Option.any_some]

theorem isAlphabetic_of_isWordBoundary {c : Char} (h : isWordBoundary c = true) :
    isAlphabetic c = false := isAlphabetic_of_separatesWords h

/-- A letter does not end a word. -/
theorem not_endsWord_letter {b : Char} (hb : isAlphabetic b = true) (front : List Char) :
    endsWord (front ++ [b]) = false := by
  have hboundary : isWordBoundary b = false := by
    refine Bool.eq_false_iff.mpr fun h => ?_
    rw [isAlphabetic_of_isWordBoundary h] at hb
    cases hb
  rw [endsWord, List.getLast?_concat, Option.any_some, hboundary, Bool.false_and]

/-! ## The walk -/

/-- Whether a character becomes a capital behind what is in front of it. -/
def isCapital (front : List Char) (c : Char) : Prop :=
  front = [] ∨ 1 < front.length ∧ isAlphabetic c = true ∧ endsWord front = true

instance (front : List Char) (c : Char) : Decidable (isCapital front c) :=
  inferInstanceAs (Decidable (_ ∨ _))

/-- A character of a title. -/
def titled (front : List Char) (c : Char) : List Char :=
  if isCapital front c then upperChar c else [c]

/-- What the walk remembers in front of a place. -/
def remembers (front : List Char) : Bool := decide (1 < front.length) && endsWord front

theorem isCapital_concat (front : List Char) (b c : Char) :
    isCapital (front ++ [b]) c ↔ isAlphabetic c = true ∧ remembers (front ++ [b]) = true := by
  simp only [isCapital, remembers, List.append_ne_nil_of_right_ne_nil front (List.cons_ne_nil b []),
    false_or, Bool.and_eq_true, decide_eq_true_eq]
  exact and_left_comm

theorem titled_nil (c : Char) : titled [] c = upperChar c := if_pos (.inl rfl)

/-- The walk takes no notice of what the first character ends. -/
theorem remembers_singleton (b : Char) : remembers ([] ++ [b]) = false := Bool.false_and _

theorem titleFrom_cons (front : List Char) (b c : Char) (rest : List Char) :
    titleFrom b (remembers (front ++ [b])) (c :: rest)
      = titled (front ++ [b]) c ++ titleFrom c (remembers (front ++ [b] ++ [c])) rest := by
  have hnext : remembers (front ++ [b] ++ [c])
      = (isWordBoundary c && !(isApostrophe c && isAlphabetic b)) := by
    rw [remembers, endsWord_concat, decide_eq_true (by simp), Bool.true_and]
  rw [titleFrom, hnext]
  by_cases hapostrophe : (isApostrophe c && isAlphabetic b) = true
  · -- Behind a letter no word has ended.
    have hletter : isAlphabetic b = true := (Bool.and_eq_true_iff.mp hapostrophe).2
    have hplain : ¬ isCapital (front ++ [b]) c := by
      rw [isCapital_concat, remembers, not_endsWord_letter hletter, Bool.and_false]
      exact fun h => Bool.false_ne_true h.2
    rw [if_pos hapostrophe, titled, if_neg hplain, hapostrophe, Bool.not_true, Bool.and_false]
    rfl
  rw [if_neg hapostrophe, Bool.eq_false_iff.mpr hapostrophe, Bool.not_false, Bool.and_true]
  by_cases hboundary : isWordBoundary c = true
  · have hplain : ¬ isCapital (front ++ [b]) c := by
      rw [isCapital_concat, isAlphabetic_of_isWordBoundary hboundary]
      exact fun h => Bool.false_ne_true h.1
    rw [if_pos hboundary, titled, if_neg hplain, hboundary]
    rfl
  · rw [if_neg hboundary, Bool.eq_false_iff.mpr hboundary, titled]
    by_cases hcapital : isCapital (front ++ [b]) c
    · have hboth := (isCapital_concat front b c).mp hcapital
      rw [if_pos hcapital, hboth.1, hboth.2]
      rfl
    · have hboth := mt (isCapital_concat front b c).mpr hcapital
      rw [and_comm, ← Bool.and_eq_true_iff] at hboth
      rw [if_neg hcapital, if_neg hboth]
      rfl

/-- The walk gives every character what its place says. -/
theorem titleFrom_eq (front : List Char) (b : Char) (rest : List Char) :
    titleFrom b (remembers (front ++ [b])) rest
      = (rest.mapIdx fun i c => titled (front ++ [b] ++ rest.take i) c).flatten := by
  induction rest generalizing front b with
  | nil => rfl
  | cons c rest ih =>
    rw [titleFrom_cons, ih (front ++ [b]) c, List.mapIdx_cons, List.flatten_cons, List.take_zero,
      List.append_nil]
    simp only [List.take_succ_cons, List.append_assoc, List.cons_append, List.nil_append]

theorem toList_title (text : String) :
    (title text).toList
      = (text.toList.mapIdx fun i c => titled (text.toList.take i) c).flatten := by
  rw [title]
  rcases text.toList with - | ⟨c, rest⟩
  · rfl
  · have hwalk := titleFrom_eq [] c rest
    rw [remembers_singleton] at hwalk
    simp only [String.toList_ofList, List.mapIdx_cons, List.flatten_cons, List.take_zero,
      titled_nil, hwalk, List.take_succ_cons, List.nil_append, List.singleton_append]

/-! ## Titles of texts -/

/-- The first character of a title is a capital, and so is each letter behind a separator that is no
apostrophe right behind a letter, unless the separator is the first character. All else stays. -/
theorem capitals_of_title (a : Tree) (position : Position) (text : String) :
    evalTree standard [.call "title" [a] position] = (do return title (← evalTree standard a))
    ∧ (title text).toList = (text.toList.mapIdx fun i c =>
      if i = 0 ∨ 1 < i ∧ isAlphabetic c = true ∧ endsWord (text.toList.take i) = true
      then upperChar c else [c]).flatten := by
  refine ⟨evalTree_ofOne ((find?_standard _).trans rfl) position, ?_⟩
  rw [toList_title]
  refine congrArg List.flatten (List.mapIdx_eq_mapIdx_iff.mpr fun i hi => ?_)
  have hempty : text.toList.take i = [] ↔ i = 0 := by
    rw [List.take_eq_nil_iff, or_iff_left (List.ne_nil_of_length_pos (Nat.zero_lt_of_lt hi))]
  simp only [titled, isCapital, hempty, List.length_take_of_le (Nat.le_of_lt hi)]

/-- Behind a separator at the very start a letter stays small. -/
theorem second_letter_small :
    ¬ ∀ text : String, (title text).toList = (text.toList.mapIdx fun i c =>
      if i = 0 ∨ isAlphabetic c = true ∧ endsWord (text.toList.take i) = true
      then upperChar c else [c]).flatten := by
  intro h
  have hends : endsWord ['-'] = true := by
    have hdash : isWordBoundary '-' = true := separatesWords_dash
    rw [endsWord, List.getLast?_singleton, Option.any_some, hdash]
    rfl
  have hsmall : titled ['-'] 'a' = ['a'] := if_neg (by simp [isCapital])
  have hletter : isAlphabetic 'a' = true := rfl
  have hgiven := h "-a"
  have hchars : "-a".toList = ['-', 'a'] := rfl
  rw [toList_title, hchars] at hgiven
  simp only [List.mapIdx_cons, List.mapIdx_nil, List.take_zero, List.take_succ_cons, titled_nil,
    hsmall, hends, hletter, true_or, and_self, or_true, if_true, List.flatten_cons,
    List.flatten_nil, List.append_nil] at hgiven
  exact absurd hgiven (by decide)

end Retag.Library.Texts

import Retag.Proofs.Regex.LeadingWords
import Retag.Proofs.Running.ValueCalls

/-!
# Leading words

A word is cut off the start of a text together with the white space behind it, and the first of
several words that can be cut off is. This is what a search for the words finds, written as a
regular expression in which each of their characters stands for itself.
-/

namespace Retag.Library.Texts

open Script Unicode Regex Regex.Pattern Regex.Words Retag.Text

/-! ## Cutting words off -/

variable {word text blanks rest : List Char}

theorem afterWord?_of_leads {word : String} (h : Leads word.toList text blanks rest) :
    afterWord? text word = some (rest, trim word) := by
  obtain ⟨c, blanks, rfl⟩ := List.exists_cons_of_ne_nil h.blanks_ne_nil
  have hafter : afterPrefix? word.toList text = some (c :: (blanks ++ rest)) :=
    List.isPrefixOf?_eq_some_iff_append_eq.mpr h.whole.symm
  have hblanks := List.forall_mem_cons.mp h.blank
  rw [afterWord?, hafter]
  simp only [if_pos hblanks.1, dropWhile_run hblanks.2 h.ends]

theorem leads_of_afterWord? {word : String} {cut : List Char × String}
    (h : afterWord? text word = some cut) : ∃ blanks, Leads word.toList text blanks cut.1 := by
  rw [afterWord?] at h
  split at h
  case h_2 => cases h
  case h_1 c after hafter =>
    split at h
    case isFalse => cases h
    case isTrue hc =>
      obtain ⟨run, rest, rfl, hrun, hrest⟩ := exists_run isBlank after
      rw [dropWhile_run hrun hrest] at h
      obtain rfl := Option.some.inj h
      exact ⟨c :: run, (List.isPrefixOf?_eq_some_iff_append_eq.mp hafter).symm,
        List.cons_ne_nil _ _, List.forall_mem_cons.mpr ⟨hc, hrun⟩, hrest⟩

/-- Nothing is cut off exactly if no white space follows the word. -/
theorem afterWord?_eq_none_iff {word : String} :
    afterWord? text word = none ↔ Misses text word := by
  constructor
  · intro hnone blanks rest h
    rw [afterWord?_of_leads h] at hnone
    cases hnone
  · intro h
    rcases hcut : afterWord? text word with - | cut
    · rfl
    · obtain ⟨blanks, hleads⟩ := leads_of_afterWord? hcut
      exact absurd hleads (h blanks _)

/-- Behind a word at the start of a trimmed text something is left. -/
theorem rest_ne_nil_of_leads {text : String} (h : Leads word (trim text).toList blanks rest) :
    rest ≠ [] := by
  obtain ⟨hwhole, hne, hblank, -⟩ := h
  rintro rfl
  have hlast : (trim text).toList.getLast? = some (blanks.getLast hne) := by
    rw [hwhole, List.append_nil, List.getLast?_append, List.getLast?_eq_some_getLast hne,
      Option.some_or]
  rw [trim, String.toList_ofList] at hlast
  exact not_getLast?_stripWhile _ _ hlast (hblank _ (List.getLast_mem hne))

theorem trim_of_leads {text word : String}
    (h : Leads word.toList (trim text).toList blanks rest) : trim word = trimEnd word := by
  have hfirst : word.toList.dropWhile isBlank = word.toList := by
    rcases hword : word.toList with - | ⟨c, more⟩
    · rfl
    · refine List.dropWhile_cons_of_neg ?_
      have hhead : (trim text).toList.head? = some c := by
        rw [h.whole, hword]
        rfl
      rw [trim, String.toList_ofList] at hhead
      exact not_head?_stripWhile _ c hhead
  rw [trim, trimEnd, stripWhile, hfirst]

/-- The words to look for: some are taken if none are named. -/
def listed (words : List String) : List String :=
  if words.isEmpty then defaultPrefixes else words

theorem listed_ne_nil (words : List String) : listed words ≠ [] := by
  rcases words with - | ⟨word, words⟩
  · exact List.cons_ne_nil _ _
  · exact List.cons_ne_nil _ _

theorem cutPrefix_of_leads {text word : String} {words front back : List String}
    (hwords : listed words = front ++ word :: back)
    (hfront : ∀ other ∈ front, Misses (trim text).toList other)
    (h : Leads word.toList (trim text).toList blanks rest) :
    cutPrefix text words = (String.ofList rest, some (trimEnd word)) := by
  have hfound : (listed words).findSome? (afterWord? (trim text).toList)
      = some (rest, trim word) :=
    List.findSome?_eq_some_iff.mpr ⟨front, word, back, hwords, afterWord?_of_leads h,
      fun other hother => afterWord?_eq_none_iff.mpr (hfront other hother)⟩
  rw [listed] at hfound
  simp only [cutPrefix, hfound, trim_of_leads h]

theorem cutPrefix_of_misses {text : String} {words : List String}
    (h : ∀ word ∈ listed words, Misses (trim text).toList word) :
    cutPrefix text words = (trim text, none) := by
  have hnone : (listed words).findSome? (afterWord? (trim text).toList) = none :=
    List.findSome?_eq_none_iff.mpr fun word hword => afterWord?_eq_none_iff.mpr (h word hword)
  rw [listed] at hnone
  simp only [cutPrefix, hnone]

/-! ## Cutting and swapping -/

/-- Of the words with white space behind them at the start of the trimmed text the first one is cut
off or moved to the end, and without one the trimmed text is all. That is what is found for the
pattern of the words, in which no character of theirs means anything but itself. -/
theorem leading_words_cut (text : String) (words : List String) :
    (∀ front word back blanks rest, listed words = front ++ word :: back →
      (∀ other ∈ front, Misses (trim text).toList other) →
      Leads word.toList (trim text).toList blanks rest →
      rest ≠ [] ∧ deletePrefix text words = String.ofList rest
        ∧ swapPrefix text words = String.ofList rest ++ ", " ++ trimEnd word
        ∧ ∀ before taken after,
          Found (leadingExpression (listed words)) (trim text).toList before taken after
            ↔ before = [] ∧ taken = word.toList ++ blanks ∧ after = rest)
    ∧ ((∀ word ∈ listed words, Misses (trim text).toList word) →
      deletePrefix text words = trim text ∧ swapPrefix text words = trim text
        ∧ ∀ before taken after,
          ¬ Found (leadingExpression (listed words)) (trim text).toList before taken after)
    ∧ Pattern.parse? (leadingPattern (listed words))
      = (if (leadingExpression (listed words)).weight ≤ maxWeight then
          some (leadingExpression (listed words), []) else none)
    ∧ ∀ (a : Tree) (args : List Tree) (position : Position),
      evalTree standard [.call "delprefix" (a :: args) position] = (do
        let text ← evalTree standard a
        let words ← Argument.valuesOf (argumentsOf standard args)
        return deletePrefix text words)
      ∧ evalTree standard [.call "swapprefix" (a :: args) position] = (do
        let text ← evalTree standard a
        let words ← Argument.valuesOf (argumentsOf standard args)
        return swapPrefix text words) := by
  refine ⟨fun front word back blanks rest hwords hfront h => ?_, fun h => ?_,
    parse_leadingPattern (listed_ne_nil words), fun a args position =>
      ⟨evalTree_ofFirst ((find?_standard _).trans rfl) position,
        evalTree_ofFirst ((find?_standard _).trans rfl) position⟩⟩
  · have hcut := cutPrefix_of_leads hwords hfront h
    have hfound := @found_leading _ _ _ word front back hfront h
    rw [← hwords] at hfound
    refine ⟨rest_ne_nil_of_leads h, by rw [deletePrefix, hcut], by rw [swapPrefix, hcut],
      fun before taken after => ⟨fun hother => hfound.unique hother, ?_⟩⟩
    rintro ⟨rfl, rfl, rfl⟩
    exact hfound
  · have hcut := cutPrefix_of_misses h
    exact ⟨by rw [deletePrefix, hcut], by rw [swapPrefix, hcut],
      fun _ _ _ => not_found_leading (listed_ne_nil words) h⟩

theorem leading_words_cut_dot :
    deletePrefix " A  x " ["A.", "A"] = "x" ∧ swapPrefix " A  x " ["A.", "A"] = "x, A" := by
  have htext : (trim " A  x ").toList = ['A', ' ', ' ', 'x'] := by decide
  have hmissed : ∀ other ∈ ["A."], Misses (trim " A  x ").toList other := by
    rw [htext]
    rintro other hother blanks rest h
    rw [List.mem_singleton.mp hother] at h
    exact absurd (List.cons.inj (List.cons.inj h.whole).2).1 (by decide)
  have hleads : Leads "A".toList (trim " A  x ").toList [' ', ' '] ['x'] := by
    rw [htext]
    exact ⟨rfl, List.cons_ne_nil _ _, by simp [isBlank], by rintro c ⟨⟩; decide⟩
  obtain ⟨-, hdelete, hswap, -⟩ := (leading_words_cut " A  x " ["A.", "A"]).1 ["A."] "A" []
    [' ', ' '] ['x'] rfl hmissed hleads
  exact ⟨hdelete, hswap.trans (by decide)⟩

end Retag.Library.Texts

import Retag.Proofs.Text.Splitting
import Retag.ValueList

/-!
# The list that a text stands for

A text and a separator stand for the list of the non-empty pieces. Joined again, the pieces are a
text that stands for the same list. This is so for every separator: between two pieces that are kept
stood at least one occurrence, so each of them is followed by the separator as it was in the text,
and no earlier occurrence begins in it.
-/

namespace Retag.ValueList

open Text

variable {text separator v : String}

theorem values_ofText (h : separator ≠ "") :
    (ofText text separator).values = (split text separator).filter (!·.isEmpty) := by
  simp [ofText, h]

theorem values_ofText_empty (text : String) :
    (ofText text "").values = if text = "" then [] else [text] := by
  by_cases h : text = "" <;> simp [ofText, h]

theorem ne_empty_of_mem_ofText (h : v ∈ (ofText text separator).values) : v ≠ "" := by
  have hfull := (List.mem_filter.mp h).2
  simpa using hfull

theorem not_infix_of_mem_ofText (hseparator : separator ≠ "")
    (h : v ∈ (ofText text separator).values) : ¬ separator.toList <:+: v.toList := by
  rw [values_ofText hseparator] at h
  exact not_infix_of_mem_split hseparator (List.mem_filter.mp h).1

theorem comeApart_ofText (h : separator ≠ "") (text : String) :
    ComeApart separator.toList ((ofText text separator).values.map (·.toList)) := by
  have hfilter := (comeApart_split h text).filter fun piece => !(String.ofList piece).isEmpty
  rw [List.filter_map] at hfilter
  rw [values_ofText h]
  simpa [Function.comp_def] using hfilter

/-- All values of a text are shown. -/
theorem shown_ofText (text separator : String) :
    (ofText text separator).shown = (ofText text separator).values := by
  refine List.filter_eq_self.mpr fun v hv => ?_
  simpa using ne_empty_of_mem_ofText hv

theorem text_ofText (text separator : String) :
    (ofText text separator).text = separator.intercalate (ofText text separator).values :=
  congrArg (String.intercalate separator) (shown_ofText text separator)

theorem values_ofText_nothing (separator : String) : (ofText "" separator).values = [] := by
  by_cases h : separator = ""
  · simp [h, values_ofText_empty]
  · have hchars : separator.toList ≠ [] := mt String.toList_eq_nil_iff.mp h
    simp [values_ofText h, split, cut_of_ne_nil hchars, cutFrom]

/-- Values that are not empty and come apart are what their text stands for. -/
theorem values_ofText_intercalate (hseparator : separator ≠ "") {values : List String}
    (hfull : ∀ v ∈ values, v ≠ "") (h : ComeApart separator.toList (values.map (·.toList))) :
    (ofText (separator.intercalate values) separator).values = values := by
  by_cases hvalues : values = []
  · simp [hvalues, values_ofText_nothing]
  · rw [values_ofText hseparator, split_intercalate_of_comeApart hseparator hvalues h]
    refine List.filter_eq_self.mpr fun v hv => ?_
    simpa using hfull v hv

/-- The values of a text are not empty and do not hold the separator, and the text that they are
joined to has the same values. -/
theorem splitting_stable (text separator : String) :
    let list := ofText text separator
    (∀ v ∈ list.values, v ≠ "") ∧
    (separator ≠ "" → ∀ v ∈ list.values, ¬ separator.toList <:+: v.toList) ∧
    (ofText list.text separator).values = list.values := by
  refine ⟨fun v => ne_empty_of_mem_ofText, fun h v => not_infix_of_mem_ofText h, ?_⟩
  rw [text_ofText]
  by_cases h : separator = ""
  · subst h
    rw [values_ofText_empty]
    by_cases htext : text = "" <;> simp [values_ofText_empty, htext]
  · exact values_ofText_intercalate h (fun v => ne_empty_of_mem_ofText) (comeApart_ofText h text)

/-- Where a separator overlaps itself the first place counts; the rest goes to the next value. -/
theorem splitting_stable_overlap :
    let list := ofText ";;;a;;;;;b;;" ";;"
    ";;" ≠ "" ∧ list.values = [";a", ";b"] ∧ ";b" ≠ "" ∧ ¬ ";;".toList <:+: ";b".toList ∧
    (ofText list.text ";;").values = [";a", ";b"] := by
  intro list
  have hvalues : list.values = [";a", ";b"] := by decide
  have hseparator : ";;" ≠ "" := by decide
  have hmem : ";b" ∈ list.values := by simp [hvalues]
  obtain ⟨hfull, happart, hagain⟩ := splitting_stable ";;;a;;;;;b;;" ";;"
  exact ⟨hseparator, hvalues, hfull ";b" hmem, happart hseparator ";b" hmem,
    hagain.trans hvalues⟩

end Retag.ValueList

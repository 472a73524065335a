import Mathlib.Data.List.Infix
import Retag.Text.Search

/-!
# Cutting a text and joining the pieces

A text that was joined from pieces is cut into the same pieces again if no occurrence of the
separator starts in a piece before the separator behind it. The pieces that a text was cut into are
always such, also without some of them. Other pieces are if none holds the separator and the
separator does not overlap itself: an occurrence that starts in a piece would have to end in it too.
-/

namespace Retag.Text

variable {sep word rest piece text : List Char}

/-- No occurrence of `sep` in `word ++ rest` starts inside `word`. -/
def StartsBehind (sep word rest : List Char) : Prop :=
  ∀ before after, word = before ++ after → after ≠ [] → ¬ sep <+: after ++ rest

/-- No end of `sep` but the whole is a start of it. -/
def Unbordered (sep : List Char) : Prop :=
  ∀ before after, sep = before ++ after → before ≠ [] → after ≠ [] → ¬ after <+: sep

theorem unbordered_singleton (c : Char) : Unbordered [c] := by
  intro before after h hb ha
  have hlength := congrArg List.length h
  have hbefore := List.length_pos_iff.mpr hb
  have hafter := List.length_pos_iff.mpr ha
  simp only [List.length_singleton, List.length_append] at hlength
  omega

/-- Two different characters are a separator that does not overlap itself. -/
theorem unbordered_pair {c d : Char} (hcd : c ≠ d) : Unbordered [c, d] := by
  intro before after h hb ha hstart
  obtain ⟨b, before, rfl⟩ := List.exists_cons_of_ne_nil hb
  obtain ⟨rfl, hrest⟩ := List.cons_eq_cons.mp h
  rcases before with _ | ⟨b', before⟩
  · obtain rfl : [d] = after := hrest
    exact hcd (List.cons_prefix_cons.mp hstart).1.symm
  · obtain ⟨-, hnil⟩ := List.cons_eq_cons.mp hrest
    exact ha (List.append_eq_nil_iff.mp hnil.symm).2

/-! ## Where separators start -/

namespace StartsBehind

theorem nil : StartsBehind sep [] rest := by
  intro before after h ha
  exact absurd (List.append_eq_nil_iff.mp h.symm).2 ha

theorem head {c : Char} (h : StartsBehind sep (c :: word) rest) : ¬ sep <+: c :: (word ++ rest) :=
  h [] (c :: word) rfl (List.cons_ne_nil c word)

theorem tail {c : Char} (h : StartsBehind sep (c :: word) rest) : StartsBehind sep word rest := by
  intro before after hw
  exact h (c :: before) after (congrArg (c :: ·) hw)

/-- One more character may be counted to the word if no occurrence starts there. -/
theorem snoc {c : Char} (h : StartsBehind sep word (c :: rest)) (hc : ¬ sep <+: c :: rest) :
    StartsBehind sep (word ++ [c]) rest := by
  intro before after hw ha
  rcases List.eq_nil_or_concat' after with rfl | ⟨after, d, rfl⟩
  · exact absurd rfl ha
  · rw [← List.append_assoc] at hw
    obtain ⟨rfl, hd⟩ := List.append_inj' hw rfl
    obtain rfl : c = d := List.head_eq_of_cons_eq hd
    rw [List.append_assoc, List.singleton_append]
    by_cases hafter : after = []
    · rw [hafter, List.nil_append]
      exact hc
    · exact h before after rfl hafter

/-- A word in front of which no occurrence is cut off holds none. -/
theorem not_occurs (hsep : sep ≠ []) (h : StartsBehind sep word rest) : ¬ sep <:+: word := by
  rintro ⟨before, behind, rfl⟩
  refine h before (sep ++ behind) (List.append_assoc ..) ?_ ?_
  · exact fun hnil => hsep (List.append_eq_nil_iff.mp hnil).1
  · rw [List.append_assoc]
    exact List.prefix_append ..

/-- At the end of a text no occurrence is cut off. -/
theorem of_not_occurs (h : ¬ sep <:+: word) : StartsBehind sep word [] := by
  rintro before after rfl - hstart
  rw [List.append_nil] at hstart
  exact h (hstart.isInfix.trans (List.suffix_append ..).isInfix)

/-- Where an occurrence is cut off by a separator, the rest of the text does not matter. -/
theorem sep_append_iff : StartsBehind sep word (sep ++ rest) ↔ StartsBehind sep word sep := by
  constructor
  · intro h before after hw ha hstart
    refine h before after hw ha ?_
    rw [← List.append_assoc]
    exact hstart.trans (List.prefix_append ..)
  · intro h before after hw ha hstart
    refine h before after hw ha ?_
    rw [← List.append_assoc] at hstart
    exact List.prefix_of_prefix_length_le hstart (List.prefix_append ..) (by simp)

/-- An occurrence that starts in a word before a separator ends in the word, or the separator
overlaps itself. -/
theorem before_sep (hborder : Unbordered sep) (h : ¬ sep <:+: word) :
    StartsBehind sep word sep := by
  rintro before after rfl hafter hstart
  by_cases hlength : sep.length ≤ after.length
  · have hin : sep <+: after := List.prefix_of_prefix_length_le hstart
      (List.prefix_append ..) hlength
    exact h (hin.isInfix.trans (List.suffix_append ..).isInfix)
  · obtain ⟨behind, hsep⟩ : after <+: sep :=
      List.prefix_of_prefix_length_le (List.prefix_append ..) hstart (Nat.le_of_not_le hlength)
    have hbehind : behind ≠ [] := by
      rintro rfl
      rw [List.append_nil] at hsep
      exact hlength (Nat.le_of_eq (congrArg List.length hsep.symm))
    refine hborder after behind hsep.symm hafter hbehind ?_
    have hoverlap : behind <+: sep := by
      rw [← hsep] at hstart
      have htail := (List.prefix_append_right_inj after).mp hstart
      rwa [hsep] at htail
    exact hoverlap

end StartsBehind

/-! ## Steps of cutting -/

-- The equations are derived once here, and not in every proof that takes a step.
attribute [local simp] cutFrom

theorem cutFrom_skip (sep piece before rest : List Char) :
    cutFrom sep before.length piece (before ++ rest) = cutFrom sep 0 piece rest := by
  induction before with
  | nil => rfl
  | cons c before ih => exact ih

theorem cutFrom_sep (hsep : sep ≠ []) (piece rest : List Char) :
    cutFrom sep 0 piece (sep ++ rest) = piece.reverse :: cutFrom sep 0 [] rest := by
  obtain ⟨c, cs, rfl⟩ := List.exists_cons_of_ne_nil hsep
  have hstart : (c :: cs).isPrefixOf (c :: (cs ++ rest)) = true :=
    List.isPrefixOf_iff_prefix.mpr (List.prefix_append ..)
  rw [List.cons_append, cutFrom, if_pos hstart]
  exact congrArg (piece.reverse :: ·) (cutFrom_skip (c :: cs) [] cs rest)

theorem cutFrom_word (h : StartsBehind sep word rest) (piece : List Char) :
    cutFrom sep 0 piece (word ++ rest) = cutFrom sep 0 (word.reverse ++ piece) rest := by
  induction word generalizing piece with
  | nil => rfl
  | cons c word ih =>
    have hc : ¬ sep.isPrefixOf (c :: (word ++ rest)) = true :=
      mt List.isPrefixOf_iff_prefix.mp h.head
    rw [List.cons_append, cutFrom, if_neg hc, ih h.tail, List.reverse_cons, List.append_assoc]
    rfl

theorem cutFrom_ne_nil (sep : List Char) (skip : Nat) (piece text : List Char) :
    cutFrom sep skip piece text ≠ [] := by
  fun_induction cutFrom sep skip piece text with
  | case1 | case3 => exact List.cons_ne_nil _ _
  | case2 _ _ _ _ ih | case4 _ _ _ _ ih => exact ih

/-- The pieces that a text is cut into are joined to the text again. -/
theorem intercalate_cutFrom (hsep : sep ≠ []) (skip : Nat) (piece text : List Char) :
    sep.intercalate (cutFrom sep skip piece text) = piece.reverse ++ text.drop skip := by
  fun_induction cutFrom sep skip piece text with
  | case1 skip piece => simp
  | case2 skip piece c rest ih => exact ih
  | case3 piece c rest hstart ih =>
    obtain ⟨behind, hbehind⟩ := List.isPrefixOf_iff_prefix.mp hstart
    have hrest : rest.drop (sep.length - 1) = behind := by
      have hlength : 0 < sep.length := List.length_pos_iff.mpr hsep
      have hdrop : (c :: rest).drop sep.length = behind := by rw [← hbehind, List.drop_left]
      rwa [← Nat.sub_add_cancel hlength, List.drop_succ_cons] at hdrop
    obtain ⟨next, others, hothers⟩ := List.exists_cons_of_ne_nil
      (cutFrom_ne_nil sep (sep.length - 1) [] rest)
    rw [hothers] at ih ⊢
    rw [List.intercalate_cons_cons, ih, hrest, List.drop_zero, ← hbehind, List.reverse_nil,
      List.nil_append, List.append_assoc]
  | case4 piece c rest hstart ih =>
    rw [ih, List.reverse_cons, List.append_assoc]
    rfl

/-! ## Cutting at one character -/

theorem cutFrom_singleton_cons (c d : Char) (piece rest : List Char) :
    cutFrom [c] 0 piece (d :: rest)
      = if d = c then piece.reverse :: cutFrom [c] 0 [] rest
        else cutFrom [c] 0 (d :: piece) rest := by
  rw [cutFrom]
  by_cases h : d = c <;> simp [h, Ne.symm]

theorem cutFrom_append_cons (c : Char) (piece text rest : List Char) :
    cutFrom [c] 0 piece (text ++ c :: rest)
      = cutFrom [c] 0 piece text ++ cutFrom [c] 0 [] rest := by
  induction text generalizing piece with
  | nil => rw [List.nil_append, cutFrom_singleton_cons, if_pos rfl, cutFrom, List.singleton_append]
  | cons d text ih =>
    rw [List.cons_append, cutFrom_singleton_cons, cutFrom_singleton_cons, ih, ih]
    split <;> rfl

theorem length_cutFrom (c : Char) (piece text : List Char) :
    (cutFrom [c] 0 piece text).length = text.count c + 1 := by
  induction text generalizing piece with
  | nil => rfl
  | cons d text ih =>
    rw [cutFrom_singleton_cons, List.count_cons]
    by_cases h : d = c <;> simp [h, ih]

/-! ## Pieces that come apart -/

/-- Pieces that are told from the separators between them: in none an occurrence starts, also not
one that ends in the separator behind it. -/
inductive ComeApart (sep : List Char) : List (List Char) → Prop
  | nil : ComeApart sep []
  | last {piece : List Char} : ¬ sep <:+: piece → ComeApart sep [piece]
  | before {piece : List Char} {rest : List (List Char)} :
      StartsBehind sep piece sep → ComeApart sep rest → ComeApart sep (piece :: rest)

namespace ComeApart

variable {pieces : List (List Char)}

theorem of_unbordered (hborder : Unbordered sep) (h : ∀ p ∈ pieces, ¬ sep <:+: p) :
    ComeApart sep pieces := by
  induction pieces with
  | nil => exact .nil
  | cons p rest ih =>
    obtain ⟨hp, hrest⟩ := List.forall_mem_cons.mp h
    exact .before (.before_sep hborder hp) (ih hrest)

theorem not_occurs (hsep : sep ≠ []) (h : ComeApart sep pieces) : ∀ p ∈ pieces, ¬ sep <:+: p := by
  induction h with
  | nil => simp
  | last hp => simpa using hp
  | before hp _ ih => exact List.forall_mem_cons.mpr ⟨hp.not_occurs hsep, ih⟩

/-- Some of the pieces may be left out. -/
theorem filter (q : List Char → Bool) (h : ComeApart sep pieces) :
    ComeApart sep (pieces.filter q) := by
  induction h with
  | nil => exact .nil
  | @last piece hp =>
    by_cases hq : q piece
    · simpa [hq] using ComeApart.last hp
    · simpa [hq] using ComeApart.nil
  | @before piece rest hp _ ih =>
    by_cases hq : q piece
    · simpa [hq] using ComeApart.before hp ih
    · simpa [hq] using ih

/-- Pieces that come apart are cut out of the text that is joined from them. -/
theorem cutFrom_intercalate (hsep : sep ≠ []) (h : ComeApart sep pieces) (hpieces : pieces ≠ []) :
    cutFrom sep 0 [] (sep.intercalate pieces) = pieces := by
  have single {p : List Char} (hp : ¬ sep <:+: p) :
      cutFrom sep 0 [] (sep.intercalate [p]) = [p] := by
    have hcut := cutFrom_word (.of_not_occurs hp) []
    simpa using hcut
  induction h with
  | nil => exact absurd rfl hpieces
  | last hp => exact single hp
  | @before piece rest hp hrest ih =>
    rcases rest with _ | ⟨second, rest⟩
    · exact single (hp.not_occurs hsep)
    · have hword : StartsBehind sep piece (sep ++ sep.intercalate (second :: rest)) :=
        StartsBehind.sep_append_iff.mpr hp
      rw [List.intercalate_cons_cons, List.append_assoc, cutFrom_word hword, cutFrom_sep hsep,
        ih (List.cons_ne_nil second rest)]
      simp

end ComeApart

/-- What a text is cut into comes apart: a piece ends at the first occurrence behind its start. -/
theorem comeApart_cutFrom (hsep : sep ≠ []) {skip : Nat} (hskip : skip = 0 ∨ piece = [])
    (hpiece : StartsBehind sep piece.reverse text) :
    ComeApart sep (cutFrom sep skip piece text) := by
  fun_induction cutFrom sep skip piece text with
  | case1 skip piece => exact .last (hpiece.not_occurs hsep)
  | case2 skip piece c rest ih =>
    obtain rfl : piece = [] := hskip.resolve_left (Nat.succ_ne_zero skip)
    exact ih (.inr rfl) .nil
  | case3 piece c rest hstart ih =>
    obtain ⟨behind, hbehind⟩ := List.isPrefixOf_iff_prefix.mp hstart
    rw [← hbehind, StartsBehind.sep_append_iff] at hpiece
    exact .before hpiece (ih (.inr rfl) .nil)
  | case4 piece c rest hstart ih =>
    refine ih (.inl rfl) ?_
    rw [List.reverse_cons]
    exact hpiece.snoc (mt List.isPrefixOf_iff_prefix.mpr hstart)

/-! ## Texts -/

theorem cut_of_ne_nil (hsep : sep ≠ []) (text : List Char) :
    cut sep text = cutFrom sep 0 [] text := by
  rw [cut, if_neg (mt List.isEmpty_iff.mp hsep)]

/-- The pieces of a text are joined to it again. -/
theorem intercalate_split {sep : String} (hsep : sep ≠ "") (text : String) :
    sep.intercalate (split text sep) = text := by
  have hchars : sep.toList ≠ [] := mt String.toList_eq_nil_iff.mp hsep
  apply String.toList_injective
  rw [String.toList_intercalate, split, cut_of_ne_nil hchars, List.map_map]
  simpa [Function.comp_def] using intercalate_cutFrom hchars 0 [] text.toList

theorem comeApart_split {sep : String} (hsep : sep ≠ "") (text : String) :
    ComeApart sep.toList ((split text sep).map (·.toList)) := by
  have hchars : sep.toList ≠ [] := mt String.toList_eq_nil_iff.mp hsep
  have hcut : ComeApart sep.toList (cutFrom sep.toList 0 [] text.toList) :=
    comeApart_cutFrom hchars (.inl rfl) .nil
  rw [split, cut_of_ne_nil hchars, List.map_map]
  simpa [Function.comp_def] using hcut

/-- Pieces that come apart come back as they were joined. -/
theorem split_intercalate_of_comeApart {sep : String} (hsep : sep ≠ "") {pieces : List String}
    (hpieces : pieces ≠ []) (h : ComeApart sep.toList (pieces.map (·.toList))) :
    split (sep.intercalate pieces) sep = pieces := by
  have hchars : sep.toList ≠ [] := mt String.toList_eq_nil_iff.mp hsep
  have hcut := h.cutFrom_intercalate hchars (mt List.map_eq_nil_iff.mp hpieces)
  rw [split, cut_of_ne_nil hchars, String.toList_intercalate, hcut, List.map_map]
  simp [Function.comp_def]

/-- Pieces without the separator come back as they were joined. -/
theorem split_intercalate {sep : String} (hsep : sep ≠ "") (hborder : Unbordered sep.toList)
    {pieces : List String} (hpieces : pieces ≠ []) (h : ∀ p ∈ pieces, ¬ sep.toList <:+: p.toList) :
    split (sep.intercalate pieces) sep = pieces :=
  split_intercalate_of_comeApart hsep hpieces
    (.of_unbordered hborder (List.forall_mem_map.mpr h))

/-- No piece holds the separator that the text was split at. -/
theorem not_infix_of_mem_split {text sep p : String} (hsep : sep ≠ "") (h : p ∈ split text sep) :
    ¬ sep.toList <:+: p.toList := by
  have hchars : sep.toList ≠ [] := mt String.toList_eq_nil_iff.mp hsep
  exact (comeApart_split hsep text).not_occurs hchars _ (List.mem_map_of_mem h)

end Retag.Text

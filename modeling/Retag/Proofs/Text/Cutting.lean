import Mathlib.Data.List.DropRight
import Retag.Text.Search
import Retag.Unicode.Blank

/-!
# Stripping and cutting

What a text is without the characters at its ends that do not count, where it is cut in two at the
first character of a kind, and which fields are between all of them.
-/

namespace Retag.Unicode

variable {p : Char → Bool} {before core after text : List Char} {c : Char}

theorem stripWhile_append (hbefore : ∀ c ∈ before, p c) (text : List Char) :
    stripWhile p (before ++ text) = stripWhile p text := by
  rw [stripWhile, List.dropWhile_append_of_pos hbefore, stripWhile]

/-- Stripping takes off what is around a core with other characters at its ends. -/
theorem stripWhile_around (hbefore : ∀ c ∈ before, p c) (hafter : ∀ c ∈ after, p c)
    (hfirst : ∀ c ∈ core.head?, ¬ p c) (hlast : ∀ c ∈ core.getLast?, ¬ p c) :
    stripWhile p (before ++ (core ++ after)) = core := by
  rw [stripWhile_append hbefore, stripWhile]
  rcases core with - | ⟨c, core⟩
  · have hnone : after.dropWhile p = [] := List.dropWhile_eq_nil_iff.mpr hafter
    rw [List.nil_append, hnone]
    rfl
  · have hdropped (a : Char) (ha : a ∈ after.reverse) : p a := hafter a (List.mem_reverse.mp ha)
    rw [List.cons_append, List.dropWhile_cons_of_neg (hfirst c rfl), ← List.cons_append,
      dropEndWhile, List.reverse_append, List.dropWhile_append_of_pos hdropped]
    refine List.rdropWhile_eq_self_iff.mpr fun hne => ?_
    exact hlast _ (List.getLast?_eq_some_getLast hne)

theorem stripWhile_eq_self (hfirst : ∀ c ∈ core.head?, ¬ p c)
    (hlast : ∀ c ∈ core.getLast?, ¬ p c) : stripWhile p core = core := by
  have h := @stripWhile_around p [] core [] nofun nofun hfirst hlast
  rwa [List.nil_append, List.append_nil] at h

/-- A character that is not stripped stays first. -/
theorem head?_stripWhile_cons (hc : ¬ p c) (text : List Char) :
    (stripWhile p (c :: text)).head? = some c := by
  have hne : (c :: text).rdropWhile p ≠ [] := fun hnil =>
    hc (List.rdropWhile_eq_nil_iff.mp hnil c List.mem_cons_self)
  have hstart : (c :: text).rdropWhile p <+: c :: text := List.rdropWhile_prefix p _
  rw [stripWhile, List.dropWhile_cons_of_neg hc]
  exact (List.head?_eq_some_head hne).trans (congrArg some (hstart.head hne))

theorem not_head?_stripWhile (text : List Char) : ∀ a ∈ (stripWhile p text).head?, ¬ p a := by
  intro a ha
  have hfirst := List.head?_dropWhile_not p text
  obtain ⟨after, hafter⟩ : (text.dropWhile p).rdropWhile p <+: text.dropWhile p :=
    List.rdropWhile_prefix p _
  obtain ⟨rest, hrest⟩ := List.head?_eq_some_iff.mp ha
  have hcut : stripWhile p text = (text.dropWhile p).rdropWhile p := rfl
  rw [← hafter, ← hcut, hrest] at hfirst
  exact Bool.eq_false_iff.mp hfirst

theorem not_getLast?_stripWhile (text : List Char) :
    ∀ a ∈ (stripWhile p text).getLast?, ¬ p a := by
  intro a ha
  have hne : stripWhile p text ≠ [] := by
    rintro hnil
    rw [hnil] at ha
    cases ha
  rw [List.getLast?_eq_some_getLast hne] at ha
  exact Option.some.inj ha ▸ List.rdropWhile_last_not p _ hne

/-- A text ends as its last part does, or with the character in front of it. -/
theorem getLast?_cons_not (hc : ¬ p c) (htext : ∀ a ∈ text.getLast?, ¬ p a) (before : List Char) :
    ∀ a ∈ (before ++ c :: text).getLast?, ¬ p a := by
  intro a ha
  rw [List.getLast?_append, List.getLast?_cons, Option.some_or] at ha
  obtain rfl := Option.some.inj ha
  rcases hlast : text.getLast? with - | last
  · exact hc
  · exact htext last hlast

end Retag.Unicode

namespace Retag.Text

variable {p : Char → Bool} {before after : List Char} {c : Char}

/-- A text is a run of characters of the kind and a rest that starts with none. -/
theorem exists_run (p : Char → Bool) (text : List Char) :
    ∃ run rest, text = run ++ rest ∧ (∀ c ∈ run, p c) ∧ ∀ c ∈ rest.head?, ¬ p c := by
  refine ⟨text.takeWhile p, text.dropWhile p, List.takeWhile_append_dropWhile.symm,
    fun _ => List.mem_takeWhile_imp, fun c hc => ?_⟩
  have hfirst := List.head?_dropWhile_not p text
  rw [hc] at hfirst
  exact Bool.eq_false_iff.mp hfirst

/-- The run is what is dropped. -/
theorem dropWhile_run {run rest : List Char} (hrun : ∀ c ∈ run, p c)
    (hrest : ∀ c ∈ rest.head?, ¬ p c) : (run ++ rest).dropWhile p = rest := by
  rw [List.dropWhile_append_of_pos hrun]
  rcases rest with - | ⟨c, rest⟩
  · rfl
  · exact List.dropWhile_cons_of_neg (hrest c rfl)

theorem splitFirst?_append_cons (hbefore : ∀ b ∈ before, ¬ p b) (hc : p c) :
    splitFirst? p (before ++ c :: after) = some (before, after) := by
  have hskip : ∀ b ∈ before, !p b := fun b hb => by simp [hbefore b hb]
  have htake : (before ++ c :: after).takeWhile (!p ·) = before := by
    rw [List.takeWhile_append_of_pos hskip, List.takeWhile_cons_of_neg (by simp [hc]),
      List.append_nil]
  have hdrop : (before ++ c :: after).dropWhile (!p ·) = c :: after := by
    rw [List.dropWhile_append_of_pos hskip, List.dropWhile_cons_of_neg (by simp [hc])]
  rw [splitFirst?, hdrop, htake]

/-- A text is cut at the first character of the kind, if it has one. -/
theorem splitFirst?_eq_some {text : List Char} :
    splitFirst? p text = some (before, after)
      ↔ ∃ c, p c ∧ (∀ b ∈ before, ¬ p b) ∧ text = before ++ c :: after := by
  constructor
  · intro h
    rw [splitFirst?] at h
    rcases hdrop : text.dropWhile (!p ·) with - | ⟨c, rest⟩
    · rw [hdrop] at h
      cases h
    · rw [hdrop] at h
      obtain ⟨rfl, rfl⟩ := Prod.mk.inj (Option.some.inj h)
      have hc : (!p c) = false := by
        have hhead := List.head?_dropWhile_not (fun c => !p c) text
        rw [hdrop] at hhead
        exact hhead
      refine ⟨c, by simpa using hc, fun b hb => by simpa using List.mem_takeWhile_imp hb, ?_⟩
      rw [← hdrop, List.takeWhile_append_dropWhile]
  · rintro ⟨c, hc, hbefore, rfl⟩
    exact splitFirst?_append_cons hbefore hc

/-! ## The last of a character -/

/-- What is behind the last of the characters may be any others. -/
theorem beforeLast?_append_cons (hafter : c ∉ after) :
    beforeLast? c (before ++ c :: after) = some before := by
  have hothers : ∀ a ∈ after.reverse, (a != c) = true := fun a ha =>
    bne_iff_ne.mpr fun h => hafter (h ▸ List.mem_reverse.mp ha)
  have hdrop : (before ++ c :: after).reverse.dropWhile (· != c) = c :: before.reverse := by
    rw [List.reverse_append, List.reverse_cons, List.append_assoc]
    exact dropWhile_run hothers (by simp)
  rw [beforeLast?, hdrop]
  exact congrArg some (List.reverse_reverse before)

theorem beforeLast?_eq_none {text : List Char} (h : c ∉ text) : beforeLast? c text = none := by
  have hdrop : text.reverse.dropWhile (· != c) = [] :=
    List.dropWhile_eq_nil_iff.mpr fun a ha =>
      bne_iff_ne.mpr fun heq => h (heq ▸ List.mem_reverse.mp ha)
  rw [beforeLast?, hdrop]

/-- Only the last of the characters matters. -/
theorem beforeLast?_concat (text : List Char) (a : Char) :
    beforeLast? c (text ++ [a]) = if a = c then some text else beforeLast? c text := by
  split
  · next h =>
    subst h
    exact beforeLast?_append_cons List.not_mem_nil
  · next h =>
    have hskip : (a :: text.reverse).dropWhile (· != c) = text.reverse.dropWhile (· != c) :=
      List.dropWhile_cons_of_pos (bne_iff_ne.mpr h)
    rw [beforeLast?, List.reverse_concat, hskip, beforeLast?]

/-- A text without the character, or one that is cut at the last of them. -/
theorem exists_last (c : Char) (text : List Char) :
    c ∉ text ∨ ∃ before after, text = before ++ c :: after ∧ c ∉ after := by
  induction text using List.reverseRecOn with
  | nil => exact .inl List.not_mem_nil
  | append_singleton text a ih =>
    by_cases ha : c = a
    · exact .inr ⟨text, [], by rw [ha], List.not_mem_nil⟩
    · rcases ih with h | ⟨before, after, rfl, hafter⟩
      · exact .inl (by simp [h, ha])
      · exact .inr ⟨before, after ++ [a], by simp, by simp [hafter, ha]⟩

/-! ## Fields -/

/-- Fields are what is between the characters of the kind, unless there is nothing. -/
theorem fields_eq (p : Char → Bool) (text : List Char) :
    fields p text = (text.splitOnP p).filter (!·.isEmpty) := by
  rw [fields]
  refine congrArg _ ?_
  induction text with
  | nil => rfl
  | cons c rest ih =>
    rw [List.foldr_cons, ih, List.splitOnP_cons_eq_if_modifyHead]
    split
    · rfl
    · rcases hrest : rest.splitOnP p with - | ⟨w, ws⟩
      · exact absurd hrest (List.splitOnP_ne_nil p rest)
      · rfl

theorem fields_cons (hc : p c) (rest : List Char) : fields p (c :: rest) = fields p rest := by
  rw [fields_eq, fields_eq, List.splitOnP_cons_eq_if_modifyHead, if_pos hc]
  rfl

/-- A text that starts with a field goes on with the others. -/
theorem fields_append_cons {field : List Char} (hne : field ≠ []) (hfield : ∀ a ∈ field, p a = false)
    (hc : p c) (rest : List Char) : fields p (field ++ c :: rest) = field :: fields p rest := by
  have hkept : (!field.isEmpty) = true := by simp [hne]
  rw [fields_eq, fields_eq, List.splitOnP_append_cons_of_forall_mem hfield c hc,
    List.filter_cons, if_pos hkept]

theorem fields_of_forall {field : List Char} (hne : field ≠ [])
    (hfield : ∀ a ∈ field, p a = false) : fields p field = [field] := by
  have hkept : (!field.isEmpty) = true := by simp [hne]
  rw [fields_eq, List.splitOnP_eq_singleton hfield, List.filter_cons, if_pos hkept, List.filter_nil]

/-- No character of a field is of the kind that separates. -/
theorem not_of_mem_fields {text field : List Char} (h : field ∈ fields p text) (hc : c ∈ field) :
    p c = false := by
  rw [fields_eq] at h
  have hsplit := List.mem_of_mem_filter h
  clear h
  induction text generalizing field with
  | nil =>
    rw [List.splitOnP_nil, List.mem_singleton] at hsplit
    subst hsplit
    cases hc
  | cons a rest ih =>
    rw [List.splitOnP_cons_eq_if_modifyHead] at hsplit
    split at hsplit
    · rcases List.mem_cons.mp hsplit with rfl | hsplit
      · cases hc
      · exact ih hc hsplit
    · next ha =>
      rcases hrest : rest.splitOnP p with - | ⟨w, ws⟩
      · exact absurd hrest (List.splitOnP_ne_nil p rest)
      · rw [hrest, List.modifyHead_cons] at hsplit
        rcases List.mem_cons.mp hsplit with rfl | hsplit
        · rcases List.mem_cons.mp hc with rfl | hc
          · exact Bool.eq_false_iff.mpr ha
          · exact ih hc (hrest ▸ List.mem_cons_self)
        · exact ih hc (hrest ▸ List.mem_cons_of_mem _ hsplit)

end Retag.Text

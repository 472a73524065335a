import Retag.Proofs.Program.SettingsFiles

/-!
# Settings files line by line

What a file asks for, and what is wrong with it, is put together from its lines. So a file that goes
on behind another adds its own directives and its own errors, and a line with an error is a
directive without effect: an empty line in its place changes nothing but that the error is gone.
-/

namespace Retag

open Unicode Text

/-! ## Lines with errors -/

namespace Directive

/-- Behind white space, the line starts with the command of a directive. -/
def Commands (line : String) : Prop :=
  ∃ body, stripWhile isBlank line.toList = '/' :: body ∧
    String.ofList (body.takeWhile (!endsName ·)) ∈ ["set", "add", "script"]

theorem commands_of_ofLine_error {line : String} {fault : SettingsFault}
    (h : ofLine line = .error fault) : Commands line := by
  by_contra hnone
  have hidle : ofLine line = .ok none := by
    rcases hstrip : stripWhile isBlank line.toList with - | ⟨c, body⟩
    · exact ofLine_of_no_slash (by simp [hstrip])
    · by_cases hslash : c = '/'
      · subst hslash
        exact ofLine_unknown hstrip fun hname => hnone ⟨body, hstrip, hname⟩
      · exact ofLine_of_no_slash (by simp [hstrip, hslash])
  cases h.symm.trans hidle

end Directive

/-- The same error that many lines further down. -/
def SettingsError.below (lines : Nat) (e : SettingsError) : SettingsError :=
  { e with line := e.line + lines }

namespace Settings

/-- The directives that lines ask for, in turn. -/
def directivesOf (lines : List String) : List Directive :=
  lines.filterMap fun line => (Directive.ofLine line).toOption.join

/-- The errors in lines, the first of which has number `n`. -/
def errorsFrom (n : Nat) : List String → List SettingsError
  | [] => []
  | line :: rest =>
    match Directive.ofLine line with
    | .ok _ => errorsFrom (n + 1) rest
    | .error fault => ⟨n, fault⟩ :: errorsFrom (n + 1) rest

variable {lines above below : List String} {line : String} {fault : SettingsFault}

theorem loadLines_eq (n : Nat) (s : Settings) (lines : List String) :
    loadLines n s lines = ((directivesOf lines).foldl apply s, errorsFrom n lines) := by
  induction lines generalizing n s with
  | nil => rfl
  | cons line rest ih =>
    rw [loadLines, errorsFrom, directivesOf, List.filterMap_cons]
    rcases hline : Directive.ofLine line with fault | (- | d)
    · simp only [ih]
      rfl
    · exact ih (n + 1) s
    · exact ih (n + 1) (s.apply d)

theorem load_eq (text : String) :
    load text = ((directivesOf (split text "\n")).foldl apply {}, errorsFrom 1 (split text "\n")) :=
  loadLines_eq 1 {} _

/-! ## Errors by lines -/

theorem errorsFrom_append (n : Nat) (above below : List String) :
    errorsFrom n (above ++ below)
      = errorsFrom n above ++ errorsFrom (n + above.length) below := by
  induction above generalizing n with
  | nil => rfl
  | cons line rest ih =>
    have hnext : n + 1 + rest.length = n + (line :: rest).length := by
      rw [List.length_cons]
      omega
    rw [List.cons_append, errorsFrom, errorsFrom]
    split <;> simp [ih, hnext]

theorem errorsFrom_add (n k : Nat) (lines : List String) :
    errorsFrom (n + k) lines = (errorsFrom n lines).map (·.below k) := by
  induction lines generalizing n with
  | nil => rfl
  | cons line rest ih =>
    have hrest := ih (n + 1)
    rw [Nat.add_right_comm] at hrest
    rw [errorsFrom, errorsFrom]
    split
    · exact hrest
    · rw [hrest]
      rfl

theorem errorsFrom_error (h : Directive.ofLine line = .error fault) (n : Nat)
    (below : List String) :
    errorsFrom n (line :: below) = ⟨n, fault⟩ :: errorsFrom (n + 1) below := by
  rw [errorsFrom, h]

theorem errorsFrom_idle (h : Directive.ofLine line = .ok none) (n : Nat) (below : List String) :
    errorsFrom n (line :: below) = errorsFrom (n + 1) below := by
  rw [errorsFrom, h]

theorem mem_errorsFrom {n : Nat} {e : SettingsError} (h : e ∈ errorsFrom n lines) :
    ∃ above line below, lines = above ++ line :: below ∧ e.line = n + above.length ∧
      Directive.ofLine line = .error e.fault := by
  induction lines generalizing n with
  | nil => cases h
  | cons first rest ih =>
    have hlater (h : e ∈ errorsFrom (n + 1) rest) : ∃ above line below,
        first :: rest = above ++ line :: below ∧ e.line = n + above.length ∧
          Directive.ofLine line = .error e.fault := by
      obtain ⟨above, line, below, rfl, hnumber, hfault⟩ := ih h
      refine ⟨first :: above, line, below, rfl, ?_, hfault⟩
      rw [hnumber, List.length_cons]
      omega
    rw [errorsFrom] at h
    split at h
    · exact hlater h
    · next fault hfirst =>
      rcases List.mem_cons.mp h with rfl | h
      · exact ⟨[], first, rest, rfl, rfl, hfirst⟩
      · exact hlater h

theorem line_lt_of_mem_errorsFrom {n : Nat} {e : SettingsError} (h : e ∈ errorsFrom n lines) :
    e.line < n + lines.length := by
  obtain ⟨above, line, below, rfl, hnumber, -⟩ := mem_errorsFrom h
  simp only [hnumber, List.length_append, List.length_cons]
  omega

/-- Where there was an error, a line that asks for nothing takes only the error away. -/
theorem loadLines_replace {n : Nat} {s : Settings} {idle : String}
    (hfault : Directive.ofLine line = .error fault) (hidle : Directive.ofLine idle = .ok none) :
    loadLines n s (above ++ idle :: below)
      = ((loadLines n s (above ++ line :: below)).1,
         (loadLines n s (above ++ line :: below)).2.erase ⟨n + above.length, fault⟩) := by
  have hdirectives : directivesOf (above ++ idle :: below)
      = directivesOf (above ++ line :: below) := by
    simp [directivesOf, hfault, hidle, Except.toOption]
  have hnew : ⟨n + above.length, fault⟩ ∉ errorsFrom n above := fun h =>
    Nat.lt_irrefl _ (line_lt_of_mem_errorsFrom h)
  rw [loadLines_eq, loadLines_eq, hdirectives, errorsFrom_append, errorsFrom_append,
    errorsFrom_idle hidle, errorsFrom_error hfault, List.erase_append_right _ hnew,
    List.erase_cons_head]

end Settings

/-! ## Texts and their lines -/

/-- A text behind which a line starts. -/
def EndsLine (text : String) : Prop := text = "" ∨ text.toList.getLast? = some '\n'

/-- A text in front of which a line ends. -/
def StartsBreak (text : String) : Prop := text = "" ∨ text.toList.head? = some '\n'

/-- The text has a line between what is before and after it. -/
structure HasLine (text before line after : String) : Prop where
  whole : text = before ++ (line ++ after)
  start : EndsLine before
  inner : '\n' ∉ line.toList
  stop : StartsBreak after

/-- Lines, each with a line end behind it. -/
def ended (lines : List String) : String := String.join (lines.map (· ++ "\n"))

/-- Lines, each with a line end in front of it. -/
def broken (lines : List String) : String := String.join (lines.map ("\n" ++ ·))

variable {above below : List String} {before text : String}

theorem ended_cons (line : String) (lines : List String) :
    ended (line :: lines) = line ++ ("\n" ++ ended lines) := by
  rw [ended, List.map_cons, String.join_cons, String.append_assoc, ended]

theorem broken_cons (line : String) (lines : List String) :
    broken (line :: lines) = "\n" ++ (line ++ broken lines) := by
  rw [broken, List.map_cons, String.join_cons, String.append_assoc, broken]

theorem intercalate_eq (above : List String) (line : String) (below : List String) :
    "\n".intercalate (above ++ line :: below) = ended above ++ (line ++ broken below) := by
  have hbehind : ∀ line, "\n".intercalate (line :: below) = line ++ broken below := by
    induction below with
    | nil => simp [broken]
    | cons next rest ih =>
      intro line
      rw [String.intercalate_cons_cons, ih, broken_cons, String.append_assoc]
  induction above with
  | nil => rw [List.nil_append, hbehind, ended, List.map_nil, String.join_nil, String.empty_append]
  | cons first rest ih =>
    obtain ⟨second, others, hothers⟩ := List.exists_cons_of_ne_nil
      (List.append_ne_nil_of_right_ne_nil rest (List.cons_ne_nil line below))
    rw [List.cons_append, ended_cons]
    rw [hothers] at ih ⊢
    rw [String.intercalate_cons_cons, ih, String.append_assoc, String.append_assoc,
      String.append_assoc]

theorem count_ended (h : ∀ line ∈ above, '\n' ∉ line.toList) :
    (ended above).toList.count '\n' = above.length := by
  induction above with
  | nil => rfl
  | cons line rest ih =>
    obtain ⟨hline, hrest⟩ := List.forall_mem_cons.mp h
    rw [ended_cons, String.toList_append, String.toList_append, List.count_append,
      List.count_append, List.count_eq_zero.mpr hline, ih hrest, List.length_cons]
    exact (Nat.zero_add _).trans (Nat.add_comm ..)

theorem endsLine_ended (above : List String) : EndsLine (ended above) := by
  rcases List.eq_nil_or_concat' above with rfl | ⟨above, line, rfl⟩
  · exact .inl rfl
  · right
    have hended : ended (above ++ [line]) = ended above ++ line ++ "\n" := by
      simp [ended, String.append_assoc]
    rw [hended, String.toList_append]
    exact List.getLast?_concat

theorem startsBreak_broken (below : List String) : StartsBreak (broken below) := by
  rcases below with - | ⟨line, below⟩
  · exact .inl rfl
  · right
    rw [broken_cons, String.toList_append]
    rfl

theorem no_newline_of_mem_split {line : String} (h : line ∈ split text "\n") :
    '\n' ∉ line.toList := fun hmem =>
  not_infix_of_mem_split (by decide) h ((List.singleton_infix_iff _ _).mpr hmem)

theorem split_around {line : String} (habove : ∀ row ∈ above, '\n' ∉ row.toList)
    (hline : '\n' ∉ line.toList) (hbelow : ∀ row ∈ below, '\n' ∉ row.toList) :
    split (ended above ++ (line ++ broken below)) "\n" = above ++ line :: below := by
  have hborder : Unbordered "\n".toList := unbordered_singleton '\n'
  have hrows : ∀ row ∈ above ++ line :: below, '\n' ∉ row.toList :=
    List.forall_mem_append.mpr ⟨habove, List.forall_mem_cons.mpr ⟨hline, hbelow⟩⟩
  rw [← intercalate_eq]
  refine split_intercalate (by decide) hborder (by simp) fun row hrow hinfix => ?_
  exact hrows row hrow ((List.singleton_infix_iff _ _).mp hinfix)

/-- Behind a line end a text is cut as if it stood alone. -/
theorem split_append (h : EndsLine before) (text : String) :
    ∃ rows, split before "\n" = rows ++ [""] ∧ rows.length = before.toList.count '\n' ∧
      split (before ++ text) "\n" = rows ++ split text "\n" := by
  have hcut (text : String) :
      split text "\n" = (cutFrom ['\n'] 0 [] text.toList).map String.ofList :=
    congrArg _ (cut_of_ne_nil (List.cons_ne_nil _ _) _)
  rcases h with rfl | hlast
  · exact ⟨[], rfl, rfl, by rw [String.empty_append, List.nil_append]⟩
  · obtain ⟨rows, hrows⟩ := List.getLast?_eq_some_iff.mp hlast
    refine ⟨(cutFrom ['\n'] 0 [] rows).map String.ofList, ?_, ?_, ?_⟩
    · rw [hcut, hrows, cutFrom_append_cons, List.map_append]
      rfl
    · rw [List.length_map, length_cutFrom, hrows, List.count_append]
      rfl
    · rw [hcut, hcut, String.toList_append, hrows, List.append_assoc, List.singleton_append,
        cutFrom_append_cons, List.map_append]

namespace Settings

theorem load_append (h : EndsLine before) (text : String) :
    load (before ++ text)
      = ((directivesOf (split text "\n")).foldl apply (load before).1,
        (load before).2 ++ (load text).2.map (·.below (before.toList.count '\n'))) := by
  obtain ⟨rows, hbefore, hlength, happend⟩ := split_append h text
  have hempty : Directive.ofLine "" = .ok none := rfl
  have hrows : load before = ((directivesOf rows).foldl apply {}, errorsFrom 1 rows) := by
    rw [load_eq, hbefore, errorsFrom_append, errorsFrom_idle hempty]
    simp [directivesOf, hempty, Except.toOption, errorsFrom]
  rw [load_eq, happend, hrows, load_eq text, errorsFrom_append, hlength, errorsFrom_add,
    directivesOf, List.filterMap_append, List.foldl_append]
  rfl

/-- A text that goes on behind another asks for its own directives on top of what that gave, and
its errors are told further down. An error tells a line that is a directive, and with a blank line
in its place the text gives the same settings and the same other errors. -/
theorem loading_by_lines :
    (∀ before text, EndsLine before →
      load (before ++ text)
        = ((directivesOf (split text "\n")).foldl apply (load before).1,
          (load before).2 ++ (load text).2.map (·.below (before.toList.count '\n')))) ∧
    ∀ text, ∀ e ∈ (load text).2, ∃ before line after, HasLine text before line after ∧
      e.line = before.toList.count '\n' + 1 ∧ Directive.Commands line ∧
      ∀ blank : String, (∀ c ∈ blank.toList, isBlank c ∧ c ≠ '\n') →
        load (before ++ (blank ++ after)) = ((load text).1, (load text).2.erase e) := by
  refine ⟨fun _ text h => load_append h text, fun text e h => ?_⟩
  rw [load_eq] at h
  obtain ⟨above, line, below, hsplit, hnumber, hfault⟩ := mem_errorsFrom h
  have hrows : ∀ row ∈ above ++ line :: below, '\n' ∉ row.toList := fun row hrow =>
    no_newline_of_mem_split (hsplit ▸ hrow)
  obtain ⟨habove, hrows⟩ := List.forall_mem_append.mp hrows
  obtain ⟨hline, hbelow⟩ := List.forall_mem_cons.mp hrows
  have hwhole : text = ended above ++ (line ++ broken below) := by
    rw [← intercalate_eq, ← hsplit, intercalate_split (by decide)]
  refine ⟨ended above, line, broken below,
    ⟨hwhole, endsLine_ended above, hline, startsBreak_broken below⟩, ?_,
    Directive.commands_of_ofLine_error hfault, fun blank hblank => ?_⟩
  · rw [count_ended habove, hnumber, Nat.add_comm]
  · have hidle : Directive.ofLine blank = .ok none :=
      (Directive.Idle.blank fun c hc => (hblank c hc).1).ofLine
    have hblanked := split_around habove (fun hmem => (hblank _ hmem).2 rfl) hbelow
    have he : e = ⟨1 + above.length, e.fault⟩ := by rw [← hnumber]
    rw [load, hblanked, load, hsplit, loadLines_replace hfault hidle, ← he]

/-- Errors before and behind the place where one text ends and the other goes on; the first of them
ends in a carriage return, and so may the line that is put there. -/
theorem loading_by_lines_crlf :
    let before := "/set a=1\r\n/add\r\n"
    let text := "/set a=2\n /script x y\n/add b 3"
    let error : SettingsError := ⟨2, .noArgument "add"⟩
    EndsLine before ∧
    (load (before ++ text)).1.tags = .ofPairs [("a", "2"), ("b", "3")] ∧
    (load (before ++ text)).2 = [error, ⟨4, .noSource⟩] ∧
    error ∈ (load (before ++ text)).2 ∧
    (∀ c ∈ "\r".toList, isBlank c ∧ c ≠ '\n') ∧
    ∃ above line below, HasLine (before ++ text) above line below ∧
      error.line = above.toList.count '\n' + 1 ∧ Directive.Commands line ∧
      load (above ++ ("\r" ++ below)) = ((load (before ++ text)).1, [⟨4, .noSource⟩]) := by
  intro before text error
  have hends : EndsLine before := .inr (by decide)
  have happend := loading_by_lines.1 before text hends
  have herrors : (load (before ++ text)).2 = [error, ⟨4, .noSource⟩] := by
    rw [happend]
    decide
  have hmem : error ∈ (load (before ++ text)).2 := by simp [herrors]
  have hblank : ∀ c ∈ "\r".toList, isBlank c ∧ c ≠ '\n' :=
    List.forall_mem_singleton.mpr ⟨rfl, by decide⟩
  refine ⟨hends, ?_, herrors, hmem, hblank, ?_⟩
  · rw [happend]
    decide
  · obtain ⟨above, line, below, hline, hnumber, hcommands, hload⟩ := loading_by_lines.2 _ _ hmem
    refine ⟨above, line, below, hline, hnumber, hcommands, (hload "\r" hblank).trans ?_⟩
    rw [herrors]
    rfl

end Settings
end Retag

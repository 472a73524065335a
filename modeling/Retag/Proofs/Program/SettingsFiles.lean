import Retag.Settings
import Retag.Proofs.Store.Ledger
import Retag.Proofs.Text.Cutting
import Retag.Proofs.Text.Splitting

/-!
# Settings files read back

Directives that are written one a line are read back as they were written, whatever else stands
between them: blank lines, comments and unknown commands. A value keeps every character, since a line
is only stripped at its ends, and cut at the blank behind its command and at the first equals sign.
-/

namespace Retag

open Unicode Text

namespace Directive

/-! ## Lines -/

/-- The command of a directive. -/
def command : Directive → String
  | set .. => "set"
  | add .. => "add"
  | script .. => "script"

def name : Directive → String
  | set name _ | add name _ | script name _ => name

/-- The value or the source that a directive gives. -/
def payload : Directive → String
  | set _ payload | add _ payload | script _ payload => payload

/-- The line that asks for a directive. -/
def render (d : Directive) : String := "/" ++ d.command ++ " " ++ d.name ++ "=" ++ d.payload

/-- What stands behind the command in that line. -/
def argument (d : Directive) : List Char := d.name.toList ++ '=' :: d.payload.toList

/-- What a line can ask for. -/
structure Writable (d : Directive) : Prop where
  name_ne_empty : d.name ≠ ""
  name_plain : ∀ c ∈ d.name.toList, ¬ isBlank c ∧ c ≠ '='
  payload_line : '\n' ∉ d.payload.toList
  payload_end : ∀ c ∈ d.payload.toList.getLast?, ¬ isBlank c

theorem writable_iff {d : Directive} :
    d.Writable ↔ d.name ≠ "" ∧ d.name.toList.all (fun c => !isBlank c && c != '=') ∧
      '\n' ∉ d.payload.toList ∧ d.payload.toList.getLast?.all (!isBlank ·) := by
  rw [List.all_eq_true, Option.all_eq_true]
  simp only [Bool.and_eq_true, bne_iff_ne, Bool.not_eq_true', ← Bool.not_eq_true]
  exact ⟨fun ⟨hname, hplain, hline, hend⟩ => ⟨hname, hplain, hline, hend⟩,
    fun ⟨hname, hplain, hline, hend⟩ => ⟨hname, hplain, hline, hend⟩⟩

instance (d : Directive) : Decidable d.Writable := decidable_of_iff' _ writable_iff

/-- Lines that ask for nothing. -/
inductive Idle : String → Prop
  | blank {line : String} (h : ∀ c ∈ line.toList, isBlank c) : Idle line
  /-- A comment, which starts with `;`, or other text that is no command. -/
  | remark {indent text : String} {first : Char} (hindent : ∀ c ∈ indent.toList, isBlank c)
      (hblank : ¬ isBlank first) (hslash : first ≠ '/') :
      Idle (indent ++ (String.singleton first ++ text))
  /-- A command with another name than a directive. -/
  | unknown {indent body trailing : String} (hindent : ∀ c ∈ indent.toList, isBlank c)
      (htrailing : ∀ c ∈ trailing.toList, isBlank c)
      (hend : ∀ c ∈ body.toList.getLast?, ¬ isBlank c)
      (hname : String.ofList (body.toList.takeWhile (!endsName ·)) ∉ ["set", "add", "script"]) :
      Idle (indent ++ (("/" ++ body) ++ trailing))

/-! ## Reading a line -/

theorem command_plain (d : Directive) : ∀ c ∈ d.command.toList, !endsName c := by
  have hmem : d.command ∈ ["set", "add", "script"] := by cases d <;> simp [command]
  have hplain : ∀ command ∈ ["set", "add", "script"], command.toList.all (!endsName ·) := by decide
  exact List.all_eq_true.mp (hplain d.command hmem)

theorem toList_render (d : Directive) :
    d.render.toList = '/' :: (d.command.toList ++ ' ' :: d.argument) := by
  simp [render, argument]

/-- Of a command that is none of the directives, nothing is read. -/
theorem ofLine_unknown {line : String} {body : List Char}
    (hline : stripWhile isBlank line.toList = '/' :: body)
    (hname : String.ofList (body.takeWhile (!endsName ·)) ∉ ["set", "add", "script"]) :
    ofLine line = .ok none := by
  simp only [ofLine, hline]
  split
  · next h => simp [h] at hname
  · next h => simp [h] at hname
  · next h => simp [h] at hname
  · rfl

theorem ofLine_of_no_slash {line : String}
    (hline : (stripWhile isBlank line.toList).head? ≠ some '/') : ofLine line = .ok none := by
  rw [ofLine]
  split
  · next rest hstrip =>
    rw [hstrip] at hline
    exact absurd rfl hline
  · rfl

theorem Idle.ofLine {line : String} (h : Idle line) : ofLine line = .ok none := by
  cases h with
  | blank hblank =>
    refine ofLine_of_no_slash ?_
    have hstrip := stripWhile_append hblank []
    rw [List.append_nil] at hstrip
    rw [hstrip]
    exact nofun
  | remark hindent hblank hslash =>
    refine ofLine_of_no_slash ?_
    rw [String.toList_append, stripWhile_append hindent, String.toList_append,
      String.toList_singleton, List.singleton_append, head?_stripWhile_cons hblank]
    exact fun h => hslash (Option.some.inj h)
  | @unknown indent body trailing hindent htrailing hend hname =>
    refine ofLine_unknown ?_ hname
    rw [String.toList_append, String.toList_append, String.toList_append]
    refine stripWhile_around hindent htrailing (fun c hc => ?_)
      (getLast?_cons_not (by decide) hend [])
    obtain rfl := Option.some.inj hc
    decide

/-! ## Cutting a directive -/

variable {d : Directive}

theorem takeWhile_command (d : Directive) :
    (d.command.toList ++ ' ' :: d.argument).takeWhile (!endsName ·) = d.command.toList := by
  rw [List.takeWhile_append_of_pos d.command_plain, List.takeWhile_cons_of_neg (by decide),
    List.append_nil]

theorem dropWhile_command (d : Directive) :
    (d.command.toList ++ ' ' :: d.argument).dropWhile (!endsName ·) = ' ' :: d.argument := by
  rw [List.dropWhile_append_of_pos d.command_plain, List.dropWhile_cons_of_neg (by decide)]

namespace Writable

theorem name_isEmpty (h : d.Writable) : d.name.toList.isEmpty = false := by
  rw [Bool.eq_false_iff, ne_eq, List.isEmpty_iff, String.toList_eq_nil_iff]
  exact h.name_ne_empty

theorem name_any (h : d.Writable) : d.name.toList.any isBlank = false :=
  List.any_eq_false.mpr fun c hc => (h.name_plain c hc).1

theorem splitFirst?_argument (h : d.Writable) :
    splitFirst? (· == '=') d.argument = some (d.name.toList, d.payload.toList) :=
  splitFirst?_append_cons (fun c hc => by simpa using (h.name_plain c hc).2) rfl

theorem assignment (h : d.Writable) (directive : String) :
    assignment directive d.argument = .ok (d.name, d.payload) := by
  have hfilled : d.argument.isEmpty = false := by simp [argument]
  rw [Directive.assignment, hfilled, h.splitFirst?_argument, Option.filter_some]
  simp [h.name_any, h.name_isEmpty]

theorem scriptDefinition (h : d.Writable) :
    scriptDefinition d.argument = .ok (d.name, d.payload) := by
  have hstrip : stripWhile isBlank d.name.toList = d.name.toList :=
    stripWhile_eq_self (fun c hc => (h.name_plain c (List.mem_of_mem_head? hc)).1)
      fun c hc => (h.name_plain c (List.mem_of_getLast? hc)).1
  rw [Directive.scriptDefinition, h.splitFirst?_argument]
  simp [hstrip, h.name_any, h.name_isEmpty]

theorem getLast?_argument (h : d.Writable) : ∀ c ∈ d.argument.getLast?, ¬ isBlank c :=
  getLast?_cons_not (by decide) h.payload_end d.name.toList

/-- Behind the command only the blank is stripped. -/
theorem stripWhile_argument (h : d.Writable) :
    stripWhile isBlank (' ' :: d.argument) = d.argument := by
  have hblank : stripWhile isBlank ([' '] ++ d.argument) = stripWhile isBlank d.argument :=
    stripWhile_append (List.forall_mem_singleton.mpr rfl) _
  refine hblank.trans (stripWhile_eq_self (fun c hc => ?_) h.getLast?_argument)
  obtain ⟨first, rest, hname⟩ :=
    List.exists_cons_of_ne_nil (mt String.toList_eq_nil_iff.mp h.name_ne_empty)
  rw [argument, hname] at hc
  obtain rfl := Option.some.inj hc
  exact (h.name_plain first (hname ▸ List.mem_cons_self)).1

/-- Of a line only the white space around is stripped. -/
theorem stripWhile_render (h : d.Writable) {before after : String}
    (hbefore : ∀ c ∈ before.toList, isBlank c) (hafter : ∀ c ∈ after.toList, isBlank c) :
    stripWhile isBlank (before ++ (d.render ++ after)).toList
      = '/' :: (d.command.toList ++ ' ' :: d.argument) := by
  rw [String.toList_append, String.toList_append, toList_render]
  refine stripWhile_around hbefore hafter (fun c hc => ?_) ?_
  · obtain rfl := Option.some.inj hc
    decide
  · have hlast := getLast?_cons_not (p := isBlank) (c := '=') (by decide) h.payload_end
      ('/' :: (d.command.toList ++ ' ' :: d.name.toList))
    simpa [argument] using hlast

/-- The line of a directive asks for it, also with white space around. -/
theorem ofLine (h : d.Writable) {before after : String}
    (hbefore : ∀ c ∈ before.toList, isBlank c) (hafter : ∀ c ∈ after.toList, isBlank c) :
    ofLine (before ++ (d.render ++ after)) = .ok (some d) := by
  simp only [Directive.ofLine, h.stripWhile_render hbefore hafter, takeWhile_command,
    dropWhile_command, h.stripWhile_argument, String.ofList_toList]
  cases d with
  | set => exact congrArg (Except.map _) (h.assignment "set")
  | add => exact congrArg (Except.map _) (h.assignment "add")
  | script => exact congrArg (Except.map _) h.scriptDefinition

end Writable
end Directive

/-! ## What the directives ask for -/

/-- The tags that a directive changes. -/
def Directive.seed (tags : TagStore) : Directive → TagStore
  | .set name value => tags.setOne (internalName name) value
  | .add name value => tags.add (internalName name) value
  | .script .. => tags

/-- The source that a directive gives for a name. -/
def Directive.source? (name : String) : Directive → Option String
  | .script n source => if n = name then some source else none
  | _ => none

/-- The last source that is given for a name. -/
def lastSource? (directives : List Directive) (name : String) : Option String :=
  directives.reverse.findSome? (Directive.source? name)

namespace Settings

theorem tags_foldl_apply (directives : List Directive) (s : Settings) :
    (directives.foldl apply s).tags = directives.foldl Directive.seed s.tags := by
  induction directives generalizing s with
  | nil => rfl
  | cons d rest ih =>
    rw [List.foldl_cons, List.foldl_cons, ih]
    cases d <;> rfl

theorem lookup_insertScript (name source n : String) (scripts : List (String × String)) :
    (insertScript name source scripts).lookup n
      = if name = n then some source else scripts.lookup n := by
  induction scripts with
  | nil => grind [insertScript]
  | cons first rest ih => grind [insertScript]

theorem script?_foldl_apply (directives : List Directive) (s : Settings) (name : String) :
    (directives.foldl apply s).script? name
      = (lastSource? directives name).or (s.script? name) := by
  induction directives generalizing s with
  | nil => rfl
  | cons d rest ih =>
    have hlast : lastSource? (d :: rest) name = (lastSource? rest name).or (d.source? name) := by
      rw [lastSource?, List.reverse_cons, List.findSome?_append, List.findSome?_singleton]
      rfl
    have hstep : (s.apply d).script? name = (d.source? name).or (s.script? name) := by
      cases d with
      | set => rfl
      | add => rfl
      | script n source =>
        rw [apply, script?, lookup_insertScript, Directive.source?]
        split <;> rfl
    rw [List.foldl_cons, ih, hstep, hlast, Option.or_assoc]

/-- The names of scripts are kept as tombstones are. -/
theorem names_insertScript (name source : String) (scripts : List (String × String)) :
    (insertScript name source scripts).map (·.1)
      = TagStore.insertName name (scripts.map (·.1)) := by
  induction scripts with
  | nil => rfl
  | cons first rest ih =>
    rw [insertScript, List.map_cons, TagStore.insertName]
    split
    · next h => rw [List.map_cons, h]
    · split
      · rfl
      · rw [List.map_cons, ih]

theorem names_foldl_apply (directives : List Directive) {s : Settings}
    (h : (s.scripts.map (·.1)).Pairwise (· < ·)) :
    ((directives.foldl apply s).scripts.map (·.1)).Pairwise (· < ·) := by
  induction directives generalizing s with
  | nil => exact h
  | cons d rest ih =>
    refine ih ?_
    cases d with
    | set => exact h
    | add => exact h
    | script name source =>
      rw [apply, names_insertScript]
      exact Ledger.pairwise_insertName h

end Settings

/-! ## Files -/

/-- Lines that ask for directives in turn. -/
inductive Asks : List Directive → List String → Prop
  | nil : Asks [] []
  | directive {d : Directive} {directives : List Directive} {lines : List String}
      {before after : String} (hd : d.Writable)
      (hbefore : ∀ c ∈ before.toList, isBlank c ∧ c ≠ '\n')
      (hafter : ∀ c ∈ after.toList, isBlank c ∧ c ≠ '\n') (h : Asks directives lines) :
      Asks (d :: directives) ((before ++ (d.render ++ after)) :: lines)
  | idle {line : String} {directives : List Directive} {lines : List String}
      (hidle : Directive.Idle line) (hline : '\n' ∉ line.toList) (h : Asks directives lines) :
      Asks directives (line :: lines)

theorem Directive.Writable.no_newline {d : Directive} (h : d.Writable) :
    '\n' ∉ d.render.toList := by
  have hname : '\n' ∉ d.name.toList := fun hmem => (h.name_plain '\n' hmem).1 (by decide)
  have hcommand : '\n' ∉ d.command.toList := fun hmem =>
    absurd (d.command_plain '\n' hmem) (by decide)
  simp [Directive.toList_render, Directive.argument, hname, hcommand, h.payload_line]

namespace Asks

variable {directives : List Directive} {lines : List String}

/-- The line of a directive as it is rendered. -/
theorem render {d : Directive} (hd : d.Writable) (h : Asks directives lines) :
    Asks (d :: directives) (d.render :: lines) := by
  have hasks := @directive d directives lines "" "" hd nofun nofun h
  rwa [String.append_empty, String.empty_append] at hasks

theorem no_newline (h : Asks directives lines) : ∀ line ∈ lines, '\n' ∉ line.toList := by
  induction h with
  | nil => exact nofun
  | directive hd hbefore hafter h ih =>
    refine List.forall_mem_cons.mpr ⟨?_, ih⟩
    rw [String.toList_append, String.toList_append, List.mem_append, List.mem_append]
    rintro (hmem | hmem | hmem)
    · exact (hbefore _ hmem).2 rfl
    · exact hd.no_newline hmem
    · exact (hafter _ hmem).2 rfl
  | idle hidle hline h ih => exact List.forall_mem_cons.mpr ⟨hline, ih⟩

/-- Such lines are read without a fault, and each directive is applied. -/
theorem loadLines (h : Asks directives lines) (n : Nat) (s : Settings) :
    Settings.loadLines n s lines = (directives.foldl Settings.apply s, []) := by
  induction h generalizing n s with
  | nil => rfl
  | directive hd hbefore hafter h ih =>
    rw [Settings.loadLines, hd.ofLine (fun c hc => (hbefore c hc).1) fun c hc => (hafter c hc).1]
    exact ih (n + 1) _
  | idle hidle hline h ih =>
    rw [Settings.loadLines, hidle.ofLine]
    exact ih (n + 1) s

theorem load (h : Asks directives lines) :
    Settings.load ("\n".intercalate lines) = (directives.foldl Settings.apply {}, []) := by
  by_cases hlines : lines = []
  · subst hlines
    cases h
    rfl
  · have hborder : Unbordered "\n".toList := unbordered_singleton '\n'
    have hsplit : split ("\n".intercalate lines) "\n" = lines := by
      refine split_intercalate (by decide) hborder hlines fun line hline => ?_
      exact fun hmem => h.no_newline line hline ((List.singleton_infix_iff _ _).mp hmem)
    rw [Settings.load, hsplit, h.loadLines]

end Asks

/-- A file whose lines ask for directives is read without an error. Its tags are those that the
directives make of none, in turn; its scripts are the last sources that they give, each name once. -/
theorem settings_read_back {directives : List Directive} {lines : List String}
    (h : Asks directives lines) :
    let (settings, errors) := Settings.load ("\n".intercalate lines)
    errors = [] ∧ settings.tags = directives.foldl Directive.seed .empty ∧
      (∀ name, settings.script? name = lastSource? directives name) ∧
      (settings.scripts.map (·.1)).Pairwise (· < ·) := by
  rw [h.load]
  refine ⟨rfl, Settings.tags_foldl_apply directives {}, fun name => ?_, ?_⟩
  · exact (Settings.script?_foldl_apply directives {} name).trans (Option.or_none ..)
  · exact Settings.names_foldl_apply directives List.Pairwise.nil

/-- Values with blanks at their start and with the characters that mean something elsewhere, between
comments, blank lines and unknown commands, one of them spelled almost as a directive. -/
theorem settings_read_back_mixed :
    let lines := ["; seeds", "/set _a= b=c;", "", " \t/sets a=b", "/add ~a=/%d%", "plain text",
      "/script up=$upper(%a%)", "/add b=", "/script up= $lower(%a%)"]
    let directives : List Directive := [.set "_a" " b=c;", .add "~a" "/%d%",
      .script "up" "$upper(%a%)", .add "b" "", .script "up" " $lower(%a%)"]
    Asks directives lines ∧
    (Settings.load ("\n".intercalate lines)).1.tags
      = .ofPairs [("~a", " b=c;"), ("~a", "/%d%"), ("b", "")] ∧
    (Settings.load ("\n".intercalate lines)).1.script? "up" = some " $lower(%a%)" ∧
    (Settings.load ("\n".intercalate lines)).2 = [] := by
  intro lines directives
  have hasks : Asks directives lines := by
    refine .idle (@Directive.Idle.remark "" " seeds" ';' nofun (by decide) (by decide))
      (by decide) ?_
    refine @Asks.render _ _ (.set "_a" " b=c;") (by decide) ?_
    refine .idle (.blank nofun) (by decide) ?_
    have hend : ¬ isBlank 'b' := by decide
    refine .idle (@Directive.Idle.unknown " \t" "sets a=b" "" (List.all_eq_true.mp rfl) nofun
      (fun c hc => Option.some.inj hc ▸ hend) (by decide)) (by decide) ?_
    refine @Asks.render _ _ (.add "~a" "/%d%") (by decide) ?_
    refine .idle (@Directive.Idle.remark "" "lain text" 'p' nofun (by decide) (by decide))
      (by decide) ?_
    refine @Asks.render _ _ (.script "up" "$upper(%a%)") (by decide) ?_
    refine @Asks.render _ _ (.add "b" "") (by decide) ?_
    exact @Asks.render _ _ (.script "up" " $lower(%a%)") (by decide) .nil
  obtain ⟨herrors, htags, hscripts, -⟩ := settings_read_back hasks
  refine ⟨hasks, htags.trans ?_, (hscripts "up").trans rfl, herrors⟩
  rfl

end Retag

import Retag.CommandLine
import Retag.Proofs.Text.Cutting

/-!
# Ways to write a command line

A command line says things one after the other: options, in words of one or more letters, and
scripts. A relation says how each is written, without a reader: which letters may stand before others,
and when a value is the rest of a word or the next word. Main statement: a command line is read as
certain values exactly if it is one of the ways to write them.
-/

namespace Retag.CommandLine

/-! ## What is said -/

/-- What a letter of an option or a word says. -/
inductive Item where
  | debug
  | list
  | settings (choice : SettingsChoice)
  | tag (name value : String)
  | preset (name : String)
  | script (source : String)
  deriving DecidableEq

namespace Item

def settings? : Item → Option SettingsChoice
  | settings choice => some choice
  | _ => none

def tag? : Item → Option (String × String)
  | tag name value => some (name, value)
  | _ => none

def preset? : Item → Option String
  | preset name => some name
  | _ => none

def script? : Item → Option String
  | script source => some source
  | _ => none

end Item

/-- What is to be run: nothing if there is only the question for a list, else the only script, or
the last preset if there is no script. -/
def SaysScript (items : List Item) : ScriptChoice → Prop
  | .none => items.filterMap Item.script? = [] ∧ items.filterMap Item.preset? = [] ∧ .list ∈ items
  | .inline source =>
    items.filterMap Item.script? = [source] ∧ items.filterMap Item.preset? = []
  | .preset name =>
    items.filterMap Item.script? = [] ∧ (items.filterMap Item.preset?).getLast? = some name

/-- The items say what the command line asks for: its tags in order, and the last settings file. -/
structure Says (items : List Item) (c : CommandLine) : Prop where
  settings : (items.filterMap Item.settings?).getLast?.getD .search = c.settings
  tags : items.filterMap Item.tag? = c.tags
  script : SaysScript items c.script
  debug : .debug ∈ items ↔ c.debug
  list : .list ∈ items ↔ c.list

/-! ## How it is written -/

/-- The name of a tag that an option can give a value: up to the first equals sign, and not empty. -/
def Nameable (name : String) : Prop := name ≠ "" ∧ '=' ∉ name.toList

/-- The letters of a word say items, and the words behind it, one at most, belong to them. -/
inductive Letters : List Item → List Char → List String → Prop
  | done : Letters [] [] []
  | debug {items cs next} (h : Letters items cs next) : Letters (.debug :: items) ('d' :: cs) next
  | list {items cs next} (h : Letters items cs next) : Letters (.list :: items) ('l' :: cs) next
  | skip : Letters [.settings .skip] ['f'] []
  | file {path : String} (hpath : path ≠ "") :
      Letters [.settings (.file path)] ('f' :: path.toList) []
  | tag {name value : String} (hname : Nameable name) :
      Letters [.tag name value] ('t' :: (name ++ "=" ++ value).toList) []
  | tagNext {name value : String} (hname : Nameable name) :
      Letters [.tag name value] ['t'] [name ++ "=" ++ value]
  | preset {name : String} (hname : name ≠ "") : Letters [.preset name] ('p' :: name.toList) []
  | presetNext {name : String} : Letters [.preset name] ['p'] [name]

theorem Letters.head_ne_dash {items : List Item} {cs : List Char} {next : List String}
    (h : Letters items cs next) : cs.head? ≠ some '-' := by
  cases h <;> simp

/-- The words say items. -/
inductive Written : List Item → List String → Prop
  | nil : Written [] []
  | options {items others : List Item} {cs : List Char} {next argv : List String}
      (hletters : Letters items cs next) (hcs : cs ≠ []) (h : Written others argv) :
      Written (items ++ others) (String.ofList ('-' :: cs) :: (next ++ argv))
  | script {source : String} {items : List Item} {argv : List String}
      (hsource : source = "-" ∨ source.toList.head? ≠ some '-') (h : Written items argv) :
      Written (.script source :: items) (source :: argv)
  | rest (sources : List String) : Written (sources.map .script) ("--" :: sources)

/-! ## Drafts -/

namespace Draft

/-- The draft that takes note of an item. -/
def note (d : Draft) : Item → Draft
  | .debug => { d with options.debug := true }
  | .list => { d with options.list := true }
  | .settings choice => { d with options.settings := choice }
  | .tag name value => { d with options.tags := d.options.tags ++ [(name, value)] }
  | .preset name => { d with preset := some name }
  | .script source => { d with words := d.words ++ [source] }

/-- The draft that has taken note of items only. -/
def ofItems (items : List Item) : Draft where
  options :=
    { settings := (items.filterMap Item.settings?).getLast?.getD .search
      tags := items.filterMap Item.tag?
      debug := decide (.debug ∈ items)
      list := decide (.list ∈ items) }
  preset := (items.filterMap Item.preset?).getLast?
  words := items.filterMap Item.script?

theorem foldl_note (items : List Item) : items.foldl note {} = ofItems items := by
  induction items using List.reverseRecOn with
  | nil => rfl
  | append_singleton items item ih =>
    rw [List.foldl_append, List.foldl_cons, List.foldl_nil, ih]
    cases item <;> simp [note, ofItems, Item.settings?, Item.tag?, Item.preset?, Item.script?]

theorem foldl_note_scripts (d : Draft) (sources : List String) :
    (sources.map Item.script).foldl note d = { d with words := d.words ++ sources } := by
  induction sources generalizing d with
  | nil => simp
  | cons source rest ih => simp [ih, note]

/-- But for the script, the items say what the options of their draft are. -/
theorem says_iff {items : List Item} {c : CommandLine} :
    Says items c ↔ { (ofItems items).options with script := c.script } = c ∧
      SaysScript items c.script := by
  constructor
  · rintro ⟨hsettings, htags, hscript, hdebug, hlist⟩
    obtain ⟨settings, tags, script, debug, list⟩ := c
    have hdebug' : decide (.debug ∈ items) = debug := by
      rw [Bool.eq_iff_iff, decide_eq_true_iff]
      exact hdebug
    have hlist' : decide (.list ∈ items) = list := by
      rw [Bool.eq_iff_iff, decide_eq_true_iff]
      exact hlist
    refine ⟨?_, hscript⟩
    dsimp only at hsettings htags
    rw [ofItems, hsettings, htags, hdebug', hlist']
  · rintro ⟨hc, hscript⟩
    refine ⟨congrArg settings hc, congrArg tags hc, hscript, ?_, ?_⟩
    · rw [← congrArg debug hc]
      exact decide_eq_true_iff.symm
    · rw [← congrArg list hc]
      exact decide_eq_true_iff.symm

theorem finish_ofItems {items : List Item} {c : CommandLine} :
    (ofItems items).finish = .ok c ↔ Says items c := by
  rw [says_iff]
  constructor
  · intro h
    rw [finish] at h
    split at h
    · next hwords hpreset =>
      split at h
      · next hlist =>
        obtain rfl := Except.ok.inj h
        exact ⟨rfl, hwords, List.getLast?_eq_none_iff.mp hpreset, of_decide_eq_true hlist⟩
      · cases h
    · next name hwords hpreset =>
      obtain rfl := Except.ok.inj h
      exact ⟨rfl, hwords, hpreset⟩
    · next source hwords hpreset =>
      obtain rfl := Except.ok.inj h
      exact ⟨rfl, hwords, List.getLast?_eq_none_iff.mp hpreset⟩
    · cases h
    · cases h
  · rintro ⟨hc, hscript⟩
    rcases hchoice : c.script with - | source | name
    · rw [hchoice] at hscript hc
      obtain ⟨hwords, hpresets, hlist⟩ := hscript
      have hpreset : (ofItems items).preset = none := List.getLast?_eq_none_iff.mpr hpresets
      have hasked : (ofItems items).options.list = true := decide_eq_true hlist
      rw [finish, show (ofItems items).words = [] from hwords, hpreset]
      exact (if_pos hasked).trans (congrArg Except.ok hc)
    · rw [hchoice] at hscript hc
      obtain ⟨hwords, hpresets⟩ := hscript
      have hpreset : (ofItems items).preset = none := List.getLast?_eq_none_iff.mpr hpresets
      rw [finish, show (ofItems items).words = [source] from hwords, hpreset]
      exact congrArg Except.ok hc
    · rw [hchoice] at hscript hc
      obtain ⟨hwords, hpreset⟩ := hscript
      rw [finish, show (ofItems items).words = [] from hwords,
        show (ofItems items).preset = some name from hpreset]
      exact congrArg Except.ok hc

/-! ## Letters and the word behind -/

/-- The next words complete the draft: an option that waits for its value takes one word. -/
inductive Completed : Draft → Option Valued → List String → Draft → Prop
  | none {d : Draft} : Completed d none [] d
  | some {d d' : Draft} {v : Valued} {w : String} (h : d.assign w v = .ok d') :
      Completed d (some v) [w] d'

theorem assign_tag {d d' : Draft} {w : String} :
    d.assign w .tag = .ok d'
      ↔ ∃ name value, Nameable name ∧ w = name ++ "=" ++ value ∧ d' = d.note (.tag name value) := by
  rw [assign]
  constructor
  · intro h
    split at h
    · cases h
    · cases h
    · next name value hname hsplit =>
      obtain ⟨c, hc, hplain, hw⟩ := Text.splitFirst?_eq_some.mp hsplit
      obtain rfl : c = '=' := by simpa using hc
      refine ⟨String.ofList name, String.ofList value, ⟨?_, ?_⟩, ?_, (Except.ok.inj h).symm⟩
      · simpa using hname
      · simpa using fun hmem => hplain '=' hmem rfl
      · rw [← String.toList_inj, hw]
        simp
  · rintro ⟨name, value, ⟨hne, hplain⟩, rfl, rfl⟩
    have hsplit : Text.splitFirst? (· == '=') (name ++ "=" ++ value).toList
        = some (name.toList, value.toList) := by
      refine Text.splitFirst?_eq_some.mpr ⟨'=', rfl, fun c hc h => ?_, by simp⟩
      exact hplain (beq_iff_eq.mp h ▸ hc)
    obtain ⟨first, rest, hname⟩ := List.exists_cons_of_ne_nil (mt String.toList_eq_nil_iff.mp hne)
    rw [hsplit, hname]
    dsimp only
    rw [← hname, String.ofList_toList, String.ofList_toList, note]

variable {items : List Item} {cs : List Char} {next argv : List String} {d d₁ d₂ : Draft}
  {waiting : Option Valued}

theorem letters_file (hcs : cs ≠ []) : d.letters ('f' :: cs)
    = .ok ({ d with options.settings := .file (String.ofList cs) }, none) := by
  obtain ⟨c, rest, rfl⟩ := List.exists_cons_of_ne_nil hcs
  rfl

theorem letters_tag (hcs : cs ≠ []) :
    d.letters ('t' :: cs) = (d.assign (String.ofList cs) .tag).map (·, none) := by
  obtain ⟨c, rest, rfl⟩ := List.exists_cons_of_ne_nil hcs
  rfl

theorem letters_preset (hcs : cs ≠ []) :
    d.letters ('p' :: cs) = .ok ({ d with preset := some (String.ofList cs) }, none) := by
  obtain ⟨c, rest, rfl⟩ := List.exists_cons_of_ne_nil hcs
  rfl

theorem letters_of_written (h : Letters items cs next) (d : Draft) :
    ∃ d₁ waiting, d.letters cs = .ok (d₁, waiting) ∧
      Completed d₁ waiting next (items.foldl note d) := by
  induction h generalizing d with
  | done => exact ⟨d, none, rfl, .none⟩
  | debug h ih => exact ih { d with options.debug := true }
  | list h ih => exact ih { d with options.list := true }
  | skip => exact ⟨_, none, rfl, .none⟩
  | file hpath =>
    rw [letters_file (mt String.toList_eq_nil_iff.mp hpath), String.ofList_toList]
    exact ⟨_, none, rfl, .none⟩
  | @tag name value hname =>
    have hassign : d.assign (name ++ "=" ++ value) .tag = .ok (d.note (.tag name value)) :=
      assign_tag.mpr ⟨name, value, hname, rfl, rfl⟩
    rw [letters_tag (by simp), String.ofList_toList, hassign]
    exact ⟨_, none, rfl, .none⟩
  | tagNext hname => exact ⟨d, some .tag, rfl, .some (assign_tag.mpr ⟨_, _, hname, rfl, rfl⟩)⟩
  | preset hname =>
    rw [letters_preset (mt String.toList_eq_nil_iff.mp hname), String.ofList_toList]
    exact ⟨_, none, rfl, .none⟩
  | presetNext => exact ⟨d, some .preset, rfl, .some rfl⟩

theorem written_of_letters (h : d.letters cs = .ok (d₁, waiting))
    (hnext : Completed d₁ waiting next d₂) :
    ∃ items, Letters items cs next ∧ d₂ = items.foldl note d := by
  fun_induction letters d cs with
  | case1 d =>
    cases h
    cases hnext
    exact ⟨[], .done, rfl⟩
  | case2 d rest ih =>
    obtain ⟨items, hrest, hd⟩ := ih h
    exact ⟨.debug :: items, .debug hrest, hd⟩
  | case3 d rest ih =>
    obtain ⟨items, hrest, hd⟩ := ih h
    exact ⟨.list :: items, .list hrest, hd⟩
  | case4 d =>
    cases h
    cases hnext
    exact ⟨[.settings .skip], .skip, rfl⟩
  | case5 d path hpath =>
    cases h
    cases hnext
    have hfile : Letters [.settings (.file (String.ofList path))]
        ('f' :: (String.ofList path).toList) [] := .file (by simpa using hpath)
    rw [String.toList_ofList] at hfile
    exact ⟨_, hfile, rfl⟩
  | case6 d =>
    cases h
    cases hnext with
    | some hassign =>
      obtain ⟨name, value, hname, rfl, rfl⟩ := assign_tag.mp hassign
      exact ⟨[.tag name value], .tagNext hname, rfl⟩
  | case7 d cs hcs =>
    rcases hassign : d.assign (String.ofList cs) .tag with e | d'
    · rw [hassign] at h
      cases h
    · rw [hassign] at h
      cases h
      cases hnext
      obtain ⟨name, value, hname, hw, rfl⟩ := assign_tag.mp hassign
      have htag : Letters [.tag name value] ('t' :: (name ++ "=" ++ value).toList) [] :=
        .tag hname
      rw [← hw, String.toList_ofList] at htag
      exact ⟨[.tag name value], htag, rfl⟩
  | case8 d =>
    cases h
    cases hnext with
    | some hassign =>
      cases hassign
      exact ⟨_, .presetNext, rfl⟩
  | case9 d cs hcs =>
    cases h
    cases hnext
    have hpreset : Letters [.preset (String.ofList cs)] ('p' :: (String.ofList cs).toList) [] :=
      .preset (by simpa using hcs)
    rw [String.toList_ofList] at hpreset
    exact ⟨_, hpreset, rfl⟩
  | case10 => cases h

/-! ## Words -/

theorem readWords_of_completed (h : Completed d waiting next d₁) (argv : List String) :
    readWords waiting d (next ++ argv) = readWords none d₁ argv := by
  cases h with
  | none => rfl
  | some h =>
    rw [List.singleton_append, readWords, h]

theorem completed_of_readWords (h : readWords waiting d argv = .ok d₂) :
    ∃ next rest d₁, argv = next ++ rest ∧ Completed d waiting next d₁ ∧
      readWords none d₁ rest = .ok d₂ := by
  cases waiting with
  | none => exact ⟨[], argv, d, rfl, .none, h⟩
  | some v =>
    rcases argv with - | ⟨w, rest⟩
    · cases h
    · rw [readWords] at h
      rcases hassign : d.assign w v with e | d₁
      · rw [hassign] at h
        cases h
      · rw [hassign] at h
        exact ⟨[w], rest, d₁, rfl, .some hassign, h⟩

theorem readWords_options (hcs : cs ≠ []) (hdash : cs.head? ≠ some '-') :
    readWords none d (String.ofList ('-' :: cs) :: argv) =
      match d.letters cs with
      | .ok (d, waiting) => readWords waiting d argv
      | .error e => .error e := by
  obtain ⟨c, rest, rfl⟩ := List.exists_cons_of_ne_nil hcs
  have hstop : String.ofList ('-' :: c :: rest) ≠ "--" := by
    intro h
    have hchars : '-' :: c :: rest = "--".toList := by
      rw [← h, String.toList_ofList]
    obtain ⟨rfl, -⟩ := List.cons.inj (List.cons.inj hchars).2
    exact hdash rfl
  rw [readWords, if_neg hstop, String.toList_ofList]
  rfl

theorem readWords_script {source : String}
    (hsource : source = "-" ∨ source.toList.head? ≠ some '-') :
    readWords none d (source :: argv)
      = readWords none { d with words := d.words ++ [source] } argv := by
  have hstop : source ≠ "--" := by
    rintro rfl
    exact absurd hsource (by decide)
  rw [readWords, if_neg hstop]
  split
  · next c cs hchars =>
    rcases hsource with rfl | hsource
    · cases hchars
    · rw [hchars] at hsource
      exact absurd rfl hsource
  · rfl

theorem readWords_rest (sources : List String) :
    readWords none d ("--" :: sources) = .ok { d with words := d.words ++ sources } := by
  rw [readWords]
  exact if_pos rfl

/-- A word without letters behind a dash is a script. -/
theorem plain_of_no_letters {w : String} (h : ∀ c cs, w.toList ≠ '-' :: c :: cs) :
    w = "-" ∨ w.toList.head? ≠ some '-' := by
  by_cases hdash : w.toList.head? = some '-'
  · obtain ⟨rest, hw⟩ := List.head?_eq_some_iff.mp hdash
    rcases rest with - | ⟨c, cs⟩
    · exact .inl (String.toList_inj.mp hw)
    · exact absurd hw (h c cs)
  · exact .inr hdash

/-- What is written is read, item by item. -/
theorem readWords_of_written (h : Written items argv) (d : Draft) :
    readWords none d argv = .ok (items.foldl note d) := by
  induction h generalizing d with
  | nil => rfl
  | options hletters hcs h ih =>
    obtain ⟨d₁, waiting, hread, hnext⟩ := letters_of_written hletters d
    rw [readWords_options hcs hletters.head_ne_dash, hread, List.foldl_append]
    exact (readWords_of_completed hnext _).trans (ih _)
  | script hsource h ih =>
    rw [readWords_script hsource]
    exact ih _
  | rest sources => rw [readWords_rest, foldl_note_scripts]

/-- What is read has been written. -/
theorem written_of_readWords (h : readWords none d argv = .ok d₂) :
    ∃ items, Written items argv ∧ d₂ = items.foldl note d := by
  -- On the length, since an option may take the next word as well.
  induction hlength : argv.length using Nat.strong_induction_on generalizing argv d with
  | _ n ih =>
    rcases argv with - | ⟨w, rest⟩
    · cases h
      exact ⟨[], .nil, rfl⟩
    · by_cases hstop : w = "--"
      · subst hstop
        rw [readWords_rest] at h
        refine ⟨rest.map .script, .rest rest, ?_⟩
        rw [foldl_note_scripts]
        exact (Except.ok.inj h).symm
      · rw [readWords, if_neg hstop] at h
        split at h
        · next c cs hw =>
          split at h
          · next d₁ waiting hletters =>
            obtain ⟨next, argv, d', rfl, hnext, hargv⟩ := completed_of_readWords h
            obtain ⟨items, hitems, rfl⟩ := written_of_letters hletters hnext
            obtain ⟨others, hothers, rfl⟩ := ih argv.length (by simp at hlength; omega) hargv rfl
            obtain rfl : w = String.ofList ('-' :: c :: cs) := by
              rw [← hw, String.ofList_toList]
            refine ⟨items ++ others, .options hitems nofun hothers, ?_⟩
            rw [List.foldl_append]
          · cases h
        · next hword =>
          obtain ⟨items, hitems, rfl⟩ := ih rest.length (by simp at hlength; omega) h rfl
          exact ⟨.script w :: items, .script (plain_of_no_letters hword) hitems, rfl⟩

end Draft

/-- A command line is read as certain values exactly if it is a way to write them. -/
theorem parse_iff_written {argv : List String} {c : CommandLine} :
    parse argv = .ok c ↔ ∃ items, Written items argv ∧ Says items c := by
  constructor
  · intro h
    rw [parse] at h
    split at h
    · next d hd =>
      obtain ⟨items, hwritten, rfl⟩ := Draft.written_of_readWords hd
      rw [Draft.foldl_note] at h
      exact ⟨items, hwritten, Draft.finish_ofItems.mp h⟩
    · cases h
  · rintro ⟨items, hwritten, hsays⟩
    rw [parse, Draft.readWords_of_written hwritten, Draft.foldl_note]
    exact Draft.finish_ofItems.mpr hsays

/-- Letters in one word, a value that looks like an option, and one that looks like the end of them. -/
example : parse ["-ldt", "-a=-d=", "-fx", "-tb=", "-f", "-p", "--"]
    = .ok ⟨.skip, [("-a", "-d="), ("b", "")], .preset "--", true, true⟩ := by
  rfl

end Retag.CommandLine

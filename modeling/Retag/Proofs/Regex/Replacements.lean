import Mathlib.Tactic.FinCases
import Retag.Proofs.Running.ValueCalls
import Retag.Proofs.Text.Numerals

/-!
# Replacements

A replacement is text in which a backslash refers to groups of a match, by number or by name, and it
is translated to a template. Reading the template gives what the replacement says, character by
character and reference by reference, except for one thing: a closing brace within the name of a
group ends the reference there, and the rest of the name is read as a template itself.
-/

namespace Retag.Library.Texts

open Script Regex Retag.Text

/-! ## What a replacement says -/

/-- A piece of a replacement. -/
inductive Fragment where
  | char (c : Char)
  /-- A group by the digits of its number. -/
  | number (digits : List Char)
  /-- A group by its name or its number. -/
  | named (name : List Char)

/-- Texts in front of which a backslash means more than itself. -/
inductive Escapes : List Char → Prop
  | digit {d : Char} {rest : List Char} : d.isDigit = true → Escapes (d :: rest)
  | letter {c : Char} {rest : List Char} : c ∈ ['n', 't', '\\'] → Escapes (c :: rest)
  | group {rest : List Char} : Escapes ('g' :: '<' :: rest)

/-- A replacement read from the left. -/
inductive Reads : List Char → List Fragment → Prop
  | nil : Reads [] []
  | plain {c : Char} {rest : List Char} {fragments : List Fragment} :
      c ≠ '\\' → Reads rest fragments → Reads (c :: rest) (.char c :: fragments)
  | digit {d : Char} {rest : List Char} {fragments : List Fragment} :
      d.isDigit = true → (∀ e ∈ rest.head?, ¬ e.isDigit = true) → Reads rest fragments →
      Reads ('\\' :: d :: rest) (.number [d] :: fragments)
  | digits {d e : Char} {rest : List Char} {fragments : List Fragment} :
      d.isDigit = true → e.isDigit = true → Reads rest fragments →
      Reads ('\\' :: d :: e :: rest) (.number [d, e] :: fragments)
  | named {name rest : List Char} {fragments : List Fragment} :
      '>' ∉ name → Reads rest fragments →
      Reads ('\\' :: 'g' :: '<' :: (name ++ '>' :: rest)) (.named name :: fragments)
  | unclosed {name : List Char} :
      '>' ∉ name → Reads ('\\' :: 'g' :: '<' :: name) [.named name]
  | escape {c d : Char} {rest : List Char} {fragments : List Fragment} :
      (c, d) ∈ [('n', '\n'), ('t', '\t'), ('\\', '\\')] → Reads rest fragments →
      Reads ('\\' :: c :: rest) (.char d :: fragments)
  /-- A backslash that means nothing else is one. -/
  | lone {rest : List Char} {fragments : List Fragment} :
      ¬ Escapes rest → Reads rest fragments → Reads ('\\' :: rest) (.char '\\' :: fragments)

/-- The group that has a name, or a number that is written instead. -/
def groupOf? (names : List (String × Nat)) (name : List Char) : Option Nat :=
  (readNat? name).or (names.lookup (String.ofList name))

/-- What a piece stands for, given the texts of the groups by number and the numbers of those with
names. Of a group that the pattern does not have the text is empty. -/
def Fragment.text (group : Nat → String) (names : List (String × Nat)) : Fragment → String
  | .char c => String.singleton c
  | .number digits => group (placeValue digits)
  | .named name => ((groupOf? names name).map group).getD ""

/-- The pieces of a replacement, filled in. -/
def meaning (group : Nat → String) (names : List (String × Nat)) (fragments : List Fragment) :
    String :=
  String.join (fragments.map (·.text group names))

variable {text rest name : List Char} {fragments : List Fragment}

/-- Every replacement can be read. -/
theorem exists_reads (text : List Char) : ∃ fragments, Reads text fragments := by
  induction hlength : text.length using Nat.strong_induction_on generalizing text with
  | _ n ih =>
    subst hlength
    rcases text with - | ⟨c, tail⟩
    · exact ⟨[], .nil⟩
    have later {rest : List Char} (h : rest <:+ tail) : ∃ fragments, Reads rest fragments :=
      ih _ (Nat.lt_succ_of_le h.length_le) rest rfl
    by_cases hc : c = '\\'
    · subst hc
      by_cases hescapes : Escapes tail
      · cases hescapes with
        | @digit d rest hd =>
          by_cases hsecond : ∃ e ∈ rest.head?, e.isDigit = true
          · obtain ⟨e, he, hdigit⟩ := hsecond
            obtain ⟨rest, rfl⟩ := List.head?_eq_some_iff.mp he
            obtain ⟨fragments, h⟩ := later ⟨[d, e], rfl⟩
            exact ⟨_, .digits hd hdigit h⟩
          · obtain ⟨fragments, h⟩ := later ⟨[d], rfl⟩
            exact ⟨_, .digit hd (fun e he hdigit => hsecond ⟨e, he, hdigit⟩) h⟩
        | @letter c rest hletter =>
          have hmeans : ∀ c ∈ ['n', 't', '\\'],
              ∃ d, (c, d) ∈ [('n', '\n'), ('t', '\t'), ('\\', '\\')] := by simp
          obtain ⟨d, hd⟩ := hmeans c hletter
          obtain ⟨fragments, h⟩ := later ⟨[c], rfl⟩
          exact ⟨_, .escape hd h⟩
        | @group inner =>
          by_cases hclosed : '>' ∈ inner
          · obtain ⟨name, rest, rfl, hname⟩ := List.eq_append_cons_of_mem hclosed
            have hrest : rest <:+ 'g' :: '<' :: (name ++ '>' :: rest) :=
              ⟨'g' :: '<' :: (name ++ ['>']), by simp⟩
            obtain ⟨fragments, h⟩ := later hrest
            exact ⟨_, .named hname h⟩
          · exact ⟨_, .unclosed hclosed⟩
      · obtain ⟨fragments, h⟩ := later List.suffix_rfl
        exact ⟨_, .lone hescapes h⟩
    · obtain ⟨fragments, h⟩ := later List.suffix_rfl
      exact ⟨_, .plain hc h⟩

theorem takeWhile_ne {c : Char} (hname : c ∉ name) (rest : List Char) :
    (name ++ c :: rest).takeWhile (· != c) = name := by
  have hkept : ∀ d ∈ name, (d != c) = true := fun d hd => bne_iff_ne.mpr fun h => hname (h ▸ hd)
  rw [List.takeWhile_append_of_pos hkept, List.takeWhile_cons_of_neg (by simp), List.append_nil]

/-- A replacement is read in one way only. -/
theorem Reads.unique {text : List Char} {fragments others : List Fragment}
    (h : Reads text fragments) (hother : Reads text others) : others = fragments := by
  have hletter {c d : Char} (h : (c, d) ∈ [('n', '\n'), ('t', '\t'), ('\\', '\\')]) :
      c ∈ ['n', 't', '\\'] := by fin_cases h <;> decide
  have hdigit {c d : Char} (h : (c, d) ∈ [('n', '\n'), ('t', '\t'), ('\\', '\\')]) :
      ¬ c.isDigit = true := by fin_cases h <;> decide
  have hmeans {c d e : Char} (h : (c, d) ∈ [('n', '\n'), ('t', '\t'), ('\\', '\\')])
      (hother : (c, e) ∈ [('n', '\n'), ('t', '\t'), ('\\', '\\')]) : d = e := by
    fin_cases hother <;> simpa using h
  induction h generalizing others with
  | nil => cases hother; rfl
  | plain hc _ ih =>
    cases hother with
    | plain _ hrest => rw [ih hrest]
    | _ => exact absurd rfl hc
  | digit hd hnext _ ih =>
    cases hother with
    | plain hc => exact absurd rfl hc
    | digit _ _ hrest => rw [ih hrest]
    | digits _ he => exact absurd he (hnext _ rfl)
    | named => exact absurd hd (by decide)
    | unclosed => exact absurd hd (by decide)
    | escape hcd => exact absurd hd (hdigit hcd)
    | lone h => exact absurd (.digit hd) h
  | digits hd he _ ih =>
    cases hother with
    | plain hc => exact absurd rfl hc
    | digit _ hnext => exact absurd he (hnext _ rfl)
    | digits _ _ hrest => rw [ih hrest]
    | named => exact absurd hd (by decide)
    | unclosed => exact absurd hd (by decide)
    | escape hcd => exact absurd hd (hdigit hcd)
    | lone h => exact absurd (.digit hd) h
  | @named name rest fragments hname _ ih =>
    generalize hinner : name ++ '>' :: rest = inner at hother
    cases hother with
    | plain hc => exact absurd rfl hc
    | digit hd => exact absurd hd (by decide)
    | digits hd => exact absurd hd (by decide)
    | @named short _ _ hshort hrest =>
      obtain rfl : name = short := by
        rw [← takeWhile_ne hname rest, hinner, takeWhile_ne hshort]
      cases List.append_cancel_left hinner
      rw [ih hrest]
    | unclosed hopen => exact absurd (hinner ▸ List.mem_append_cons_self) hopen
    | escape hcd => exact absurd (hletter hcd) (by decide)
    | lone h => exact absurd .group h
  | @unclosed name hname =>
    generalize hinner : name = inner at hother ⊢
    cases hother with
    | plain hc => exact absurd rfl hc
    | digit hd => exact absurd hd (by decide)
    | digits hd => exact absurd hd (by decide)
    | named => exact absurd (hinner ▸ List.mem_append_cons_self) hname
    | unclosed => rfl
    | escape hcd => exact absurd (hletter hcd) (by decide)
    | lone h => exact absurd .group h
  | @escape c d rest _ hcd _ ih =>
    cases hother with
    | plain hc => exact absurd rfl hc
    | digit hd => exact absurd hd (hdigit hcd)
    | digits hd => exact absurd hd (hdigit hcd)
    | named => exact absurd (hletter hcd) (by decide)
    | unclosed => exact absurd (hletter hcd) (by decide)
    | escape hsame hrest => rw [hmeans hsame hcd, ih hrest]
    | lone h => exact absurd (.letter (hletter hcd)) h
  | lone hescapes _ ih =>
    cases hother with
    | plain hc => exact absurd rfl hc
    | digit hd => exact absurd (.digit hd) hescapes
    | digits hd => exact absurd (.digit hd) hescapes
    | named => exact absurd .group hescapes
    | unclosed => exact absurd .group hescapes
    | escape hcd => exact absurd (.letter (hletter hcd)) hescapes
    | lone _ hrest => rw [ih hrest]

/-! ## Translation -/

/-- What a piece is translated to. -/
def Fragment.template : Fragment → List Char
  | .char c => if c = '$' then ['$', '$'] else [c]
  | .number name | .named name => '$' :: '\x7b' :: (name ++ ['\x7d'])

-- The equations are derived once here, and not in every proof that takes a step.
attribute [local simp] templateFrom

theorem templateFrom_skip (n : Nat) (text : List Char) :
    templateFrom n text = templateFrom 0 (text.drop n) := by
  induction n generalizing text with
  | zero => rfl
  | succ n ih =>
    rcases text with - | ⟨c, rest⟩
    · rfl
    · exact ih rest

theorem digit_ne {d : Char} (hd : d.isDigit = true) : d ∉ ['g', 'n', 't', '\\', '$'] := by
  intro h
  fin_cases h <;> exact absurd hd (by decide)

theorem templateFrom_plain {c : Char} (hc : c ≠ '\\') (rest : List Char) :
    templateFrom 0 (c :: rest) = (Fragment.char c).template ++ templateFrom 0 rest := by
  rw [templateFrom.eq_def, Fragment.template]
  by_cases hdollar : c = '$' <;> simp [hc, hdollar]

theorem templateFrom_digit {d : Char} (hd : d.isDigit = true)
    (hnext : ∀ e ∈ rest.head?, ¬ e.isDigit = true) :
    templateFrom 0 ('\\' :: d :: rest) = (Fragment.number [d]).template ++ templateFrom 0 rest := by
  have hne := digit_ne hd
  rcases rest with - | ⟨e, rest⟩
  · simp_all [Fragment.template]
  · have he : e.isDigit = false := by simpa using hnext e rfl
    simp_all [Fragment.template]

theorem templateFrom_digits {d e : Char} (hd : d.isDigit = true) (he : e.isDigit = true)
    (rest : List Char) :
    templateFrom 0 ('\\' :: d :: e :: rest)
      = (Fragment.number [d, e]).template ++ templateFrom 0 rest := by
  have hne := digit_ne hd
  simp_all [Fragment.template]

theorem templateFrom_group (inner : List Char) :
    templateFrom 0 ('\\' :: 'g' :: '<' :: inner)
      = (Fragment.named (inner.takeWhile (· != '>'))).template
        ++ templateFrom 0 (inner.drop ((inner.takeWhile (· != '>')).length + 1)) := by
  rw [templateFrom.eq_4, if_neg (by decide), if_pos rfl]
  simp only [templateFrom_skip (_ + 3), List.drop_succ_cons, Fragment.template, List.append_assoc,
    List.cons_append, List.nil_append]

theorem templateFrom_named (hname : '>' ∉ name) (rest : List Char) :
    templateFrom 0 ('\\' :: 'g' :: '<' :: (name ++ '>' :: rest))
      = (Fragment.named name).template ++ templateFrom 0 rest := by
  rw [templateFrom_group, takeWhile_ne hname, ← List.drop_drop, List.drop_left]
  rfl

theorem templateFrom_unclosed (hname : '>' ∉ name) :
    templateFrom 0 ('\\' :: 'g' :: '<' :: name) = (Fragment.named name).template := by
  have hwhole : name.takeWhile (· != '>') = name :=
    List.takeWhile_eq_self_iff.mpr fun c hc => bne_iff_ne.mpr fun h => hname (h ▸ hc)
  rw [templateFrom_group, hwhole, List.drop_eq_nil_of_le (Nat.le_succ _), templateFrom,
    List.append_nil]

theorem templateFrom_lone (h : ¬ Escapes rest) :
    templateFrom 0 ('\\' :: rest) = '\\' :: templateFrom 0 rest := by
  rcases rest with - | ⟨d, rest⟩
  · rfl
  have hdigit : d.isDigit = false := by simpa using mt Escapes.digit h
  have hletter : d ∉ ['n', 't', '\\'] := mt Escapes.letter h
  by_cases hgroup : d = 'g'
  · subst hgroup
    have hopen : ∀ inner, rest = '<' :: inner → False := by
      rintro inner rfl
      exact h .group
    rw [templateFrom.eq_5 _ _ hopen, if_neg (by decide), if_pos rfl,
      templateFrom_plain (by decide)]
    rfl
  · rcases rest with - | ⟨e, rest⟩ <;> simp_all

theorem templateFrom_eq (h : Reads text fragments) :
    templateFrom 0 text = fragments.flatMap Fragment.template := by
  induction h with
  | nil => rfl
  | plain hc _ ih => rw [templateFrom_plain hc, ih, List.flatMap_cons]
  | digit hd hnext _ ih => rw [templateFrom_digit hd hnext, ih, List.flatMap_cons]
  | digits hd he _ ih => rw [templateFrom_digits hd he, ih, List.flatMap_cons]
  | named hname _ ih => rw [templateFrom_named hname, ih, List.flatMap_cons]
  | unclosed hname => rw [templateFrom_unclosed hname, List.flatMap_singleton]
  | @escape c d rest fragments hcd h ih =>
    rw [List.flatMap_cons, ← ih]
    fin_cases hcd <;> rfl
  | lone hescapes _ ih =>
    rw [templateFrom_lone hescapes, ih, List.flatMap_cons]
    rfl

/-! ## Reading templates -/

open Template

attribute [local simp] Template.read

theorem read_skip (n : Nat) (text : List Char) : read n text = read 0 (text.drop n) := by
  induction n generalizing text with
  | zero => rfl
  | succ n ih =>
    rcases text with - | ⟨c, rest⟩
    · rfl
    · exact ih rest

theorem read_plain {c : Char} (hc : c ≠ '$') (rest : List Char) :
    read 0 (c :: rest) = .char c :: read 0 rest := by
  rw [read.eq_def]
  simp [hc]

theorem read_dollar (rest : List Char) :
    read 0 ('$' :: '$' :: rest) = .char '$' :: read 0 rest := by
  rw [read.eq_3, if_pos rfl, read_skip, List.drop_one, List.tail_cons]

theorem read_group (hname : '\x7d' ∉ name) (rest : List Char) :
    read 0 ('$' :: '\x7b' :: (name ++ '\x7d' :: rest))
      = .ref (GroupRef.ofText name) :: read 0 rest := by
  have hshorter : name.length < (name ++ '\x7d' :: rest).length := by
    rw [List.length_append, List.length_cons]
    omega
  rw [read.eq_4, if_pos rfl]
  simp only [takeWhile_ne hname, if_pos hshorter, read_skip (_ + 2), List.drop_succ_cons]
  rw [← List.drop_drop, List.drop_left]
  rfl

/-- A bare name goes on as long as its characters. -/
theorem read_word {word : List Char} (hne : word ≠ []) (hword : ∀ c ∈ word, isNameChar c = true)
    (hrest : ∀ c ∈ rest.head?, ¬ isNameChar c = true) :
    read 0 ('$' :: (word ++ rest)) = .ref (GroupRef.ofText word) :: read 0 rest := by
  have htake : (word ++ rest).takeWhile isNameChar = word := by
    rw [List.takeWhile_append_of_pos hword]
    rcases rest with - | ⟨c, rest⟩
    · rw [List.takeWhile_nil, List.append_nil]
    · rw [List.takeWhile_cons_of_neg (hrest c rfl), List.append_nil]
  obtain ⟨c, word, rfl⟩ := List.exists_cons_of_ne_nil hne
  have hstart (d : Char) (hd : isNameChar d = false) {after : List Char} :
      c :: word ++ rest ≠ d :: after := fun h =>
    Bool.false_ne_true (hd.symm.trans ((List.cons.inj h).1 ▸ hword c List.mem_cons_self))
  rw [read.eq_5 _ _ (fun _ h => hstart '$' rfl h) (fun _ h => hstart '\x7b' rfl h), if_pos rfl]
  simp only [htake, List.isEmpty_cons, Bool.false_eq_true, if_false]
  rw [read_skip, List.drop_left]

theorem read_lone (h : ∀ c ∈ rest.head?, c ≠ '$' ∧ c ≠ '\x7b' ∧ ¬ isNameChar c = true) :
    read 0 ('$' :: rest) = .char '$' :: read 0 rest := by
  rcases rest with - | ⟨c, rest⟩
  · rfl
  · obtain ⟨hdollar, hbrace, hname⟩ := h c rfl
    rw [read.eq_5 _ _ (fun _ h => hdollar (List.cons.inj h).1)
      (fun _ h => hbrace (List.cons.inj h).1), if_pos rfl]
    simp [hname]

/-- Behind a closing brace a template is read as if it stood alone. -/
theorem read_closed (front rest : List Char) :
    read 0 (front ++ '\x7d' :: rest) = read 0 (front ++ ['\x7d']) ++ read 0 rest := by
  induction hlength : front.length using Nat.strong_induction_on generalizing front with
  | _ n ih =>
    subst hlength
    have later {after : List Char} (h : after.length < front.length) :
        read 0 (after ++ '\x7d' :: rest) = read 0 (after ++ ['\x7d']) ++ read 0 rest :=
      ih _ h after rfl
    rcases front with - | ⟨c, inner⟩
    · rw [List.nil_append, List.nil_append, read_plain (by decide), read_plain (by decide)]
      rfl
    have hinner := later (Nat.lt_succ_self inner.length)
    by_cases hc : c = '$'
    case neg =>
      rw [List.cons_append, List.cons_append, read_plain hc, read_plain hc, hinner,
        List.cons_append]
    subst hc
    rw [List.cons_append, List.cons_append]
    have hhead (tail : List Char) :
        (inner ++ '\x7d' :: tail).head? = (inner ++ ['\x7d']).head? := by
      rw [List.head?_append, List.head?_append, List.head?_cons, List.head?_cons]
    by_cases hlone : ∀ c ∈ (inner ++ ['\x7d']).head?,
        c ≠ '$' ∧ c ≠ '\x7b' ∧ ¬ isNameChar c = true
    · rw [read_lone (hhead rest ▸ hlone), read_lone hlone, hinner, List.cons_append]
    rcases inner with - | ⟨c, inner⟩
    · exact absurd (by rintro c ⟨⟩; decide) hlone
    by_cases hdollar : c = '$'
    · subst hdollar
      rw [List.cons_append, List.cons_append, read_dollar, read_dollar,
        later (Nat.lt_succ_of_lt (Nat.lt_succ_self _)), List.cons_append]
    by_cases hbrace : c = '\x7b'
    · subst hbrace
      by_cases hclosed : '\x7d' ∈ inner
      · obtain ⟨name, after, rfl, hname⟩ := List.eq_append_cons_of_mem hclosed
        simp only [List.cons_append, List.append_assoc, read_group hname]
        rw [later (by simp only [List.length_cons, List.length_append]; omega)]
      · rw [List.cons_append, List.cons_append, read_group hclosed, read_group hclosed]
        rfl
    have hname : isNameChar c = true := by
      by_contra hname
      exact hlone fun _ h => Option.some.inj h ▸ ⟨hdollar, hbrace, hname⟩
    -- A bare name ends at the brace at the latest.
    obtain ⟨word, after, rfl, hword, hafter⟩ := exists_run isNameChar inner
    have hends (tail : List Char) : ∀ d ∈ (after ++ '\x7d' :: tail).head?,
        ¬ isNameChar d = true := by
      rcases after with - | ⟨e, after⟩
      · rintro d ⟨⟩
        decide
      · exact hafter
    have hread (tail : List Char) : read 0 ('$' :: (c :: (word ++ after) ++ '\x7d' :: tail))
        = .ref (GroupRef.ofText (c :: word)) :: read 0 (after ++ '\x7d' :: tail) := by
      rw [← read_word (List.cons_ne_nil c word) (List.forall_mem_cons.mpr ⟨hname, hword⟩)
        (hends tail), List.cons_append, List.cons_append, List.append_assoc]
    rw [hread, hread, later (by simp only [List.length_cons, List.length_append]; omega),
      List.cons_append]

/-! ## What translations give -/

variable {group : Nat → String} {names : List (String × Nat)}

/-- What a piece is read as. A closing brace within a name ends the reference, and what follows it
is a template that the brace of the translation ends. -/
def Fragment.reread (group : Nat → String) (names : List (String × Nat)) : Fragment → String
  | .named name =>
    (Fragment.named (name.takeWhile (· != '\x7d'))).text group names
      ++ expand (String.ofList (name.dropWhile (· != '\x7d') ++ ['\x7d']).tail) group names
  | fragment => fragment.text group names

theorem read_template_append (fragment : Fragment) (rest : List Char) :
    read 0 (fragment.template ++ rest) = read 0 fragment.template ++ read 0 rest := by
  rcases fragment with c | digits | name
  · by_cases hc : c = '$'
    · subst hc
      exact read_dollar rest
    · rw [Fragment.template, if_neg hc, List.singleton_append, read_plain hc, read_plain hc]
      rfl
  all_goals
    simp only [Fragment.template, List.cons_append, List.append_assoc, List.nil_append]
    exact read_closed ('$' :: '\x7b' :: _) rest

theorem read_flatMap (fragments : List Fragment) :
    read 0 (fragments.flatMap Fragment.template)
      = fragments.flatMap fun fragment => read 0 fragment.template := by
  induction fragments with
  | nil => rfl
  | cons fragment fragments ih =>
    rw [List.flatMap_cons, read_template_append, ih, List.flatMap_cons]

theorem readNat?_digits {digits : List Char} (h : IsDigits digits) :
    readNat? digits = some (placeValue digits) := by
  unfold readNat?
  split
  · exact absurd (h.2 '+' List.mem_cons_self) (by decide)
  · exact h.readDigits?

theorem Reads.isDigits (h : Reads text fragments) {digits : List Char}
    (hmem : .number digits ∈ fragments) : IsDigits digits := by
  induction h with
  | nil => cases hmem
  | digit hd _ _ ih =>
    rcases List.mem_cons.mp hmem with hdigits | hmem
    · cases hdigits
      exact ⟨List.cons_ne_nil _ _, by simpa [← isDigit_iff] using hd⟩
    · exact ih hmem
  | digits hd he _ ih =>
    rcases List.mem_cons.mp hmem with hdigits | hmem
    · cases hdigits
      exact ⟨List.cons_ne_nil _ _, by simpa [← isDigit_iff] using ⟨hd, he⟩⟩
    · exact ih hmem
  | unclosed => simp at hmem
  | _ => simp_all

theorem value_ofText (name : List Char) :
    (GroupRef.ofText name).value group names = (Fragment.named name).text group names := by
  rw [GroupRef.ofText, Fragment.text, groupOf?]
  cases readNat? name <;> rfl

theorem fill_ref (name : List Char) (pieces : List TemplatePiece) :
    fill group names (.ref (GroupRef.ofText name) :: pieces)
      = (Fragment.named name).text group names ++ fill group names pieces := by
  rw [fill, List.map_cons, String.join_cons, ← value_ofText]
  rfl

theorem fill_flatMap (f : Fragment → List TemplatePiece) (fragments : List Fragment) :
    fill group names (fragments.flatMap f)
      = String.join (fragments.map fun fragment => fill group names (f fragment)) := by
  induction fragments with
  | nil => rfl
  | cons fragment fragments ih =>
    rw [List.flatMap_cons, fill, List.map_append, String.join_append, ← fill, ← fill, ih,
      List.map_cons, String.join_cons]

/-- A name in braces up to the first of them that closes. -/
theorem takeWhile_brace (name : List Char) :
    name.takeWhile (· != '\x7d') ++ '\x7d' :: (name.dropWhile (· != '\x7d') ++ ['\x7d']).tail
      = name ++ ['\x7d'] := by
  have hhead := List.head?_dropWhile_not (· != '\x7d') name
  conv_rhs => rw [← List.takeWhile_append_dropWhile (p := (· != '\x7d')) (l := name)]
  revert hhead
  rcases name.dropWhile (· != '\x7d') with - | ⟨c, after⟩ <;> intro hhead
  · rw [List.append_nil]
    rfl
  · obtain rfl : c = '\x7d' := bne_eq_false_iff_eq.mp hhead
    rw [List.append_assoc]
    rfl

theorem fill_named (name : List Char) :
    fill group names (read 0 (Fragment.named name).template)
      = (Fragment.named name).reread group names := by
  have hshort : '\x7d' ∉ name.takeWhile (· != '\x7d') := fun h =>
    absurd (List.mem_takeWhile_imp (p := (· != '\x7d')) h) (by decide)
  rw [Fragment.template, ← takeWhile_brace, read_group hshort, fill_ref, Fragment.reread, expand,
    String.toList_ofList]

theorem fill_template {fragment : Fragment}
    (hdigits : ∀ digits, fragment = .number digits → IsDigits digits) :
    fill group names (read 0 fragment.template) = fragment.reread group names := by
  rcases fragment with c | digits | name
  · have hread : read 0 (Fragment.char c).template = [.char c] := by
      by_cases hc : c = '$'
      · subst hc
        rfl
      · rw [Fragment.template, if_neg hc, read_plain hc]
        rfl
    rw [hread, fill, List.map_singleton, String.join_cons, String.join_nil, String.append_empty]
    rfl
  · have hnumber := readNat?_digits (hdigits digits rfl)
    have hbrace : '\x7d' ∉ digits := fun h => absurd ((hdigits digits rfl).2 _ h) (by decide)
    rw [Fragment.template, read_group hbrace, fill_ref, Fragment.text, groupOf?, hnumber]
    exact String.append_empty
  · exact fill_named name

/-- A translation gives the pieces that the replacement consists of, each as it is read again. -/
theorem expand_template {replacement : String} (h : Reads replacement.toList fragments) :
    expand (template replacement) group names
      = String.join (fragments.map (·.reread group names)) := by
  rw [expand, template, String.toList_ofList, templateFrom_eq h, read_flatMap, fill_flatMap]
  refine congrArg String.join (List.map_congr_left fun fragment hmem => fill_template ?_)
  rintro digits rfl
  exact h.isDigits hmem

/-- A name without closing braces refers to its group. -/
theorem reread_eq_text {fragment : Fragment}
    (hname : ∀ name, fragment = .named name → '\x7d' ∉ name) :
    fragment.reread group names = fragment.text group names := by
  rcases fragment with c | digits | name
  · rfl
  · rfl
  · have hkept : ∀ c ∈ name, (c != '\x7d') = true := fun c hc =>
      bne_iff_ne.mpr fun h => hname name rfl (h ▸ hc)
    rw [Fragment.reread, List.takeWhile_eq_self_iff.mpr hkept, List.dropWhile_eq_nil_iff.mpr hkept]
    exact String.append_empty

/-! ## Replacing matches -/

theorem replacePattern_eq {replacement : String} (h : Reads replacement.toList fragments)
    {pattern : String} {p : Program} (hpattern : Program.compile? pattern = some p)
    (text : String) :
    replacePattern text pattern replacement
      = String.join (Program.replaceFrom text.toList.toArray
        (fun m => String.join
          (fragments.map (·.reread (fun i => (m.text? text.toList.toArray i).getD "") p.names)))
        0 (p.findAll text.toList.toArray)) := by
  simp only [replacePattern, hpattern, Program.replaceAll, ← expand_template h]
  rfl

/-- A replacement is read in one way, and every match becomes what the pieces give there. Each
character and each numbered group gives itself, and so does a group by name unless there is a
closing brace in the name. -/
theorem replacing_by_pieces (a b c : Tree) (position : Position) (replacement : String) :
    evalTree standard [.call "rreplace" [a, b, c] position] = (do
      let text ← evalTree standard a
      let pattern ← evalTree standard b
      let replacement ← evalTree standard c
      return replacePattern text pattern replacement)
    ∧ ∃ fragments, (∀ others, Reads replacement.toList others ↔ others = fragments)
      ∧ (∀ group names, expand (template replacement) group names
        = String.join (fragments.map (·.reread group names)))
      ∧ ((∀ name, .named name ∈ fragments → '\x7d' ∉ name) → ∀ group names,
        expand (template replacement) group names = meaning group names fragments)
      ∧ ∀ text pattern p, Program.compile? pattern = some p →
        replacePattern text pattern replacement
          = String.join (Program.replaceFrom text.toList.toArray
            (fun m => String.join (fragments.map
              (·.reread (fun i => (m.text? text.toList.toArray i).getD "") p.names)))
            0 (p.findAll text.toList.toArray)) := by
  obtain ⟨fragments, h⟩ := exists_reads replacement.toList
  refine ⟨evalTree_ofThree ((find?_standard _).trans rfl) position, fragments,
    fun others => ⟨h.unique, fun hsame => hsame ▸ h⟩, fun group names => expand_template h,
    fun hnames group names => ?_, fun text pattern p hpattern => replacePattern_eq h hpattern text⟩
  rw [expand_template h, meaning]
  refine congrArg String.join (List.map_congr_left fun fragment hmem => reread_eq_text ?_)
  rintro name rfl
  exact hnames name hmem

theorem replacing_by_pieces_dollar :
    expand (template "\\2$1\\g<n>") (fun i => if i = 1 then "a" else "b") [("n", 1)] = "b$1a" := by
  have hreads : Reads "\\2$1\\g<n>".toList
      [.number ['2'], .char '$', .char '1', .named ['n']] :=
    .digit rfl (by rintro e ⟨⟩; decide) (.plain (by decide) (.plain (by decide)
      (@Reads.named ['n'] [] [] (by decide) .nil)))
  obtain ⟨-, fragments, hread, -, hclean, -⟩ :=
    replacing_by_pieces [] [] [] .start "\\2$1\\g<n>"
  obtain rfl := (hread _).mp hreads
  rw [hclean (by simp)]
  decide

/-- The name of a group is not kept together: of a closing brace in it, the front refers to another
group. -/
theorem brace_ends_reference :
    ¬ ∀ (replacement : String) (fragments : List Fragment) (group : Nat → String)
        (names : List (String × Nat)), Reads replacement.toList fragments →
        expand (template replacement) group names = meaning group names fragments := by
  intro h
  have hgiven := h "\\g<a\x7dx>" [.named ['a', '\x7d', 'x']] (fun _ => "b") [("a", 1)]
    (@Reads.named ['a', '\x7d', 'x'] [] [] (by decide) .nil)
  revert hgiven
  decide

end Retag.Library.Texts

import Mathlib.Tactic.FinCases
import Retag.Proofs.Glob.Matching
import Retag.Regex.Parser

/-!
# Globs in brackets

A class of a glob is translated to a bracketed class of a regular expression. The members that the
brackets are seen to hold are those that were written, whatever stands behind them. Brackets that
hold nothing take the text behind them for their members, and never find their end.
-/

namespace Retag.Glob

open Unicode Regex Regex.Parser

/-- The flags that every translated glob sets. -/
def flags : Flags := { ignoreCase := true, dotNewline := true }

/-! ## What is written -/

/-- The class of the characters that a member has; none for an empty range. -/
def Member.set? : Member → Option CharClass
  | .one c => some (.single c)
  | .range a b => if a ≤ b then some (.range a b) else none

/-- What the brackets of a class hold: a class without members is written through all characters. -/
def setsOf (members : List Member) : List CharClass :=
  if members.isEmpty then [.space, CharClass.space.negate] else members.filterMap Member.set?

/-- Whether the brackets of a class start with `^`. -/
def hasCaret (negated : Bool) (members : List Member) : Bool := negated != members.isEmpty

/-- The start of bracketed classes, behind the `[`. -/
def caret (present : Bool) : List Char := if present then ['^'] else []

/-- The text writes one member of a bracketed class. -/
inductive WritesOne : List Char → CharClass → Prop
  | one (c : Char) : WritesOne (quote c) (.single c)
  | range {a b : Char} : a ≤ b → WritesOne (quote a ++ '-' :: quote b) (.range a b)
  | space : WritesOne ['\\', 's'] .space
  | notSpace : WritesOne ['\\', 'S'] CharClass.space.negate

/-- The text writes these members of a bracketed class, in this order. -/
inductive Writes : List Char → List CharClass → Prop
  | nil : Writes [] []
  | cons {part text : List Char} {s : CharClass} {sets : List CharClass} :
      WritesOne part s → Writes text sets → Writes (part ++ text) (s :: sets)

theorem writes_members (members : List Member) :
    Writes (members.flatMap Member.pattern) (members.filterMap Member.set?) := by
  induction members with
  | nil => exact .nil
  | cons m members ih =>
    rw [List.flatMap_cons]
    cases m with
    | one c => exact .cons (.one c) ih
    | range a b =>
      by_cases hab : a ≤ b
      · simpa [Member.pattern, Member.set?, hab] using Writes.cons (.range hab) ih
      · simpa [Member.pattern, Member.set?, hab] using ih

theorem pattern_cls (negated : Bool) (members : List Member) :
    ∃ text, Item.pattern (.cls negated members)
        = '[' :: (caret (hasCaret negated members) ++ (text ++ [']'])) ∧
      Writes text (setsOf members) := by
  rcases members with _ | ⟨m, members⟩
  · refine ⟨['\\', 's', '\\', 'S'], ?_, .cons .space (.cons .notSpace .nil)⟩
    cases negated <;> rfl
  · refine ⟨(m :: members).flatMap Member.pattern, ?_, writes_members _⟩
    have hpattern : Item.pattern (.cls negated (m :: members))
        = '[' :: caret negated ++ (m :: members).flatMap Member.pattern ++ [']'] := by
      cases negated <;> rfl
    have hcaret : hasCaret negated (m :: members) = negated := Bool.xor_false negated
    rw [hpattern, hcaret, List.append_assoc, List.cons_append]

/-! ## Text behind a member -/

/-- What stands at the start of the text ends a member and repeats nothing. -/
def Tame (text : List Char) : Prop :=
  ∀ c, text.head? = some c → c ∈ ['\\', '[', ']', '.'] ∨ isMeta c = false

variable {text rest : List Char} {sets : List CharClass} {c : Char} {fuel : Nat} {negated : Bool}
  {o : OpenSet}

theorem Tame.head_ne (h : Tame text) (hc : c ∈ ['-', '?', '^', '*', '&', '~']) :
    text.head? ≠ some c := by
  intro hhead
  have hc' := h c hhead
  revert hc'
  fin_cases hc <;> decide

theorem head_quote {d : Char} (hd : (quote c ++ text).head? = some d) :
    d ∈ ['\\'] ∨ isMeta d = false := by
  rw [quote] at hd
  split at hd
  case isTrue _ =>
    cases hd
    exact .inl (List.mem_singleton.mpr rfl)
  case isFalse hmeta =>
    cases hd
    exact .inr (Bool.eq_false_iff.mpr hmeta)

theorem head_quote_ne {d : Char} (hd : isMeta d = true ∧ d ≠ '\\') :
    (quote c ++ text).head? ≠ some d := by
  intro hhead
  rcases head_quote hhead with h | h
  · exact hd.2 (List.mem_singleton.mp h)
  · exact Bool.false_ne_true (h.symm.trans hd.1)

theorem tame_quote (c : Char) (text : List Char) : Tame (quote c ++ text) :=
  fun _ hd => (head_quote hd).imp_left (List.mem_append_left ['[', ']', '.'])

theorem tame_of_mem (hc : c ∈ ['\\', '[', ']', '.']) (text : List Char) : Tame (c :: text) := by
  rintro d ⟨⟩
  exact .inl hc

theorem WritesOne.tame {part : List Char} {s : CharClass} (h : WritesOne part s)
    (rest : List Char) : Tame (part ++ rest) := by
  cases h with
  | one c => exact tame_quote c rest
  | range _ =>
    rw [List.append_assoc]
    exact tame_quote _ _
  | space => exact tame_of_mem (by decide) _
  | notSpace => exact tame_of_mem (by decide) _

theorem Writes.tame (h : Writes text sets) (rest : List Char) : Tame (text ++ ']' :: rest) := by
  cases h with
  | nil => exact tame_of_mem (by decide) _
  | cons hpart _ =>
    rw [List.append_assoc]
    exact hpart.tame _

/-! ## Reading members -/

theorem next_flags (text : List Char) : next flags text = text := rfl

theorem classLiteral_flags (c : Char) : classLiteral flags c = some c := rfl

theorem escape_meta (h : isMeta c = true) (f : Flags) :
    escape f (c :: rest) = some (.literal c false, rest) := by
  rw [isMeta, List.contains_iff_mem] at h
  fin_cases h <;> rfl

theorem setItem_quote (f : Flags) (c : Char) (rest : List Char) :
    setItem f (quote c ++ rest) = some (.literal c false, rest) := by
  rw [quote]
  split
  case isTrue hmeta => exact escape_meta hmeta f
  case isFalse hmeta =>
    have hescape : c ≠ '\\' := by
      rintro rfl
      exact hmeta rfl
    rw [List.singleton_append, setItem]
    exact fun h => absurd h hescape

theorem setRange_item {a : Atom} (hitem : setItem flags text = some (a, rest)) (hne : rest ≠ [])
    (hdash : rest.head? ≠ some '-') :
    setRange flags text = (atomClass flags a).map fun s => (s, rest) := by
  have hguard : rest.isEmpty = false := List.isEmpty_eq_false_iff.mpr hne
  have hstart : (rest.head? != some '-') = true := bne_iff_ne.mpr hdash
  simp only [setRange, hitem, next_flags, Option.bind_eq_bind, Option.bind_some, hguard, hstart]
  cases atomClass flags a <;> rfl

theorem setRange_dash {a b : Char} {tail : List Char}
    (hfirst : setItem flags text = some (.literal a false, '-' :: tail))
    (hlast : setItem flags tail = some (.literal b false, rest))
    (htail : ∀ d ∈ [']', '-'], tail.head? ≠ some d) (hab : a ≤ b) :
    setRange flags text = some (.range a b, rest) := by
  have hne : tail ≠ [] := by
    rintro rfl
    cases hlast
  have hpeek : peekSecond flags ('-' :: tail) = tail.head? := rfl
  simp [setRange, hfirst, hlast, next_flags, hpeek, htail, hne, classLiteral_flags, hab]

/-- Text that starts a member, and no operator, class or end. -/
theorem setBody_member {s : CharClass} (hrange : setRange flags text = some (s, rest))
    (hne : text ≠ []) (htext : ∀ d ∈ ['[', ']', '&', '-', '~'], text.head? ≠ some d) :
    setBody flags negated (fuel + 1) o text = setBody flags negated fuel (o.add s) rest := by
  rw [setBody, next_flags]
  split <;> simp_all

/-- A character that has no meaning in brackets is a member of its own. -/
theorem setBody_bare (hc : c ∉ ['\\', '[', ']', '&', '-', '~']) (hne : rest ≠ [])
    (hdash : rest.head? ≠ some '-') :
    setBody flags negated (fuel + 1) o (c :: rest)
      = setBody flags negated fuel (o.add (.single c)) rest := by
  have hitem : setItem flags (c :: rest) = some (.literal c false, rest) := by
    rw [setItem]
    rintro rfl
    exact hc List.mem_cons_self
  refine setBody_member ?_ (List.cons_ne_nil _ _) fun d hd hhead => ?_
  · rw [setRange_item hitem hne hdash]
    rfl
  · exact hc (List.mem_cons_of_mem _ (Option.some.inj hhead ▸ hd))

theorem WritesOne.setRange_eq {part : List Char} {s : CharClass} (h : WritesOne part s)
    (hne : rest ≠ []) (hrest : Tame rest) : setRange flags (part ++ rest) = some (s, rest) := by
  have hdash : rest.head? ≠ some '-' := hrest.head_ne (by decide)
  cases h with
  | one c =>
    rw [setRange_item (setItem_quote ..) hne hdash]
    rfl
  | range hab =>
    rw [List.append_assoc, List.cons_append]
    exact setRange_dash (setItem_quote ..) (setItem_quote ..)
      (fun d hd => head_quote_ne (by fin_cases hd <;> decide)) hab
  | space =>
    rw [setRange_item (a := .cls CharClass.space) rfl hne hdash]
    rfl
  | notSpace =>
    rw [setRange_item (a := .cls CharClass.space.negate) rfl hne hdash]
    rfl

theorem WritesOne.head_ne {part : List Char} {s : CharClass} {d : Char} (h : WritesOne part s)
    (hd : isMeta d = true ∧ d ≠ '\\') : (part ++ rest).head? ≠ some d := by
  cases h with
  | one c => exact head_quote_ne hd
  | range _ =>
    rw [List.append_assoc]
    exact head_quote_ne hd
  | space => exact fun h => hd.2 (Option.some.inj h).symm
  | notSpace => exact fun h => hd.2 (Option.some.inj h).symm

theorem WritesOne.length_pos {part : List Char} {s : CharClass} (h : WritesOne part s) :
    0 < part.length := by
  cases h with
  | one c =>
    rw [quote]
    split <;> exact Nat.zero_lt_succ _
  | range _ =>
    rw [List.length_append, List.length_cons]
    omega
  | space => decide
  | notSpace => decide

theorem Writes.length_le (h : Writes text sets) : sets.length ≤ text.length := by
  induction h with
  | nil => exact Nat.le_refl 0
  | cons hpart _ ih =>
    have hpos := hpart.length_pos
    rw [List.length_cons, List.length_append]
    omega

theorem WritesOne.setBody_eq {part : List Char} {s : CharClass} (h : WritesOne part s)
    (hne : rest ≠ []) (hrest : Tame rest) :
    setBody flags negated (fuel + 1) o (part ++ rest) = setBody flags negated fuel (o.add s) rest :=
  setBody_member (h.setRange_eq hne hrest) (List.append_ne_nil_of_right_ne_nil _ hne)
    fun d hd => h.head_ne (by fin_cases hd <;> decide)

/-- Everything read of brackets as one class. -/
def closed (negated : Bool) (o : OpenSet) : CharClass :=
  let s := (o.close flags).fold.negateIf negated
  { s with depth := s.depth + 1 }

/-- The members that are written before the `]` are added to those before them. -/
theorem setBody_writes (h : Writes text sets) (hfuel : sets.length < fuel) (rest : List Char) :
    setBody flags negated fuel o (text ++ ']' :: rest)
      = some (closed negated { o with members := sets.reverse ++ o.members }, rest) := by
  induction h generalizing fuel o with
  | nil =>
    obtain ⟨fuel, rfl⟩ := Nat.exists_eq_add_of_lt hfuel
    rfl
  | @cons part text s sets hpart h ih =>
    obtain ⟨fuel, rfl⟩ : ∃ k, fuel = k + 1 := ⟨fuel - 1, by omega⟩
    have hne : text ++ ']' :: rest ≠ [] := by simp
    rw [List.append_assoc, hpart.setBody_eq hne (h.tame rest), ih (Nat.lt_of_succ_lt_succ hfuel)]
    simp [OpenSet.add]

/-- Whatever is read of them, the written members end where their `]` is. -/
theorem setBody_rest {s : CharClass} {rest behind : List Char} (h : Writes text sets)
    (hbody : setBody flags negated fuel o (text ++ ']' :: rest) = some (s, behind)) :
    behind = rest := by
  induction h generalizing fuel o with
  | nil =>
    cases fuel with
    | zero => cases hbody
    | succ fuel =>
      cases hbody
      rfl
  | @cons part text s sets hpart h ih =>
    cases fuel with
    | zero => cases hbody
    | succ fuel =>
      have hne : text ++ ']' :: rest ≠ [] := by simp
      rw [List.append_assoc, hpart.setBody_eq hne (h.tame rest)] at hbody
      exact ih hbody

/-! ## Reading brackets -/

theorem leadingDashes_eq (htext : text.head? ≠ some '-') (n : Nat) :
    leadingDashes flags [] n text = ([], text) := by
  cases n with
  | zero => rfl
  | succ n =>
    rw [leadingDashes]
    rintro rest rfl
    exact htext rfl

/-- Behind the `^`, brackets start with their first member; only a `]` there is one of them. -/
theorem openSet_caret (present : Bool) (hc : c ∉ ['^', '-']) (rest : List Char) :
    openSet flags (caret present ++ c :: rest)
      = if c = ']' then
          if rest.isEmpty then none else some (present, ⟨[.single ']'], none⟩, rest)
        else some (present, ⟨[], none⟩, c :: rest) := by
  simp only [List.mem_cons, List.not_mem_nil, or_false, not_or] at hc
  have hhead : (c :: rest).head? ≠ some '-' := fun h => hc.2 (Option.some.inj h)
  have hdash (n : Nat) := leadingDashes_eq hhead n
  cases present with
  | true =>
    simp only [openSet, caret, next_flags, if_true, List.singleton_append, hdash]
    by_cases hclose : c = ']'
    · subst hclose
      cases rest <;> rfl
    · simp [hclose]
  | false =>
    have hstart : caret false ++ c :: rest = c :: rest := rfl
    simp only [openSet, next_flags, hstart]
    by_cases hclose : c = ']'
    · subst hclose
      cases rest <;> rfl
    · simp [hclose, hdash, hc.1]

theorem WritesOne.openSet_eq {part : List Char} {s : CharClass} (h : WritesOne part s)
    (present : Bool) (rest : List Char) :
    openSet flags (caret present ++ (part ++ rest))
      = some (present, ⟨[], none⟩, part ++ rest) := by
  obtain ⟨c, tail, rfl⟩ := List.exists_cons_of_length_pos h.length_pos
  have hne (d : Char) (hd : isMeta d = true ∧ d ≠ '\\') : c ≠ d := by
    rintro rfl
    have hhead : (c :: tail ++ rest).head? ≠ some c := h.head_ne hd
    exact hhead rfl
  have hstart : c ∉ ['^', '-'] := by
    simp [hne '^' (by decide), hne '-' (by decide)]
  rw [List.cons_append, openSet_caret present hstart, if_neg (hne ']' (by decide))]

/-- Brackets around written members, of which there are some, hold these members. -/
theorem bracketed_writes (present : Bool) (h : Writes text sets) (hne : sets ≠ [])
    (rest : List Char) :
    bracketed flags (caret present ++ (text ++ ']' :: rest))
      = some (closed present ⟨sets.reverse, none⟩, rest) := by
  have hfuel : sets.length < (text ++ ']' :: rest).length + 1 := by
    have hlength := h.length_le
    rw [List.length_append]
    omega
  have hbody : setBody flags present ((text ++ ']' :: rest).length + 1) ⟨[], none⟩
      (text ++ ']' :: rest) = some (closed present ⟨sets.reverse ++ [], none⟩, rest) :=
    setBody_writes h hfuel rest
  rw [List.append_nil] at hbody
  cases h with
  | nil => exact absurd rfl hne
  | @cons part text s sets hpart h =>
    have hopen := hpart.openSet_eq present (text ++ ']' :: rest)
    rw [bracketed, List.append_assoc, hopen, ← List.append_assoc]
    exact hbody

/-! ## Brackets in brackets -/

theorem classChars_quote {chars : List (Char × Bool)} (c : Char) (h : ClassChars text chars) :
    ∃ chars, ClassChars (quote c ++ text) chars := by
  rw [quote]
  split
  case isTrue _ => exact ⟨_, .escaped h⟩
  case isFalse hmeta =>
    refine ⟨_, .bare (fun hc => hmeta ?_) h⟩
    fin_cases hc <;> rfl

/-- No `]` in the written members is without a backslash. -/
theorem Writes.classChars (h : Writes text sets) : ∃ chars, ClassChars text chars := by
  induction h with
  | nil => exact ⟨_, .nil⟩
  | cons hpart _ ih =>
    obtain ⟨chars, ih⟩ := ih
    cases hpart with
    | one c => exact classChars_quote c ih
    | range _ =>
      obtain ⟨_, hlast⟩ := classChars_quote _ ih
      rw [List.append_assoc, List.cons_append]
      exact classChars_quote _ (.bare (by decide) hlast)
    | space => exact ⟨_, .escaped ih⟩
    | notSpace => exact ⟨_, .escaped ih⟩

/-- The first `]` behind text that holds no backslash is the one that ends the class. -/
theorem ClassChars.cut {written name behind : List Char} {chars : List (Char × Bool)}
    (h : ClassChars written chars) (hname : ∀ d ∈ name, d ∉ ['\\', ']'])
    (heq : written ++ ']' :: rest = name ++ ']' :: behind) : behind = rest := by
  induction h generalizing name with
  | nil =>
    cases name with
    | nil => exact (List.cons.inj heq).2.symm
    | cons d name =>
      obtain ⟨rfl, -⟩ := List.cons.inj heq
      exact absurd (by decide) (hname _ List.mem_cons_self)
  | escaped _ _ =>
    cases name with
    | nil => cases (List.cons.inj heq).1
    | cons d name =>
      obtain ⟨rfl, -⟩ := List.cons.inj heq
      exact absurd (by decide) (hname _ List.mem_cons_self)
  | @bare c written chars hc _ ih =>
    cases name with
    | nil =>
      obtain ⟨rfl, -⟩ := List.cons.inj heq
      exact absurd (by decide) hc
    | cons d name =>
      exact ih (fun e he => hname e (List.mem_cons_of_mem _ he)) (List.cons.inj heq).2

theorem posix_letters {name : String} {s : CharClass} (h : CharClass.posix? name = some s) :
    ∀ d ∈ name.toList, d ∉ ['\\', ']'] := by
  suffices hall : name.toList.all (· ∉ ['\\', ']']) = true by
    simpa using List.all_eq_true.mp hall
  unfold CharClass.posix? at h
  split at h
  all_goals first | (cases h; done) | decide

theorem posixName_cut {behind : List Char} {read : CharClass → Option CharClass} {s : CharClass}
    (h : (match text.dropWhile (· != ':') with
      | ':' :: ']' :: rest => do
        return (← read (← CharClass.posix? (String.ofList (text.takeWhile (· != ':')))), rest)
      | _ => none) = some (s, behind)) :
    ∃ name, text = name ++ ']' :: behind ∧ ∀ d ∈ name, d ∉ ['\\', ']'] := by
  split at h
  case h_2 => cases h
  case h_1 rest hdrop =>
    obtain ⟨named, hnamed, h⟩ := Option.bind_eq_some_iff.mp h
    obtain ⟨finished, -, h⟩ := Option.bind_eq_some_iff.mp h
    cases h
    refine ⟨text.takeWhile (· != ':') ++ [':'], ?_, fun d hd => ?_⟩
    · rw [List.append_assoc, List.singleton_append, ← hdrop, List.takeWhile_append_dropWhile]
    · rcases List.mem_append.mp hd with hd | hd
      · exact posix_letters hnamed d (by simpa using hd)
      · rw [List.mem_singleton.mp hd]
        decide

/-- A named class ends at the first `]`. -/
theorem posixClass_cut {f : Flags} {s : CharClass} {behind : List Char}
    (h : posixClass f text = some (s, behind)) :
    ∃ name, text = name ++ ']' :: behind ∧ ∀ d ∈ name, d ∉ ['\\', ']'] := by
  unfold posixClass at h
  split at h
  case h_2 => cases h
  case h_1 rest =>
    split at h
    case h_1 negated tail hstart =>
      obtain ⟨name, rfl, hname⟩ := posixName_cut h
      split at hstart
      case h_1 =>
        cases hstart
        refine ⟨':' :: '^' :: name, rfl, ?_⟩
        simpa using hname
      case h_2 =>
        cases hstart
        refine ⟨':' :: name, rfl, ?_⟩
        simpa using hname

theorem classChars_caret {chars : List (Char × Bool)} (present : Bool)
    (h : ClassChars text chars) : ∃ chars, ClassChars (caret present ++ text) chars := by
  cases present with
  | true => exact ⟨_, .bare (by decide) h⟩
  | false => exact ⟨_, h⟩

/-- If the text behind some brackets cannot end a class around them, it cannot end them either. -/
theorem setBody_nested (present : Bool) (h : Writes text sets)
    (hrest : ∀ negated o, setBody flags negated fuel o rest = none) :
    setBody flags negated (fuel + 1) o ('[' :: (caret present ++ (text ++ ']' :: rest)))
      = none := by
  rw [setBody, next_flags]
  change (if isPosixClass (caret present ++ (text ++ ']' :: rest)) = true then _ else _) = _
  split
  case isTrue _ =>
    obtain ⟨chars, hchars⟩ := h.classChars
    obtain ⟨chars, hchars⟩ := classChars_caret present hchars
    rw [Option.bind_eq_bind, Option.bind_eq_none_iff]
    rintro ⟨s, behind⟩ hposix
    obtain ⟨name, hname, hletters⟩ := posixClass_cut hposix
    rw [← List.append_assoc] at hname
    exact hchars.cut hletters hname ▸ hrest _ _
  case isFalse _ =>
    cases h with
    | nil =>
      rw [List.nil_append, openSet_caret present (by decide), if_pos rfl]
      split
      · rfl
      · simp only [Option.bind_eq_bind, Option.bind_some, hrest, Option.bind_none]
    | @cons part text s sets hpart h =>
      have hopen := hpart.openSet_eq present (text ++ ']' :: rest)
      rw [List.append_assoc, hopen, Option.bind_eq_bind, Option.bind_some, Option.bind_eq_bind,
        Option.bind_eq_none_iff]
      rintro ⟨inner, behind⟩ hbody
      rw [← List.append_assoc] at hbody
      exact setBody_rest (.cons hpart h) hbody ▸ hrest _ _

end Retag.Glob

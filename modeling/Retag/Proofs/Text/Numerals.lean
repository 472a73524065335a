import Mathlib.Data.Char
import Mathlib.Tactic.Ring
import Retag.Proofs.Text.Cutting
import Retag.Text.Integer

/-!
# Numerals

An integer is written as decimal digits after an optional sign, and a digit counts as much as its
place says. A text is read as an integer exactly if it is a numeral of one in sixty-four bits with
white space around it. What an integer is printed as is such a numeral, so it is read back.
-/

namespace Retag.Text

/-- Within sixty-four bits. -/
def Fits (n : Int) : Prop := -2 ^ 63 ≤ n ∧ n < 2 ^ 63

instance : DecidablePred Fits := fun n => inferInstanceAs (Decidable (-2 ^ 63 ≤ n ∧ n < 2 ^ 63))

theorem isInteger_iff {n : Int} : isInteger n = true ↔ Fits n := by
  simp only [isInteger, Bool.and_eq_true, decide_eq_true_eq, Fits]
  simp only [minInteger, maxInteger]
  omega

theorem checkInteger_eq (n : Int) : checkInteger n = if Fits n then some n else none := by
  simp only [checkInteger, isInteger_iff]

/-! ## What is written -/

/-- One digit at least, and nothing else. -/
def IsDigits (digits : List Char) : Prop := digits ≠ [] ∧ ∀ c ∈ digits, '0' ≤ c ∧ c ≤ '9'

/-- What digits count together, each by its place. -/
def placeValue : List Char → Nat
  | [] => 0
  | c :: rest => (c.toNat - '0'.toNat) * 10 ^ rest.length + placeValue rest

/-- A numeral and the integer that it stands for. -/
inductive Numeral : List Char → Int → Prop
  | plain {digits : List Char} : IsDigits digits → Numeral digits (placeValue digits)
  | plus {digits : List Char} : IsDigits digits → Numeral ('+' :: digits) (placeValue digits)
  | minus {digits : List Char} : IsDigits digits → Numeral ('-' :: digits) (-placeValue digits)

/-- A text is a numeral of `n` with white space around it. -/
def Writes (text : String) (n : Int) : Prop :=
  ∃ before numeral after, text.toList = before ++ (numeral ++ after) ∧
    (∀ c ∈ before, Unicode.isBlank c) ∧ (∀ c ∈ after, Unicode.isBlank c) ∧ Numeral numeral n

/-! ## Digits -/

theorem isDigit_iff {c : Char} : c.isDigit = true ↔ '0' ≤ c ∧ c ≤ '9' := by
  simp only [Char.isDigit, Bool.and_eq_true, decide_eq_true_eq]
  exact Iff.rfl

theorem toNat_of_digit {c : Char} (h : '0' ≤ c ∧ c ≤ '9') : 48 ≤ c.toNat ∧ c.toNat ≤ 57 := h

/-- Reading digits from the left adds up what they count by their places. -/
theorem ofDigitChars_eq (digits : List Char) (n : Nat) :
    Nat.ofDigitChars 10 digits n = n * 10 ^ digits.length + placeValue digits := by
  induction digits generalizing n with
  | nil => simp [placeValue, Nat.ofDigitChars]
  | cons c rest ih =>
    have hstep : Nat.ofDigitChars 10 (c :: rest) n
        = Nat.ofDigitChars 10 rest (10 * n + (c.toNat - '0'.toNat)) := rfl
    rw [hstep, ih, placeValue, List.length_cons, Nat.pow_succ]
    ring

theorem readDigits?_eq_some_iff {digits : List Char} {n : Nat} :
    readDigits? digits = some n ↔ IsDigits digits ∧ placeValue digits = n := by
  have hvalue : digits.foldl (fun n c => 10 * n + (c.toNat - 48)) 0 = placeValue digits := by
    have h := ofDigitChars_eq digits 0
    rwa [Nat.zero_mul, Nat.zero_add] at h
  have hrefused : (digits.isEmpty || digits.any (!·.isDigit)) = true ↔ ¬ IsDigits digits := by
    rw [IsDigits, not_and_or, not_not, Bool.or_eq_true, List.isEmpty_iff]
    simp only [List.any_eq_true, Bool.not_eq_true', ← Bool.not_eq_true, isDigit_iff, not_forall,
      exists_prop]
  rw [readDigits?, hvalue]
  split
  · next h => simp [hrefused.mp h]
  · next h => simp [not_not.mp (mt hrefused.mpr h)]

/-- Zeros in front count nothing. -/
theorem placeValue_replicate_append (k : Nat) (digits : List Char) :
    placeValue (List.replicate k '0' ++ digits) = placeValue digits := by
  induction k with
  | zero => rfl
  | succ k ih =>
    rw [List.replicate_succ, List.cons_append, placeValue, ih, Nat.sub_self, Nat.zero_mul,
      Nat.zero_add]

theorem IsDigits.replicate_append {digits : List Char} (h : IsDigits digits) (k : Nat) :
    IsDigits (List.replicate k '0' ++ digits) := by
  refine ⟨List.append_ne_nil_of_right_ne_nil _ h.1, fun c hc => ?_⟩
  rcases List.mem_append.mp hc with hc | hc
  · rw [List.eq_of_mem_replicate hc]
    decide
  · exact h.2 c hc

theorem placeValue_lt {digits : List Char} (h : ∀ c ∈ digits, '0' ≤ c ∧ c ≤ '9') :
    placeValue digits < 10 ^ digits.length := by
  induction digits with
  | nil => exact Nat.one_pos
  | cons c rest ih =>
    obtain ⟨hc, hrest⟩ := List.forall_mem_cons.mp h
    have hdigit : c.toNat - '0'.toNat + 1 ≤ 10 := by
      have hbounds := toNat_of_digit hc
      have hzero : '0'.toNat = 48 := rfl
      omega
    calc placeValue (c :: rest)
        < (c.toNat - '0'.toNat) * 10 ^ rest.length + 10 ^ rest.length :=
          Nat.add_lt_add_left (ih hrest) _
      _ = (c.toNat - '0'.toNat + 1) * 10 ^ rest.length := by ring
      _ ≤ 10 * 10 ^ rest.length := Nat.mul_le_mul_right _ hdigit
      _ = 10 ^ (c :: rest).length := by rw [List.length_cons, Nat.pow_succ, Nat.mul_comm]

/-- A greater digit counts more than all that is behind it. -/
theorem placeValue_cons_lt {c d : Char} {rest rest' : List Char}
    (hrest : ∀ c ∈ rest, '0' ≤ c ∧ c ≤ '9') (hlength : rest.length = rest'.length)
    (hc : '0' ≤ c) (hlt : c < d) : placeValue (c :: rest) < placeValue (d :: rest') := by
  have hdigit : c.toNat - '0'.toNat + 1 ≤ d.toNat - '0'.toNat := by
    have hfirst : '0'.toNat ≤ c.toNat := hc
    have hnext : c.toNat < d.toNat := hlt
    omega
  calc placeValue (c :: rest)
      < (c.toNat - '0'.toNat) * 10 ^ rest.length + 10 ^ rest.length :=
        Nat.add_lt_add_left (placeValue_lt hrest) _
    _ = (c.toNat - '0'.toNat + 1) * 10 ^ rest'.length := by rw [hlength]; ring
    _ ≤ (d.toNat - '0'.toNat) * 10 ^ rest'.length := Nat.mul_le_mul_right _ hdigit
    _ ≤ placeValue (d :: rest') := Nat.le_add_right _ _

/-- As many digits are in the order of the first that differs exactly as what they count is. -/
theorem lt_iff_placeValue_lt {digits digits' : List Char}
    (hdigits : ∀ c ∈ digits, '0' ≤ c ∧ c ≤ '9') (hdigits' : ∀ c ∈ digits', '0' ≤ c ∧ c ≤ '9')
    (hlength : digits.length = digits'.length) :
    digits < digits' ↔ placeValue digits < placeValue digits' := by
  induction digits generalizing digits' with
  | nil =>
    obtain rfl := List.eq_nil_of_length_eq_zero hlength.symm
    exact iff_of_false (List.lt_irrefl _) (Nat.lt_irrefl _)
  | cons c rest ih =>
    obtain ⟨d, rest', rfl⟩ := List.exists_cons_of_length_eq_add_one hlength.symm
    obtain ⟨hc, hrest⟩ := List.forall_mem_cons.mp hdigits
    obtain ⟨hd, hrest'⟩ := List.forall_mem_cons.mp hdigits'
    have hlength' : rest.length = rest'.length := Nat.succ.inj hlength
    rw [List.cons_lt_cons_iff]
    rcases lt_trichotomy c d with hlt | rfl | hgt
    · exact iff_of_true (.inl hlt) (placeValue_cons_lt hrest hlength' hc.1 hlt)
    · rw [ih hrest hrest' hlength', placeValue, placeValue, hlength', Nat.add_lt_add_iff_left]
      simp
    · have hvalue := placeValue_cons_lt hrest' hlength'.symm hd.1 hgt
      refine iff_of_false ?_ (Nat.lt_asymm hvalue)
      rintro (hlt | ⟨rfl, -⟩)
      · exact lt_asymm hlt hgt
      · exact lt_irrefl _ hgt

/-! ## Numerals -/

/-- The integer of a numeral. -/
def readNumeral? : List Char → Option Int
  | '-' :: digits => (readDigits? digits).map fun n : Nat => -(n : Int)
  | '+' :: digits => (readDigits? digits).map Int.ofNat
  | digits => (readDigits? digits).map Int.ofNat

theorem readInteger?_eq (text : String) :
    readInteger? text = (readNumeral? (Unicode.trim text).toList).bind checkInteger := by
  have hminus (digits : List Char) :
      (do return (← readDigits? digits : Int)).map (-·)
        = (readDigits? digits).map fun n : Nat => -(n : Int) := by
    cases readDigits? digits <;> rfl
  simp only [readInteger?, hminus]
  generalize (Unicode.trim text).toList = trimmed
  rfl

theorem IsDigits.readDigits? {digits : List Char} (h : IsDigits digits) :
    readDigits? digits = some (placeValue digits) := readDigits?_eq_some_iff.mpr ⟨h, rfl⟩

theorem readNumeral?_eq_some_iff {numeral : List Char} {n : Int} :
    readNumeral? numeral = some n ↔ Numeral numeral n := by
  constructor
  · intro h
    unfold readNumeral? at h
    split at h
    all_goals
      obtain ⟨k, hk, rfl⟩ := Option.map_eq_some_iff.mp h
      obtain ⟨hdigits, rfl⟩ := readDigits?_eq_some_iff.mp hk
    · exact .minus hdigits
    · exact .plus hdigits
    · exact .plain hdigits
  · intro h
    cases h with
    | minus hdigits => rw [readNumeral?, hdigits.readDigits?, Option.map_some]
    | plus hdigits => rw [readNumeral?, hdigits.readDigits?, Option.map_some]; rfl
    | plain hdigits =>
      -- A sign is no digit.
      have hsign (c : Char) (hc : c ∈ numeral) : c ≠ '-' ∧ c ≠ '+' := by
        have hdigit := hdigits.2 c hc
        exact ⟨fun h => absurd (h ▸ hdigit) (by decide), fun h => absurd (h ▸ hdigit) (by decide)⟩
      unfold readNumeral?
      split
      · exact absurd rfl (hsign '-' List.mem_cons_self).1
      · exact absurd rfl (hsign '+' List.mem_cons_self).2
      · rw [hdigits.readDigits?, Option.map_some]
        rfl

/-- No character of a numeral is white space. -/
theorem Numeral.not_isBlank {numeral : List Char} {n : Int} (h : Numeral numeral n) {c : Char}
    (hc : c ∈ numeral) : ¬ Unicode.isBlank c := by
  have hchar : '0' ≤ c ∧ c ≤ '9' ∨ c = '+' ∨ c = '-' := by
    cases h with
    | plain hdigits => exact .inl (hdigits.2 c hc)
    | plus hdigits => exact (List.mem_cons.mp hc).elim (.inr ∘ .inl) (.inl ∘ hdigits.2 c)
    | minus hdigits => exact (List.mem_cons.mp hc).elim (.inr ∘ .inr) (.inl ∘ hdigits.2 c)
  have hbounds : 43 ≤ c.toNat ∧ c.toNat ≤ 57 := by
    rcases hchar with hdigit | rfl | rfl
    · have := toNat_of_digit hdigit
      omega
    · decide
    · decide
  simp only [Unicode.isBlank, Bool.or_eq_true, Bool.and_eq_true, decide_eq_true_eq, beq_iff_eq]
  omega

/-! ## Reading -/

/-- What is read is what is left between the white space at the ends. -/
theorem trim_eq_iff {text : String} {n : Int} :
    Numeral (Unicode.trim text).toList n ↔ Writes text n := by
  rw [Unicode.trim, String.toList_ofList]
  constructor
  · intro h
    refine ⟨text.toList.takeWhile Unicode.isBlank, _,
      (text.toList.dropWhile Unicode.isBlank).rtakeWhile Unicode.isBlank, ?_, ?_, ?_, h⟩
    · have hcut : Unicode.stripWhile Unicode.isBlank text.toList
          = (text.toList.dropWhile Unicode.isBlank).rdropWhile Unicode.isBlank := rfl
      rw [hcut, List.rdropWhile_append_rtakeWhile, List.takeWhile_append_dropWhile]
    · exact fun c hc => List.mem_takeWhile_imp hc
    · exact fun c hc => List.mem_rtakeWhile_imp hc
  · rintro ⟨before, numeral, after, htext, hbefore, hafter, h⟩
    rw [htext, Unicode.stripWhile_around hbefore hafter]
    · exact h
    · exact fun c hc => h.not_isBlank (List.mem_of_mem_head? hc)
    · exact fun c hc => h.not_isBlank (List.mem_of_mem_getLast? hc)

theorem readInteger?_eq_some_iff {text : String} {n : Int} :
    readInteger? text = some n ↔ Writes text n ∧ Fits n := by
  rw [readInteger?_eq, Option.bind_eq_some_iff, ← trim_eq_iff]
  simp only [checkInteger_eq, readNumeral?_eq_some_iff]
  constructor
  · rintro ⟨k, hk, hfits⟩
    split at hfits
    · next h => exact Option.some.inj hfits ▸ ⟨hk, h⟩
    · cases hfits
  · rintro ⟨hn, hfits⟩
    exact ⟨n, hn, if_pos hfits⟩

/-- What a text counts as where no error is made of it: the integer of sixty-four bits that it is
written for, and zero if there is none. -/
inductive CountsAs (text : String) : Int → Prop
  | integer {n : Int} : Writes text n → Fits n → CountsAs text n
  | other : (¬ ∃ n, Writes text n ∧ Fits n) → CountsAs text 0

theorem readInteger?_eq_none_iff {text : String} :
    readInteger? text = none ↔ ¬ ∃ n, Writes text n ∧ Fits n := by
  simp only [Option.eq_none_iff_forall_ne_some, ne_eq, readInteger?_eq_some_iff, not_exists]

theorem countsAs_iff {text : String} {n : Int} :
    CountsAs text n ↔ (readInteger? text).getD 0 = n := by
  constructor
  · rintro (⟨hwrites, hfits⟩ | hnone)
    · rw [readInteger?_eq_some_iff.mpr ⟨hwrites, hfits⟩, Option.getD_some]
    · rw [readInteger?_eq_none_iff.mpr hnone, Option.getD_none]
  · rintro rfl
    rcases h : readInteger? text with - | n
    · exact .other (readInteger?_eq_none_iff.mp h)
    · obtain ⟨hwrites, hfits⟩ := readInteger?_eq_some_iff.mp h
      exact .integer hwrites hfits

/-! ## Printing -/

theorem isDigits_toDigits (n : Nat) : IsDigits (Nat.toDigits 10 n) :=
  ⟨Nat.toDigits_ne_nil, fun _ hc =>
    isDigit_iff.mp (Nat.isDigit_of_mem_toDigits (by decide) (by decide) hc)⟩

theorem placeValue_toDigits (n : Nat) : placeValue (Nat.toDigits 10 n) = n := by
  have h := ofDigitChars_eq (Nat.toDigits 10 n) 0
  rw [Nat.ofDigitChars_ten_toDigits] at h
  omega

/-- Zeros may stand between the sign of an integer and its digits. -/
theorem numeral_zeros (k : Nat) (n : Int) :
    Numeral ((if n < 0 then ['-'] else []) ++ List.replicate k '0' ++ Nat.toDigits 10 n.natAbs)
      n := by
  have hdigits := (isDigits_toDigits n.natAbs).replicate_append k
  have hvalue : placeValue (List.replicate k '0' ++ Nat.toDigits 10 n.natAbs) = n.natAbs := by
    rw [placeValue_replicate_append, placeValue_toDigits]
  rw [List.append_assoc]
  split
  · next hneg =>
    have hminus := Numeral.minus hdigits
    rwa [hvalue, Int.ofNat_natAbs_of_nonpos (Int.le_of_lt hneg), Int.neg_neg] at hminus
  · next hpos =>
    have hplain := Numeral.plain hdigits
    rwa [hvalue, Int.natAbs_of_nonneg (Int.not_lt.mp hpos)] at hplain

theorem toList_toString (n : Int) :
    (toString n).toList = (if n < 0 then ['-'] else []) ++ Nat.toDigits 10 n.natAbs := by
  rw [Int.toString_eq_repr, Int.repr_eq_if]
  split
  · next hpos =>
    have habs : n.toNat = n.natAbs := by omega
    rw [if_neg (Int.not_lt.mpr hpos), Nat.repr_eq_ofList_toDigits, String.toList_ofList, habs,
      List.nil_append]
  · next hneg =>
    have habs : (-n).toNat = n.natAbs := by omega
    have hsign : "-".toList = ['-'] := rfl
    rw [if_pos (Int.not_le.mp hneg), Nat.repr_eq_ofList_toDigits, String.toList_append, hsign,
      String.toList_ofList, habs]

theorem numeral_toString (n : Int) : Numeral (toString n).toList n := by
  rw [toList_toString, ← List.append_nil (if n < 0 then ['-'] else [])]
  exact numeral_zeros 0 n

/-- A numeral needs no white space around it. -/
theorem Numeral.writes {text : String} {n : Int} (h : Numeral text.toList n) : Writes text n :=
  ⟨[], text.toList, [], by simp, nofun, nofun, h⟩

theorem writes_toString (n : Int) : Writes (toString n) n := (numeral_toString n).writes

theorem readInteger?_toString {n : Int} (h : Fits n) : readInteger? (toString n) = some n :=
  readInteger?_eq_some_iff.mpr ⟨writes_toString n, h⟩

theorem readInteger?_toString_nat {n : Nat} (h : n < 2 ^ 63) :
    readInteger? (toString n) = some (n : Int) :=
  readInteger?_toString (n := n) ⟨by omega, by omega⟩

theorem toString_nat_inj {m n : Nat} : toString m = toString n ↔ m = n := by
  constructor
  · intro h
    have hvalue := congrArg (fun text : String => placeValue text.toList) h
    simpa only [Nat.toString_eq_repr, Nat.repr_eq_ofList_toDigits, String.toList_ofList,
      placeValue_toDigits] using hvalue
  · exact congrArg toString

end Retag.Text

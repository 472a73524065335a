import Mathlib.Tactic.IntervalCases
import Retag.Library.Dates
import Retag.Proofs.Text.Numerals

/-!
# Dates and how they are written

Which numbers are those of a date: the months have their lengths, one of them longer in a leap year,
and the year is one that is counted. In the default format a date has four digits at least for the
year, with a sign where more are needed, and two each for month and day; so the digits can be read
back from between the signs.
-/

namespace Retag.Calendar

open Retag.Text

/-! ## The calendar -/

/-- The lengths of the months of a year. -/
def monthLengths (year : Int) : List Nat :=
  [31, if 4 ∣ year ∧ (100 ∣ year → 400 ∣ year) then 29 else 28, 31, 30, 31, 30, 31, 31, 30, 31, 30, 31]

/-- A day of the Gregorian calendar, extended backwards, in a year that is counted. -/
structure IsDate (year : Int) (month day : Nat) : Prop where
  counted : -262143 ≤ year ∧ year ≤ 262142
  month_pos : 1 ≤ month
  inside : ∃ length, (monthLengths year)[month - 1]? = some length ∧ 1 ≤ day ∧ day ≤ length

variable {year : Int} {month day : Nat} {d : Date}

theorem isLeap_iff : isLeap year = true ↔ 4 ∣ year ∧ (100 ∣ year → 400 ∣ year) := by
  simp only [isLeap, Bool.and_eq_true, Bool.or_eq_true, beq_iff_eq, bne_iff_ne]
  omega

theorem getElem?_monthLengths (hfirst : 1 ≤ month) (hlast : month ≤ 12) :
    (monthLengths year)[month - 1]? = some (daysInMonth year month) := by
  interval_cases month <;> simp [monthLengths, daysInMonth, isLeap_iff]

theorem IsDate.month_le (h : IsDate year month day) : month ≤ 12 := by
  obtain ⟨length, hlength, -⟩ := h.inside
  have hplace : month - 1 < (monthLengths year).length := (List.getElem?_eq_some_iff.mp hlength).1
  have htwelve : (monthLengths year).length = 12 := rfl
  have hmonth := h.month_pos
  omega

theorem daysInMonth_le (year : Int) (month : Nat) : daysInMonth year month ≤ 31 := by
  unfold daysInMonth
  split
  · split <;> decide
  all_goals decide

theorem isDate_iff : IsDate year month day ↔
    (minYear ≤ year ∧ year ≤ maxYear) ∧ (1 ≤ month ∧ month ≤ 12) ∧
      1 ≤ day ∧ day ≤ daysInMonth year month := by
  constructor
  · intro h
    obtain ⟨length, hlength, hday, hle⟩ := h.inside
    rw [getElem?_monthLengths h.month_pos h.month_le, Option.some.injEq] at hlength
    exact ⟨h.counted, ⟨h.month_pos, h.month_le⟩, hday, hlength ▸ hle⟩
  · rintro ⟨hyear, ⟨hfirst, hlast⟩, hday, hle⟩
    exact ⟨hyear, hfirst, _, getElem?_monthLengths hfirst hlast, hday, hle⟩

/-- Numbers make a date exactly if there is one. -/
theorem Date.ofNumbers?_eq_some_iff :
    Date.ofNumbers? year month day = some d ↔ IsDate year month day ∧ d = ⟨year, month, day⟩ := by
  rw [isDate_iff, Date.ofNumbers?, Option.ite_none_right_eq_some, Option.some.injEq, @eq_comm _ d]
  simp only [Bool.and_eq_true, decide_eq_true_eq, and_assoc]

/-! ## The default format -/

/-- Digits, and the number that they stand for. -/
def Counts (digits : List Char) (n : Nat) : Prop := IsDigits digits ∧ placeValue digits = n

instance (digits : List Char) (n : Nat) : Decidable (Counts digits n) :=
  decidable_of_iff _ readDigits?_eq_some_iff

/-- A date in the default format. -/
inductive IsWritten (d : Date) : List Char → Prop
  | mk {year month day : List Char} {number : Nat} :
      (number : Int) = d.year → Counts year number → 4 ≤ year.length →
      Counts month d.month → month.length = 2 → Counts day d.day → day.length = 2 →
      IsWritten d ((if 10000 ≤ d.year then ['+'] else [])
        ++ (year ++ '-' :: (month ++ '-' :: day)))

theorem IsWritten.ne_empty {text : String} (h : IsWritten d text.toList) : text ≠ "" := by
  rintro rfl
  generalize hchars : "".toList = chars at h
  obtain ⟨-, ⟨⟨hyear, -⟩, -⟩, -⟩ := h
  simp [hyear] at hchars

theorem digit_spec : ∀ n < 10, ('0' ≤ Item.digit n ∧ Item.digit n ≤ '9') ∧
    (Item.digit n).toNat - '0'.toNat = n := by
  decide

/-- A number with two digits. -/
theorem two_written {n : Nat} (h : n < 100) :
    ∃ digits, Item.two n .zero = String.ofList digits ∧ Counts digits n ∧ digits.length = 2 := by
  obtain ⟨htens, htensValue⟩ := digit_spec (n / 10) (by omega)
  obtain ⟨hones, honesValue⟩ := digit_spec (n % 10) (by omega)
  refine ⟨[Item.digit (n / 10), Item.digit (n % 10)], ?_, ⟨⟨List.cons_ne_nil _ _, ?_⟩, ?_⟩, rfl⟩
  · unfold Item.two
    cases n / 10 <;> rfl
  · simp [htens, hones]
  · simp only [placeValue, htensValue, honesValue, List.length_cons, List.length_nil]
    omega

/-- The year of a date that is not before the year 0. -/
theorem year_written (n : Nat) :
    ∃ digits, (Item.yearText n .zero).toList = (if 10000 ≤ n then ['+'] else []) ++ digits ∧
      Counts digits n ∧ 4 ≤ digits.length := by
  let digits := Nat.toDigits 10 n
  have hdigits : IsDigits digits := isDigits_toDigits n
  refine ⟨List.replicate (4 - digits.length) '0' ++ digits, ?_,
    ⟨hdigits.replicate_append _, ?_⟩, ?_⟩
  · have hsign : ¬ (n : Int) < 0 := by omega
    by_cases hn : 10000 ≤ n
    · have hlong : (10000 : Int) ≤ n := by omega
      simp [Item.yearText, Item.wide, hsign, hn, hlong, digits]
    · have hshort : ¬ (10000 : Int) ≤ n := by omega
      simp [Item.yearText, Item.wide, hsign, hn, hshort, digits]
  · rw [placeValue_replicate_append, placeValue_toDigits]
  · rw [List.length_append, List.length_replicate]
    omega

/-- Every date of a year that is not negative has a default form. -/
theorem exists_written (hyear : 0 ≤ d.year) (hmonth : d.month < 100) (hday : d.day < 100) :
    ∃ text, d.format? Library.Dates.defaultDateFormat = some text ∧ IsWritten d text.toList := by
  obtain ⟨n, hn⟩ := Int.eq_ofNat_of_zero_le hyear
  obtain ⟨yearDigits, hyearText, hyearCounts, hfour⟩ := year_written n
  obtain ⟨monthDigits, hmonthText, hmonthCounts, hmonthTwo⟩ := two_written hmonth
  obtain ⟨dayDigits, hdayText, hdayCounts, hdayTwo⟩ := two_written hday
  have hformat : d.format? Library.Dates.defaultDateFormat = some (String.join
      [Item.yearText d.year .zero, "-", Item.two d.month .zero, "-", Item.two d.day .zero]) := rfl
  refine ⟨_, hformat, ?_⟩
  have hlong : (10000 ≤ d.year) = (10000 ≤ n) := by rw [hn]; norm_cast
  have htext : (String.join [Item.yearText d.year .zero, "-", Item.two d.month .zero, "-",
      Item.two d.day .zero]).toList = (if 10000 ≤ d.year then ['+'] else [])
        ++ (yearDigits ++ '-' :: (monthDigits ++ '-' :: dayDigits)) := by
    simp [String.join, hmonthText, hdayText, hn, hyearText]
  rw [htext]
  exact .mk hn.symm hyearCounts hfour hmonthCounts hmonthTwo hdayCounts hdayTwo

end Retag.Calendar

namespace Retag.Library.Dates

open Calendar Retag.Text

/-! ## Parts -/

theorem parts_ymd (date : String) :
    let runs := (fields (!·.isDigit) date.toList).map String.ofList
    parts date "" = ⟨runs.getD 0 "", runs.getD 1 "", runs.getD 2 ""⟩ := rfl

/-- The digits of a date that is written in the default form are its parts. -/
theorem fields_written {year month day : List Char} (hyear : IsDigits year)
    (hmonth : IsDigits month) (hday : IsDigits day) (signed : Prop) [Decidable signed] :
    fields (!·.isDigit) ((if signed then ['+'] else [])
        ++ (year ++ '-' :: (month ++ '-' :: day))) = [year, month, day] := by
  have hrun {digits : List Char} (h : IsDigits digits) : ∀ c ∈ digits, (!c.isDigit) = false :=
    fun c hc => by rw [isDigit_iff.mpr (h.2 c hc), Bool.not_true]
  have hfields : fields (!·.isDigit) (year ++ '-' :: (month ++ '-' :: day))
      = [year, month, day] := by
    rw [fields_append_cons hyear.1 (hrun hyear) (by decide),
      fields_append_cons hmonth.1 (hrun hmonth) (by decide), fields_of_forall hday.1 (hrun hday)]
  split
  · rw [List.singleton_append, fields_cons (by decide), hfields]
  · rw [List.nil_append, hfields]

theorem parts_written {d : Date} {text : String} (h : IsWritten d text.toList) :
    ∃ (year month day : List Char) (number : Nat),
      parts text "" = ⟨String.ofList year, String.ofList month, String.ofList day⟩ ∧
      (number : Int) = d.year ∧ Counts year number ∧ Counts month d.month ∧ Counts day d.day := by
  generalize hchars : text.toList = chars at h
  obtain @⟨year, month, day, number, hnumber, hyear, -, hmonth, -, hday, -⟩ := h
  refine ⟨year, month, day, number, ?_, hnumber, hyear, hmonth, hday⟩
  rw [parts_ymd, hchars, fields_written hyear.1 hmonth.1 hday.1]
  rfl

/-- What is read back is the date that was written. -/
theorem date?_written {d : Date} {text : String} (h : IsWritten d text.toList)
    (hd : IsDate d.year d.month d.day) : (parts text "").date? = some d := by
  obtain ⟨year, month, day, number, hparts, hnumber, ⟨hyear, rfl⟩, ⟨hmonth, hmonthValue⟩,
    ⟨hday, hdayValue⟩⟩ := parts_written h
  rw [hparts, Parts.date?]
  simp only [String.toList_ofList, hyear.readDigits?, hmonth.readDigits?, hday.readDigits?,
    hmonthValue, hdayValue]
  exact Date.ofNumbers?_eq_some_iff.mpr ⟨hnumber ▸ hd, by rw [hnumber]⟩

/-- No part holds anything but digits. -/
theorem isDigit_of_mem_parts (date order : String) :
    ∀ part ∈ [(parts date order).year, (parts date order).month, (parts date order).day],
      ∀ c ∈ part.toList, '0' ≤ c ∧ c ≤ '9' := by
  let runs := (fields (!·.isDigit) date.toList).map String.ofList
  have hrun (i : Nat) : ∀ c ∈ (runs.getD i "").toList, '0' ≤ c ∧ c ≤ '9' := by
    intro c hc
    rw [List.getD_eq_getElem?_getD] at hc
    rcases hpart : runs[i]? with - | part
    · rw [hpart] at hc
      cases hc
    · obtain ⟨field, hfield, rfl⟩ := List.mem_map.mp (List.mem_of_getElem? hpart)
      rw [hpart, Option.getD_some, String.toList_ofList] at hc
      have hdigit := not_of_mem_fields hfield hc
      exact isDigit_iff.mp (by simpa using hdigit)
  simp only [List.forall_mem_cons, List.not_mem_nil, false_imp_iff, implies_true, and_true]
  unfold parts
  dsimp only
  split
  · exact ⟨hrun 2, hrun 1, hrun 0⟩
  · exact ⟨hrun 2, hrun 0, hrun 1⟩
  · exact ⟨hrun 0, hrun 1, hrun 2⟩

end Retag.Library.Dates

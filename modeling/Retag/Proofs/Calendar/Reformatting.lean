import Retag.Proofs.Calendar.Written
import Retag.Proofs.Running.ValueCalls

/-!
# Dates in the default format

A text is reformatted exactly if its parts are the numbers of a date, and what comes out has the same
parts, written in full. So to reformat once more changes nothing. Numbers that no machine word holds
belong to no date, so it makes no difference whether the parts are read as words.
-/

namespace Retag.Library.Dates

open Script Calendar Retag.Text

/-! ## Numbers -/

/-- The parts are there, and stand for these numbers. -/
structure Parts.Denotes (p : Parts) (year month day : Nat) : Prop where
  year : Counts p.year.toList year
  month : Counts p.month.toList month
  day : Counts p.day.toList day

/-- The date that the parts denote, with each of them read as a word of thirty-two bits, and the year
as one with a sign. -/
def Parts.dateInWords? (p : Parts) : Option Date := do
  let year ← (readDigits? p.year.toList).filter (· < 2 ^ 31)
  let month ← (readDigits? p.month.toList).filter (· < 2 ^ 32)
  let day ← (readDigits? p.day.toList).filter (· < 2 ^ 32)
  Date.ofNumbers? year month day

variable {p : Parts} {d : Date} {date order : String}

theorem Parts.date?_eq_some_iff : p.date? = some d ↔
    ∃ year month day : Nat, p.Denotes year month day ∧ IsDate year month day ∧
      d = ⟨year, month, day⟩ := by
  simp only [Parts.date?, Option.bind_eq_bind, Option.bind_eq_some_iff, readDigits?_eq_some_iff,
    Date.ofNumbers?_eq_some_iff]
  constructor
  · rintro ⟨year, hyear, month, hmonth, day, hday, hdate, rfl⟩
    exact ⟨year, month, day, ⟨hyear, hmonth, hday⟩, hdate, rfl⟩
  · rintro ⟨year, month, day, ⟨hyear, hmonth, hday⟩, hdate, rfl⟩
    exact ⟨year, hyear, month, hmonth, day, hday, hdate, rfl⟩

theorem Parts.dateInWords?_eq_some_iff : p.dateInWords? = some d ↔
    ∃ year month day : Nat, p.Denotes year month day ∧
      (year < 2 ^ 31 ∧ month < 2 ^ 32 ∧ day < 2 ^ 32) ∧ IsDate year month day ∧
      d = ⟨year, month, day⟩ := by
  simp only [Parts.dateInWords?, Option.bind_eq_bind, Option.bind_eq_some_iff,
    Option.filter_eq_some_iff, decide_eq_true_eq, readDigits?_eq_some_iff,
    Date.ofNumbers?_eq_some_iff]
  constructor
  · rintro ⟨year, ⟨hyear, hy⟩, month, ⟨hmonth, hm⟩, day, ⟨hday, hd⟩, hdate, rfl⟩
    exact ⟨year, month, day, ⟨hyear, hmonth, hday⟩, ⟨hy, hm, hd⟩, hdate, rfl⟩
  · rintro ⟨year, month, day, ⟨hyear, hmonth, hday⟩, ⟨hy, hm, hd⟩, hdate, rfl⟩
    exact ⟨year, ⟨hyear, hy⟩, month, ⟨hmonth, hm⟩, day, ⟨hday, hd⟩, hdate, rfl⟩

/-- The numbers of a date fit into words. -/
theorem lt_of_isDate {year month day : Nat} (h : IsDate year month day) :
    year < 2 ^ 31 ∧ month < 2 ^ 32 ∧ day < 2 ^ 32 := by
  obtain ⟨⟨-, hyear⟩, ⟨-, hmonth⟩, -, hday⟩ := isDate_iff.mp h
  have hlength := daysInMonth_le year month
  have hlast : (year : Int) ≤ 262142 := hyear
  omega

theorem Parts.dateInWords?_eq (p : Parts) : p.dateInWords? = p.date? := by
  refine Option.ext fun d => ?_
  rw [dateInWords?_eq_some_iff, date?_eq_some_iff]
  constructor
  · rintro ⟨year, month, day, hp, -, hdate, rfl⟩
    exact ⟨year, month, day, hp, hdate, rfl⟩
  · rintro ⟨year, month, day, hp, hdate, rfl⟩
    exact ⟨year, month, day, hp, lt_of_isDate hdate, hdate, rfl⟩

/-- A date is denoted by its numbers and no others. -/
theorem Parts.denotes_iff {y m k : Nat} (h : p.date? = some ⟨y, m, k⟩) {year month day : Nat} :
    p.Denotes year month day ↔ year = y ∧ month = m ∧ day = k := by
  obtain ⟨y', m', k', ⟨hyear, hmonth, hday⟩, -, heq⟩ := date?_eq_some_iff.mp h
  obtain ⟨hy, rfl, rfl⟩ := Date.mk.inj heq
  obtain rfl : y = y' := Int.natCast_inj.mp hy
  constructor
  · rintro ⟨hyear', hmonth', hday'⟩
    exact ⟨hyear'.2.symm.trans hyear.2, hmonth'.2.symm.trans hmonth.2, hday'.2.symm.trans hday.2⟩
  · rintro ⟨rfl, rfl, rfl⟩
    exact ⟨hyear, hmonth, hday⟩

/-! ## Reformatting -/

theorem reformat_of_date? (h : (parts date order).date? = some d) :
    d.format? defaultDateFormat = some (reformat date "" order) ∧
      IsWritten d (reformat date "" order).toList := by
  obtain ⟨year, month, day, -, hdate, rfl⟩ := Parts.date?_eq_some_iff.mp h
  obtain ⟨-, ⟨-, hmonth⟩, -, hday⟩ := isDate_iff.mp hdate
  have hlength := daysInMonth_le year month
  have hmonth' : month < 100 := by omega
  have hday' : day < 100 := by omega
  obtain ⟨text, hformat, hwritten⟩ :=
    exists_written (d := ⟨year, month, day⟩) (Int.natCast_nonneg year) hmonth' hday'
  have htext : reformat date "" order = text := by
    rw [reformat, h, Option.bind_some]
    exact congrArg (Option.getD · "") hformat
  rw [htext]
  exact ⟨hformat, hwritten⟩

theorem reformat_of_none (h : (parts date order).date? = none) : reformat date "" order = "" := by
  rw [reformat, h]
  rfl

theorem exists_date?_of_reformat (h : reformat date "" order ≠ "") :
    ∃ d, (parts date order).date? = some d := by
  rcases hdate : (parts date order).date? with - | d
  · exact absurd (reformat_of_none hdate) h
  · exact ⟨d, rfl⟩

/-- There is a result exactly if the parts are the numbers of a date. -/
theorem reformat_ne_empty_iff : reformat date "" order ≠ "" ↔
    ∃ year month day : Nat, (parts date order).Denotes year month day ∧
      IsDate year month day := by
  constructor
  · intro h
    obtain ⟨d, hdate⟩ := exists_date?_of_reformat h
    obtain ⟨year, month, day, hparts, hvalid, -⟩ := Parts.date?_eq_some_iff.mp hdate
    exact ⟨year, month, day, hparts, hvalid⟩
  · rintro ⟨year, month, day, hparts, hvalid⟩
    have hdate := Parts.date?_eq_some_iff.mpr ⟨year, month, day, hparts, hvalid, rfl⟩
    exact (reformat_of_date? hdate).2.ne_empty

/-- The result is read as the date that it was made of. -/
theorem date?_reformat (h : (parts date order).date? = some d) :
    (parts (reformat date "" order) "").date? = some d := by
  obtain ⟨year, month, day, -, hvalid, rfl⟩ := Parts.date?_eq_some_iff.mp h
  exact date?_written (reformat_of_date? h).2 hvalid

theorem reformat_reformat (h : reformat date "" order ≠ "") :
    reformat (reformat date "" order) "" "" = reformat date "" order := by
  obtain ⟨d, hdate⟩ := exists_date?_of_reformat h
  have hagain := (reformat_of_date? (date?_reformat hdate)).1
  rw [(reformat_of_date? hdate).1, Option.some.injEq] at hagain
  exact hagain.symm

theorem denotes_reformat_iff (h : reformat date "" order ≠ "") {year month day : Nat} :
    (parts (reformat date "" order) "").Denotes year month day
      ↔ (parts date order).Denotes year month day := by
  obtain ⟨d, hdate⟩ := exists_date?_of_reformat h
  obtain ⟨y, m, k, -, -, rfl⟩ := Parts.date?_eq_some_iff.mp hdate
  rw [Parts.denotes_iff hdate, Parts.denotes_iff (date?_reformat hdate)]

/-! ## Calls -/

/-- The functions that give one part. -/
def partFunctions : List (String × (Parts → String)) :=
  [("year", Parts.year), ("month", Parts.month), ("day", Parts.day)]

/-- A part is there exactly if it is digits. -/
theorem ne_empty_iff_isDigits {q : String × (Parts → String)} (hq : q ∈ partFunctions)
    (date order : String) :
    q.2 (parts date order) ≠ "" ↔ IsDigits (q.2 (parts date order)).toList := by
  have hdigits : ∀ c ∈ (q.2 (parts date order)).toList, '0' ≤ c ∧ c ≤ '9' := by
    refine isDigit_of_mem_parts date order _ ?_
    simp only [partFunctions, List.mem_cons, List.not_mem_nil, or_false] at hq
    rcases hq with rfl | rfl | rfl <;> simp
  rw [IsDigits, and_iff_left hdigits, ne_eq, ne_eq, String.toList_eq_nil_iff]

theorem evalTree_part {q : String × (Parts → String)} (hq : q ∈ partFunctions) (t : Tree)
    {args : List Tree} (hargs : args.length ≤ 1) (position : Position) :
    evalTree standard [.call q.1 (t :: args) position] = (do
      let date ← evalTree standard t
      let rest ← Argument.valuesOf (argumentsOf standard args)
      return q.2 (parts date (optional rest 0))) := by
  have haccepts : (Arity.between 1 2).accepts (t :: args).length = true := by
    rw [accepts_between, List.length_cons]
    omega
  simp only [partFunctions, List.mem_cons, List.not_mem_nil, or_false] at hq
  rcases hq with rfl | rfl | rfl
  all_goals exact evalTree_first ((find?_standard _).trans rfl) haccepts (fun _ _ => rfl) position

theorem evalTree_reformat (t : Tree) {args : List Tree} (hargs : args.length ≤ 2)
    (position : Position) :
    evalTree standard [.call "dateformat" (t :: args) position] = (do
      let date ← evalTree standard t
      let rest ← Argument.valuesOf (argumentsOf standard args)
      return reformat date (optional rest 0) (optional rest 1)) := by
  have haccepts : (Arity.between 1 3).accepts (t :: args).length = true := by
    rw [accepts_between, List.length_cons]
    omega
  exact evalTree_first ((find?_standard _).trans rfl) haccepts (fun _ _ => rfl) position

/-- A call without a format gives a text exactly if the parts of its date, in the order that it
names, are numbers and these are those of a date of the calendar. Such a text is the date written in
full; to reformat it again, in the usual order, gives the same, and its parts are the same numbers.
The parts are there exactly if they are digits, and to read them as machine words leaves out no
date. -/
theorem dates_normal :
    (∀ t o position,
      evalTree standard [.call "dateformat" [t, [], o] position] = (do
        let date ← evalTree standard t
        let order ← evalTree standard o
        return reformat date "" order) ∧
      evalTree standard [.call "dateformat" [t] position] = (do
        let date ← evalTree standard t
        return reformat date "" "") ∧
      ∀ q ∈ partFunctions,
        evalTree standard [.call q.1 [t, o] position] = (do
          let date ← evalTree standard t
          let order ← evalTree standard o
          return q.2 (parts date order)) ∧
        evalTree standard [.call q.1 [t] position] = (do
          let date ← evalTree standard t
          return q.2 (parts date ""))) ∧
    ∀ date order,
      let p := parts date order
      let s := reformat date "" order
      (∀ q ∈ partFunctions, q.2 p ≠ "" ↔ IsDigits (q.2 p).toList) ∧
      p.dateInWords? = p.date? ∧
      (s ≠ "" ↔ ∃ year month day : Nat, p.Denotes year month day ∧ IsDate year month day) ∧
      (s ≠ "" → reformat s "" "" = s) ∧
      (s ≠ "" → ∀ year month day, (parts s "").Denotes year month day ↔ p.Denotes year month day) ∧
      ∀ year month day : Nat, p.Denotes year month day → IsDate year month day →
        IsWritten ⟨year, month, day⟩ s.toList := by
  refine ⟨fun t o position => ⟨?_, ?_, fun q hq => ⟨?_, ?_⟩⟩, fun date order => ?_⟩
  · rw [evalTree_reformat t (by simp)]
    simp [argumentsOf, Argument.valuesOf, evalTree, optional]
  · rw [evalTree_reformat t (by simp)]
    simp [argumentsOf, Argument.valuesOf, optional]
  · rw [evalTree_part hq t (by simp)]
    simp [argumentsOf, Argument.valuesOf, optional]
  · rw [evalTree_part hq t (by simp)]
    simp [argumentsOf, Argument.valuesOf, optional]
  · refine ⟨fun q hq => ?_, (parts date order).dateInWords?_eq, reformat_ne_empty_iff,
      reformat_reformat, fun hs _ _ _ => denotes_reformat_iff hs, fun _ _ _ hparts hdate => ?_⟩
    · exact ne_empty_iff_isDigits hq date order
    · exact (reformat_of_date? (Parts.date?_eq_some_iff.mpr ⟨_, _, _, hparts, hdate, rfl⟩)).2

/-- A year of five digits in another order, with zeros in front and one more field. -/
theorem dates_normal_long :
    let p := parts "007.0002/00012345 b6" "DMY"
    let s := reformat "007.0002/00012345 b6" "" "DMY"
    s = "+12345-02-07" ∧ p.Denotes 12345 2 7 ∧ IsDate 12345 2 7 ∧ s ≠ "" ∧ reformat s "" "" = s ∧
    (parts s "").Denotes 12345 2 7 ∧ IsWritten ⟨12345, 2, 7⟩ s.toList ∧
    reformat "1900-2-29" "" "" = "" ∧ ¬ IsDate 1900 2 29 := by
  intro p s
  obtain ⟨-, hdates⟩ := dates_normal
  obtain ⟨-, -, -, hstable, hsame, hwritten⟩ := hdates "007.0002/00012345 b6" "DMY"
  have hparts : p.Denotes 12345 2 7 := ⟨by decide, by decide, by decide⟩
  have hdate : IsDate 12345 2 7 := isDate_iff.mpr (by decide)
  have hs : s = "+12345-02-07" := by decide
  have hne : s ≠ "" := by decide
  refine ⟨hs, hparts, hdate, hne, hstable hne, (hsame hne _ _ _).mpr hparts,
    hwritten _ _ _ hparts hdate, by decide, mt isDate_iff.mp (by decide)⟩

end Retag.Library.Dates

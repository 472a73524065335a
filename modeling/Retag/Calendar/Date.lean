/-!
# Dates

The Gregorian calendar, extended backwards, for the years in which a date and its instant can be
counted in machine words. Days are numbered from 1 for the first of January of year 1, a Monday.
-/

namespace Retag.Calendar

def isLeap (year : Int) : Bool :=
  year % 4 == 0 && (year % 100 != 0 || year % 400 == 0)

def daysInMonth (year : Int) (month : Nat) : Nat :=
  match month with
  | 2 => if isLeap year then 29 else 28
  | 4 | 6 | 9 | 11 => 30
  | _ => 31

structure Date where
  year : Int
  month : Nat
  day : Nat
  deriving DecidableEq, Repr

def minYear : Int := -262143

def maxYear : Int := 262142

namespace Date

/-- The date with these numbers, if there is one in range. -/
def ofNumbers? (year : Int) (month day : Nat) : Option Date :=
  if minYear ≤ year && year ≤ maxYear && 1 ≤ month && month ≤ 12 && 1 ≤ day
      && day ≤ daysInMonth year month then some ⟨year, month, day⟩
  else none

/-- The day of the year, from 1. -/
def ordinal (d : Date) : Nat :=
  (List.range (d.month - 1)).foldl (fun n m => n + daysInMonth d.year (m + 1)) d.day

/-- How many days stand before the first of January. -/
def daysBeforeYear (year : Int) : Int :=
  let y := year - 1
  365 * y + y.fdiv 4 - y.fdiv 100 + y.fdiv 400

/-- The number of the day. -/
def number (d : Date) : Int := daysBeforeYear d.year + d.ordinal

/-- Days since Monday. -/
def weekday (d : Date) : Nat := ((d.number - 1) % 7).toNat

/-- Days since Sunday. -/
def weekdayFromSunday (d : Date) : Nat := (d.weekday + 1) % 7

/-- The week of the year, where week 1 starts on the first Sunday. -/
def weekFromSunday (d : Date) : Nat := (6 + d.ordinal - d.weekdayFromSunday) / 7

/-- The week of the year, where week 1 starts on the first Monday. -/
def weekFromMonday (d : Date) : Nat := (6 + d.ordinal - d.weekday) / 7

/-- The number of the Monday that starts the first week with most of its days in `year`. -/
def firstWeekStart (year : Int) : Int :=
  let fourth := daysBeforeYear year + 4
  fourth - (fourth - 1) % 7

/-- The year that has most days of the date's week. -/
def weekYear (d : Date) : Int :=
  if d.number < firstWeekStart d.year then d.year - 1
  else if firstWeekStart (d.year + 1) ≤ d.number then d.year + 1
  else d.year

/-- The number of the date's week in its `weekYear`. -/
def week (d : Date) : Nat := ((d.number - firstWeekStart d.weekYear) / 7).toNat + 1

/-- The quarter of the year, from 1. -/
def quarter (d : Date) : Nat := (d.month - 1) / 3 + 1

end Date

/-- A time of day. -/
structure Time where
  hour : Nat
  minute : Nat
  second : Nat
  nanosecond : Nat
  deriving DecidableEq, Repr

namespace Time

/-- The hour on a twelve-hour dial. -/
def hour12 (t : Time) : Nat := if t.hour % 12 = 0 then 12 else t.hour % 12

def isAfternoon (t : Time) : Bool := 12 ≤ t.hour

end Time

/-- A local date and time, and how many seconds local time is ahead of universal time. -/
structure Moment where
  date : Date
  time : Time
  offset : Int
  deriving DecidableEq, Repr

/-- Seconds since the start of 1970 in universal time. -/
def Moment.timestamp (m : Moment) : Int :=
  (m.date.number - 719163) * 86400
    + (m.time.hour * 3600 + m.time.minute * 60 + m.time.second : Nat) - m.offset

end Retag.Calendar

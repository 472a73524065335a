import Retag.Calendar.Date
import Retag.Text.Integer

/-!
# Date formats

A format is text with codes that start with a percent sign. Reading it gives items; writing the items
of a date needs what each asks for, and a date alone has no time of day and no zone.
-/

namespace Retag.Calendar

/-- How a number is filled up to its width. -/
inductive Fill where
  | none
  | zero
  | space
  deriving DecidableEq, Repr

/-- The numbers that a format may ask for. -/
inductive Numeric where
  | year | century | yearOfCentury
  | weekYear | weekYearOfCentury
  | quarter | month | day
  | weekFromSunday | weekFromMonday | week
  | weekdayFromSunday | weekdayFromMonday
  | ordinal
  | hour | hour12 | minute | second | nanosecond
  | timestamp
  deriving DecidableEq, Repr

/-- Names and fixed forms. -/
inductive Fixed where
  | monthShort | monthLong | weekdayShort | weekdayLong
  | halfLower | halfUpper
  /-- A fraction of a second with its point: as many digits as it needs. -/
  | fraction
  /-- A fraction of a second with three, six or nine digits. -/
  | digits (count : Nat) (point : Bool)
  | zoneName
  /-- An offset from universal time. -/
  | offset | offsetColon | offsetSeconds | offsetHours
  /-- An offset in any form; it can only be read. -/
  | offsetAny
  /-- Date, time and offset together. -/
  | stamp
  deriving DecidableEq, Repr

inductive Item where
  | text (c : Char)
  | numeric (n : Numeric) (fill : Fill)
  | fixed (f : Fixed)
  deriving DecidableEq, Repr

namespace Item

def zero (n : Numeric) : Item := .numeric n .zero

def bare (n : Numeric) : Item := .numeric n .none

def spaced (n : Numeric) : Item := .numeric n .space

/-! ## Reading -/

def monthDayYear : List Item :=
  [zero .month, .text '/', zero .day, .text '/', zero .yearOfCentury]

def hourMinute : List Item := [zero .hour, .text ':', zero .minute]

def hourMinuteSecond : List Item := hourMinute ++ [.text ':', zero .second]

/-- The items of a code of one letter. -/
def ofLetter? : Char → Option (List Item)
  | 'A' => some [.fixed .weekdayLong]
  | 'B' => some [.fixed .monthLong]
  | 'C' => some [zero .century]
  | 'D' | 'x' => some monthDayYear
  | 'F' => some [zero .year, .text '-', zero .month, .text '-', zero .day]
  | 'G' => some [zero .weekYear]
  | 'H' => some [zero .hour]
  | 'I' => some [zero .hour12]
  | 'M' => some [zero .minute]
  | 'P' => some [.fixed .halfLower]
  | 'R' => some hourMinute
  | 'S' => some [zero .second]
  | 'T' | 'X' => some hourMinuteSecond
  | 'U' => some [zero .weekFromSunday]
  | 'V' => some [zero .week]
  | 'W' => some [zero .weekFromMonday]
  | 'Y' => some [zero .year]
  | 'Z' => some [.fixed .zoneName]
  | 'a' => some [.fixed .weekdayShort]
  | 'b' | 'h' => some [.fixed .monthShort]
  | 'c' => some ([.fixed .weekdayShort, .text ' ', .fixed .monthShort, .text ' ', spaced .day,
      .text ' '] ++ hourMinuteSecond ++ [.text ' ', zero .year])
  | 'd' => some [zero .day]
  | 'e' => some [spaced .day]
  | 'f' => some [zero .nanosecond]
  | 'g' => some [zero .weekYearOfCentury]
  | 'j' => some [zero .ordinal]
  | 'k' => some [spaced .hour]
  | 'l' => some [spaced .hour12]
  | 'm' => some [zero .month]
  | 'n' => some [.text '\n']
  | 'p' => some [.fixed .halfUpper]
  | 'q' => some [bare .quarter]
  | 'r' => some [zero .hour12, .text ':', zero .minute, .text ':', zero .second, .text ' ',
      .fixed .halfUpper]
  | 's' => some [bare .timestamp]
  | 't' => some [.text '\t']
  | 'u' => some [bare .weekdayFromMonday]
  | 'v' => some [spaced .day, .text '-', .fixed .monthShort, .text '-', zero .year]
  | 'w' => some [bare .weekdayFromSunday]
  | 'y' => some [zero .yearOfCentury]
  | 'z' => some [.fixed .offset]
  | '+' => some [.fixed .stamp]
  | '%' => some [.text '%']
  | _ => none

/-- The codes of more than one character: their items, and what follows them. -/
def ofLongCode? : List Char → Option (List Item × List Char)
  | '#' :: 'z' :: rest => some ([.fixed .offsetAny], rest)
  | ':' :: ':' :: ':' :: 'z' :: rest => some ([.fixed .offsetHours], rest)
  | ':' :: ':' :: 'z' :: rest => some ([.fixed .offsetSeconds], rest)
  | ':' :: 'z' :: rest => some ([.fixed .offsetColon], rest)
  | '.' :: 'f' :: rest => some ([.fixed .fraction], rest)
  | '.' :: '3' :: 'f' :: rest => some ([.fixed (.digits 3 true)], rest)
  | '.' :: '6' :: 'f' :: rest => some ([.fixed (.digits 6 true)], rest)
  | '.' :: '9' :: 'f' :: rest => some ([.fixed (.digits 9 true)], rest)
  | '3' :: 'f' :: rest => some ([.fixed (.digits 3 false)], rest)
  | '6' :: 'f' :: rest => some ([.fixed (.digits 6 false)], rest)
  | '9' :: 'f' :: rest => some ([.fixed (.digits 9 false)], rest)
  | _ => none

/-- What `-`, `0` and `_` after the percent sign ask for. -/
def fillOf? : Char → Option Fill
  | '-' => some .none
  | '0' => some .zero
  | '_' => some .space
  | _ => none

/-- The items of a code, after its percent sign, and how many characters it takes. A fill only goes
with a code that is one number. -/
def ofCode? (cs : List Char) : Option (List Item × Nat) :=
  match ofLongCode? cs with
  | some (items, rest) => some (items, cs.length - rest.length)
  | none =>
    match cs with
    | [] => none
    | c :: rest =>
      match fillOf? c, rest with
      | some fill, letter :: _ =>
        match ofLetter? letter with
        | some [.numeric n _] => some ([.numeric n fill], 2)
        | _ => none
      | some _, [] => none
      | none, _ => (ofLetter? c).map (·, 1)

/-- Reads a format; `skip` characters of a code are still to be passed over. -/
def readFrom : Nat → List Char → Option (List Item)
  | _, [] => some []
  | skip + 1, _ :: rest => readFrom skip rest
  | 0, c :: rest =>
    if c = '%' then do
      let (items, size) ← ofCode? rest
      return items ++ (← readFrom size rest)
    else do return .text c :: (← readFrom 0 rest)

/-- The items of a format; `none` if it holds a code that does not exist. -/
def readAll? (format : String) : Option (List Item) := readFrom 0 format.toList

/-! ## Writing -/

def monthNames : List String :=
  ["January", "February", "March", "April", "May", "June", "July", "August", "September",
   "October", "November", "December"]

/-- The names of the weekdays, from Monday. -/
def weekdayNames : List String :=
  ["Monday", "Tuesday", "Wednesday", "Thursday", "Friday", "Saturday", "Sunday"]

def short (name : String) : String := String.ofList (name.toList.take 3)

def digit (n : Nat) : Char := Char.ofNat (48 + n)

/-- Two digits; a number of a hundred or more keeps one character for its tens. -/
def two (n : Nat) (fill : Fill) : String :=
  let ones := [digit (n % 10)]
  String.ofList (match n / 10, fill with
    | 0, .none => ones
    | 0, .space => ' ' :: ones
    | tens, _ => digit tens :: ones)

/-- A number filled up to a width, which a sign that is always written adds to. -/
def wide (width : Nat) (n : Int) (fill : Fill) (signed : Bool) : String :=
  let sign := if n < 0 then ['-'] else if signed then ['+'] else []
  let digits := Nat.toDigits 10 n.natAbs
  let width := if signed then width + 1 else width
  let missing := width - sign.length - digits.length
  String.ofList (match fill with
    | .none => sign ++ digits
    | .zero => sign ++ List.replicate missing '0' ++ digits
    | .space => List.replicate missing ' ' ++ sign ++ digits)

/-- A year: four digits, with a sign outside of the years 0 to 9999. -/
def yearText (year : Int) (fill : Fill) : String :=
  wide 4 year fill (year < 0 || 10000 ≤ year)

/-- A number as one byte. -/
def byte (n : Int) : Nat := (n % 256).toNat

def dateNumber (d : Date) (fill : Fill) : Numeric → Option String
  | .year => some (yearText d.year fill)
  | .century => some (two (byte (d.year / 100)) fill)
  | .yearOfCentury => some (two (byte (d.year % 100)) fill)
  | .weekYear => some (yearText d.weekYear fill)
  | .weekYearOfCentury => some (two (byte (d.weekYear % 100)) fill)
  | .quarter => some (String.singleton (digit d.quarter))
  | .month => some (two d.month fill)
  | .day => some (two d.day fill)
  | .weekFromSunday => some (two d.weekFromSunday fill)
  | .weekFromMonday => some (two d.weekFromMonday fill)
  | .week => some (two d.week fill)
  | .weekdayFromSunday => some (String.singleton (digit d.weekdayFromSunday))
  | .weekdayFromMonday => some (String.singleton (digit (d.weekday + 1)))
  | .ordinal => some (wide 3 d.ordinal fill false)
  | _ => none

def timeNumber (t : Time) (fill : Fill) : Numeric → Option String
  | .hour => some (two t.hour fill)
  | .hour12 => some (two t.hour12 fill)
  | .minute => some (two t.minute fill)
  | .second => some (two t.second fill)
  | .nanosecond => some (wide 9 t.nanosecond fill false)
  | _ => none

/-- A fraction of a second to `count` digits. -/
def fractionDigits (t : Time) (count : Nat) : String :=
  wide count (t.nanosecond / Nat.pow 10 (9 - count) : Nat) .zero false

/-- A fraction of a second with its point; nothing if there is none. -/
def fractionText (t : Time) : String :=
  if t.nanosecond = 0 then ""
  else if t.nanosecond % 1000000 = 0 then "." ++ fractionDigits t 3
  else if t.nanosecond % 1000 = 0 then "." ++ fractionDigits t 6
  else "." ++ fractionDigits t 9

/-- Sign, hours, minutes and seconds of an offset. -/
def offsetParts (offset : Int) : String × String × String × String :=
  let n := offset.natAbs
  (if offset < 0 then "-" else "+", two (n / 3600) .zero, two (n / 60 % 60) .zero,
   two (n % 60) .zero)

def offsetText (offset : Int) (colon : Bool) : String :=
  let (sign, hours, minutes, _) := offsetParts ((offset.natAbs + 30) / 60 * 60 * offset.sign)
  sign ++ hours ++ (if colon then ":" else "") ++ minutes

def stampText (m : Moment) : String :=
  let d := m.date
  let t := m.time
  (if 0 ≤ d.year && d.year < 10000 then wide 4 d.year .zero false else wide 4 d.year .zero true)
    ++ "-" ++ two d.month .zero ++ "-" ++ two d.day .zero ++ "T" ++ two t.hour .zero ++ ":"
    ++ two t.minute .zero ++ ":" ++ two t.second .zero ++ fractionText t ++ offsetText m.offset true

def dateFixed (d : Date) : Fixed → Option String
  | .monthShort => (monthNames[d.month - 1]?).map short
  | .monthLong => monthNames[d.month - 1]?
  | .weekdayShort => (weekdayNames[d.weekday]?).map short
  | .weekdayLong => weekdayNames[d.weekday]?
  | _ => none

def momentFixed (m : Moment) : Fixed → Option String
  | .halfLower => some (if m.time.isAfternoon then "pm" else "am")
  | .halfUpper => some (if m.time.isAfternoon then "PM" else "AM")
  | .fraction => some (fractionText m.time)
  | .digits count point => some ((if point then "." else "") ++ fractionDigits m.time count)
  | .zoneName => some (offsetText m.offset true)
  | .offset => some (offsetText m.offset false)
  | .offsetColon => some (offsetText m.offset true)
  | .offsetSeconds =>
    let (sign, hours, minutes, seconds) := offsetParts m.offset
    some (sign ++ hours ++ ":" ++ minutes ++ ":" ++ seconds)
  | .offsetHours =>
    let (sign, hours, _, _) := offsetParts m.offset
    some (sign ++ hours)
  | .stamp => some (stampText m)
  | f => dateFixed m.date f

/-- An item of a date alone; `none` if it asks for a time or a zone. -/
def ofDate (d : Date) : Item → Option String
  | .text c => some (String.singleton c)
  | .numeric n fill => dateNumber d fill n
  | .fixed f => dateFixed d f

/-- An item of a moment. -/
def ofMoment (m : Moment) : Item → Option String
  | .text c => some (String.singleton c)
  | .numeric .timestamp fill => some (wide 9 m.timestamp fill false)
  | .numeric n fill => (dateNumber m.date fill n).or (timeNumber m.time fill n)
  | .fixed f => momentFixed m f

end Item

/-- A date in a format; `none` if the format does not exist or asks for more than a date. -/
def Date.format? (d : Date) (format : String) : Option String := do
  let items ← Item.readAll? format
  return String.join (← items.mapM (Item.ofDate d))

/-- A moment in a format; `none` if the format does not exist. -/
def Moment.format? (m : Moment) (format : String) : Option String := do
  let items ← Item.readAll? format
  return String.join (← items.mapM (Item.ofMoment m))

end Retag.Calendar

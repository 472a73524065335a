import Retag.Calendar.Format
import Retag.Library.Conventions
import Retag.Text.Search

/-!
# Dates

A date is any text with up to three runs of digits. An order says which of them is the year, the
month and the day.
-/

namespace Retag.Library

open Script

namespace Dates

def defaultMomentFormat : String := "%Y-%m-%d %H:%M:%S"

def defaultDateFormat : String := "%Y-%m-%d"

/-- The year, the month and the day of a text, as they are written; missing ones are empty. -/
structure Parts where
  year : String
  month : String
  day : String

/-- Cuts a date into its parts. -/
def parts (date order : String) : Parts :=
  let runs := (Text.fields (!·.isDigit) date.toList).map String.ofList
  let part (i : Nat) := runs.getD i ""
  match String.ofList (order.toList.map Char.toLower) with
  | "dmy" => ⟨part 2, part 1, part 0⟩
  | "mdy" => ⟨part 2, part 0, part 1⟩
  | _ => ⟨part 0, part 1, part 2⟩

/-- The date that the parts denote, if there is one. -/
def Parts.date? (p : Parts) : Option Calendar.Date := do
  let year ← Text.readDigits? p.year.toList
  let month ← Text.readDigits? p.month.toList
  let day ← Text.readDigits? p.day.toList
  Calendar.Date.ofNumbers? year month day

/-- A format, or the default if it is empty. -/
def formatOr (default format : String) : String := if format.isEmpty then default else format

def year (args : List String) : Eval String :=
  return (parts (← required args 0) (optional args 1)).year

def month (args : List String) : Eval String :=
  return (parts (← required args 0) (optional args 1)).month

def day (args : List String) : Eval String :=
  return (parts (← required args 0) (optional args 1)).day

/-- A date in another format; empty if the date or the format does not exist. -/
def reformat (date format order : String) : String :=
  (((parts date order).date?).bind (·.format? (formatOr defaultDateFormat format))).getD ""

def dateFormat (args : List String) : Eval String :=
  return reformat (← required args 0) (optional args 1) (optional args 2)

/-- The current date and time. -/
def dateTime (args : List String) : Eval String := do
  match (← read).clock.format? (formatOr defaultMomentFormat (optional args 0)) with
  | some text => return text
  | none => throw (← Eval.unsupportedFormat)

end Dates

/-- Dates. -/
def dateFunctions : List Function := [
  ⟨"datetime", .eager Dates.dateTime, .between 0 1,
    "`$datetime(format=\"%Y-%m-%d %H:%M:%S\")`\n\n"
      ++ "Returns the current local date and time in `format` (strftime codes). An "
      ++ "unsupported format code is an error."⟩,
  ⟨"year", .eager Dates.year, .between 1 2,
    "`$year(date,date_order=\"ymd\")`\n\n"
      ++ "Returns the year part of `date`. `date_order` is one of `ymd`, `dmy`, `mdy`."⟩,
  ⟨"month", .eager Dates.month, .between 1 2,
    "`$month(date,date_order=\"ymd\")`\n\n"
      ++ "Returns the month part of `date`."⟩,
  ⟨"day", .eager Dates.day, .between 1 2,
    "`$day(date,date_order=\"ymd\")`\n\n"
      ++ "Returns the day part of `date`."⟩,
  ⟨"dateformat", .eager Dates.dateFormat, .between 1 3,
    "`$dateformat(date,format=\"%Y-%m-%d\",date_order=\"ymd\")`\n\n"
      ++ "Reformats `date`. Returns empty if the date or the format is invalid."⟩]

end Retag.Library

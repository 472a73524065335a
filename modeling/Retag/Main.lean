import Retag.Program
import Std.Time.Format

/-!
# Running the program

Reads the files that the command line names and the clock, and prints what the program says.
-/

namespace Retag

/-- A file as text, or why it cannot be read. -/
def readFile (path : String) : IO (Except FileFault String) := do
  try
    let bytes ← IO.FS.readBinFile path
    match String.fromUTF8? bytes with
    | some text => return .ok text
    | none => return .error .notText
  catch
    | .noFileOrDirectory .. => return .error .missing
    | .inappropriateType _ code _ =>
      return .error (if code = 21 then .directory else .notDirectory)
    | .permissionDenied .. => return .error .noPermission
    | e => return .error (.other (toString e))

/-- The local date and time. -/
def now : IO Calendar.Moment := do
  let stamp ← Std.Time.Timestamp.now
  let rules ← Std.Time.Database.defaultGetLocalZoneRules
  let offset := (rules.findLocalTimeTypeForTimestamp stamp).getTimeZone.offset.second.val
  let here ← Std.Time.PlainDateTime.now
  return {
    date := ⟨here.year.toInt, here.month.toNat, here.day.toNat⟩
    time := ⟨here.hour.toNat, here.minute.toNat, here.second.toNat, here.nanosecond.toNat⟩
    offset }

end Retag

open Retag in
/-- Runs the program with the words after its name. -/
def main (argv : List String) : IO UInt32 := do
  let home ← IO.getEnv "HOME"
  let paths := match CommandLine.parse argv with
    | .ok c => Program.candidates c home
    | .error _ => []
  let files ← paths.mapM fun path => return (path, ← readFile path)
  let clock ← now
  let file (path : String) := (files.lookup path).getD (.error .missing)
  let outcome := Program.run argv { home, file, clock }
  IO.print outcome.stdout
  IO.eprint outcome.stderr
  return outcome.code.toUInt32

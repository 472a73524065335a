import Retag.CommandLine
import Retag.Library.Standard
import Retag.Script.Session
import Retag.Settings

/-!
# The command-line program

What the program prints and how it ends, as a function of its arguments and of the files that it may
look at. It runs one script over tags from the settings file and the command line, and prints the
result and the tags afterwards.
-/

namespace Retag

/-- Why a file cannot be read as text. -/
inductive FileFault where
  | missing
  | directory
  | notDirectory
  | noPermission
  | notText
  | other (message : String)
  deriving DecidableEq, Repr

def FileFault.message : FileFault → String
  | .missing => "No such file or directory (os error 2)"
  | .directory => "Is a directory (os error 21)"
  | .notDirectory => "Not a directory (os error 20)"
  | .noPermission => "Permission denied (os error 13)"
  | .notText => "stream did not contain valid UTF-8"
  | .other message => message

/-- What the program may look at. -/
structure Surroundings where
  /-- The home directory, if there is one. -/
  home : Option String
  /-- The contents of files. -/
  file : String → Except FileFault String
  clock : Calendar.Moment

/-- What a run of the program leaves behind. -/
structure Outcome where
  code : Nat
  stdout : String := ""
  stderr : String := ""
  deriving DecidableEq, Repr

namespace Program

def settingsName : String := ".tagscriptrc"

/-- The settings files that are searched, in order. -/
def searched (home : Option String) : List String :=
  (home.map fun h => h ++ "/" ++ settingsName).toList ++ ["./" ++ settingsName]

/-- The files that a command line may need. -/
def candidates (c : CommandLine) (home : Option String) : List String :=
  match c.settings with
  | .skip => []
  | .file path => [path]
  | .search => searched home

/-- A line on the error stream. -/
def complaint (message : String) : String := "tagscript: " ++ message ++ "\n"

def failure (stderr : String) : Outcome := { code := 1, stderr }

/-- The settings of a text, and the complaints about it. -/
def loadFrom (path text : String) : Settings × String :=
  let (settings, errors) := Settings.load text
  (settings, String.join (errors.map fun e => complaint (path ++ ": " ++ e.message)))

/-- Whether there is a file, which need not be readable. -/
def exists? (e : Except FileFault String) : Bool :=
  match e with
  | .ok _ | .error .notText | .error .noPermission => true
  | .error _ => false

/-- The settings that a command line chooses, with complaints, or why there are none. -/
def settings (c : CommandLine) (s : Surroundings) : Except String (Settings × String) :=
  match c.settings with
  | .skip => .ok ({}, "")
  | .file path =>
    match s.file path with
    | .ok text => .ok (loadFrom path text)
    | .error fault => .error (complaint (path ++ ": " ++ fault.message))
  | .search =>
    match (searched s.home).find? (exists? <| s.file ·) with
    | none => .ok ({}, "")
    | some path =>
      match s.file path with
      | .ok text => .ok (loadFrom path text)
      | .error _ => .ok ({}, "")

/-- Adds the tags of a command line: the first value of a name replaces what the settings say, and
later ones are appended. `seeded` are the names that have had one. -/
def seed (seeded : List String) (tags : TagStore) : List (String × String) → TagStore
  | [] => tags
  | (name, value) :: rest =>
    let name := internalName name
    if seeded.contains name then seed seeded (tags.add name value) rest
    else seed (name :: seeded) ((tags.unset name).add name value) rest

/-- Every tag as lines `name=value` and every tombstone as a line `-name`, each sorted by name. -/
def tagLines (tags : TagStore) : List String :=
  (tags.tags.mergeSort fun a b => decide (a.name ≤ b.name)).flatMap
      (fun t => t.values.map fun v => t.name ++ "=" ++ v)
    ++ tags.deleted.map ("-" ++ ·)

/-- The descriptions of all functions, with a blank line after each. -/
def listing : String := String.join (Library.standard.functions.map fun f => f.doc ++ "\n\n")

/-- Runs a script over seeded tags. -/
def execute (source : String) (tags : TagStore) (clock : Calendar.Moment) : Outcome :=
  let session : Script.Session := { registry := Library.standard }
  match session.run source tags ⟨none, clock⟩ with
  | (.error e, _) => failure (complaint e.message)
  | (.ok value, tags, _) =>
    { code := 0, stdout := String.join ((value :: tagLines tags).map (· ++ "\n")) }

/-- Carries out a command line. -/
def carryOut (c : CommandLine) (s : Surroundings) : Outcome :=
  if c.list then { code := 0, stdout := listing }
  else match settings c s with
    | .error message => failure message
    | .ok (settings, complaints) =>
      let source? := match c.script with
        | .inline source => Except.ok source
        | .preset name =>
          match settings.script? name with
          | some source => .ok source
          | none => .error (complaint ("unknown preset '" ++ name ++ "'"))
        | .none => .error (CommandLine.usage ++ "\n")
      match source? with
      | .error message => failure (complaints ++ message)
      | .ok source =>
        let outcome := execute source (seed [] settings.tags c.tags) s.clock
        { outcome with stderr := complaints ++ outcome.stderr }

/-- Runs the program with the words after its name. -/
def run (argv : List String) (s : Surroundings) : Outcome :=
  match CommandLine.parse argv with
  | .ok c => carryOut c s
  | .error e => failure (complaint e.message ++ CommandLine.usage ++ "\n")

end Program
end Retag

import Retag.Text.Search

/-!
# Command lines

Options are single letters after a dash and may stand together in one word. An option with a value
takes the rest of its word, or the next word if there is no rest. `--` ends the options.
-/

namespace Retag

/-- Which settings file is used. -/
inductive SettingsChoice where
  /-- The first that exists in the home directory and the current one. -/
  | search
  | skip
  | file (path : String)
  deriving DecidableEq, Repr

/-- Which script is run. -/
inductive ScriptChoice where
  | none
  | inline (source : String)
  /-- A script that the settings name. -/
  | preset (name : String)
  deriving DecidableEq, Repr

/-- What a command line asks for. -/
structure CommandLine where
  settings : SettingsChoice := .search
  tags : List (String × String) := []
  script : ScriptChoice := .none
  debug : Bool := false
  list : Bool := false
  deriving DecidableEq, Repr

/-- What can be wrong with a command line. -/
inductive CommandLineError where
  | unknownOption (letter : Char)
  | noValue (letter : Char)
  | noAssignment (value : String)
  | noTagName
  | presetWithScript
  | tooManyScripts (count : Nat)
  | noScript
  deriving DecidableEq, Repr

def CommandLineError.message : CommandLineError → String
  | .unknownOption letter => "unknown option: -" ++ String.singleton letter
  | .noValue letter => "-" ++ String.singleton letter ++ " requires an argument"
  | .noAssignment value => "-t expects <tag>=<value>, got '" ++ value ++ "'"
  | .noTagName => "-t: tag name cannot be empty"
  | .presetWithScript => "-p cannot be combined with a script argument"
  | .tooManyScripts count => "too many arguments (" ++ toString count ++ ")"
  | .noScript => "no script given"

namespace CommandLine

/-- How a command line is written. -/
def usage : String :=
  "Usage: tagscript [-f[<file>]] [-t<tag>=<value>]... [-d] <script>\n"
    ++ "       tagscript [-f[<file>]] [-t<tag>=<value>]... [-d] -p<preset>\n"
    ++ "       tagscript -l"

/-- What has been read: the options, the last preset and the other words. -/
structure Draft where
  options : CommandLine := {}
  preset : Option String := none
  words : List String := []

/-- The options that take a value. -/
inductive Valued where
  | tag
  | preset

def Valued.letter : Valued → Char
  | .tag => 't'
  | .preset => 'p'

namespace Draft

/-- Gives an option its value. -/
def assign (d : Draft) (value : String) : Valued → Except CommandLineError Draft
  | .preset => .ok { d with preset := some value }
  | .tag =>
    match Text.splitFirst? (· == '=') value.toList with
    | none => .error (.noAssignment value)
    | some ([], _) => .error .noTagName
    | some (name, value) =>
      .ok { d with options.tags := d.options.tags ++ [(String.ofList name, String.ofList value)] }

/-- Reads the letters of a word. An option that still needs its value is returned with the draft. -/
def letters (d : Draft) : List Char → Except CommandLineError (Draft × Option Valued)
  | [] => .ok (d, none)
  | 'd' :: rest => letters { d with options.debug := true } rest
  | 'l' :: rest => letters { d with options.list := true } rest
  | ['f'] => .ok ({ d with options.settings := .skip }, none)
  | 'f' :: path => .ok ({ d with options.settings := .file (String.ofList path) }, none)
  | ['t'] => .ok (d, some .tag)
  | 't' :: value => (d.assign (String.ofList value) .tag).map (·, none)
  | ['p'] => .ok (d, some .preset)
  | 'p' :: value => (d.assign (String.ofList value) .preset).map (·, none)
  | letter :: _ => .error (.unknownOption letter)

/-- Reads words; `waiting` is an option whose value is the next one. -/
def readWords (waiting : Option Valued) (d : Draft) : List String → Except CommandLineError Draft
  | [] =>
    match waiting with
    | some v => .error (.noValue v.letter)
    | none => .ok d
  | w :: rest =>
    match waiting with
    | some v =>
      match d.assign w v with
      | .ok d => readWords none d rest
      | .error e => .error e
    | none =>
      if w = "--" then .ok { d with words := d.words ++ rest }
      else match w.toList with
        | '-' :: c :: cs =>
          match d.letters (c :: cs) with
          | .ok (d, waiting) => readWords waiting d rest
          | .error e => .error e
        | _ => readWords none { d with words := d.words ++ [w] } rest

/-- What the draft asks for in the end. -/
def finish (d : Draft) : Except CommandLineError CommandLine :=
  match d.words, d.preset with
  | [], none =>
    if d.options.list then .ok d.options else .error .noScript
  | [], some name => .ok { d.options with script := .preset name }
  | [source], none => .ok { d.options with script := .inline source }
  | _ :: _, some _ => .error .presetWithScript
  | words, none => .error (.tooManyScripts words.length)

end Draft

/-- Reads the words after the program's name. -/
def parse (argv : List String) : Except CommandLineError CommandLine :=
  match Draft.readWords none {} argv with
  | .ok d => d.finish
  | .error e => .error e

end CommandLine
end Retag

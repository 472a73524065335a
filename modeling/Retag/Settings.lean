import Retag.TagStore
import Retag.Text.Search

/-!
# Settings files

A settings file seeds tags and names scripts, one directive a line:

* `/set name=value` or `/set name value` gives a tag one value,
* `/add name=value` or `/add name value` appends one,
* `/script name=source` names a script; the source is taken as it stands.

Lines that start with `;` are comments. Other lines and unknown directives say nothing. A faulty
directive is reported with its line and changes nothing.
-/

namespace Retag

open Unicode Text

/-- What can be wrong with a directive. -/
inductive SettingsFault where
  | noArgument (directive : String)
  | noValue (directive : String) (argument : String)
  | noName (directive : String)
  | noSource
  | badScriptName (name : String)
  deriving DecidableEq, Repr

def SettingsFault.message : SettingsFault → String
  | .noArgument directive => "/" ++ directive ++ ": requires an argument"
  | .noValue directive argument => "/" ++ directive ++ ": missing value for '" ++ argument ++ "'"
  | .noName directive => "/" ++ directive ++ ": tag name cannot be empty"
  | .noSource => "/script: expected <name>=<source>"
  | .badScriptName name => "/script: invalid preset name '" ++ name ++ "'"

structure SettingsError where
  line : Nat
  fault : SettingsFault
  deriving DecidableEq, Repr

def SettingsError.message (e : SettingsError) : String :=
  "line " ++ toString e.line ++ ": " ++ e.fault.message

/-- What a line of a settings file asks for; names are spelled as in scripts. -/
inductive Directive where
  | set (name value : String)
  | add (name value : String)
  | script (name source : String)
  deriving DecidableEq, Repr

namespace Directive

/-- Cuts `name=value` or `name value`; a name holds no white space. -/
def assignment (directive : String) (argument : List Char) :
    Except SettingsFault (String × String) :=
  if argument.isEmpty then .error (.noArgument directive)
  else
    let byEquals := (splitFirst? (· == '=') argument).filter fun (name, _) => !name.any isBlank
    let byBlank := (splitFirst? isBlank argument).map fun (name, value) =>
      (name, value.dropWhile isBlank)
    match byEquals.or byBlank with
    | none => .error (.noValue directive (String.ofList argument))
    | some (name, value) =>
      if name.isEmpty then .error (.noName directive)
      else .ok (String.ofList name, String.ofList value)

/-- Cuts `name=source`. -/
def scriptDefinition (argument : List Char) : Except SettingsFault (String × String) :=
  match splitFirst? (· == '=') argument with
  | none => .error .noSource
  | some (name, source) =>
    let name := stripWhile isBlank name
    if name.isEmpty || name.any isBlank then .error (.badScriptName (String.ofList name))
    else .ok (String.ofList name, String.ofList source)

/-- White space in ASCII, which ends the name of a directive. -/
def endsName (c : Char) : Bool :=
  c == ' ' || c == '\t' || c == '\n' || c == '\r' || c.toNat == 12

/-- What a line asks for, if it asks for anything. -/
def ofLine (line : String) : Except SettingsFault (Option Directive) :=
  match stripWhile isBlank line.toList with
  | '/' :: rest =>
    let name := String.ofList (rest.takeWhile (!endsName ·))
    let argument := stripWhile isBlank (rest.dropWhile (!endsName ·))
    match name with
    | "set" => (assignment name argument).map fun (n, v) => some (.set n v)
    | "add" => (assignment name argument).map fun (n, v) => some (.add n v)
    | "script" => (scriptDefinition argument).map fun (n, s) => some (.script n s)
    | _ => .ok none
  | _ => .ok none

end Directive

/-- Seeded tags, and scripts in the order of their names. -/
structure Settings where
  tags : TagStore := {}
  scripts : List (String × String) := []

namespace Settings

/-- Names a script, in place of one with its name. -/
def insertScript (name source : String) : List (String × String) → List (String × String)
  | [] => [(name, source)]
  | (n, s) :: rest =>
    if name = n then (name, source) :: rest
    else if name < n then (name, source) :: (n, s) :: rest
    else (n, s) :: insertScript name source rest

def apply (s : Settings) : Directive → Settings
  | .set name value => { s with tags := s.tags.setOne (internalName name) value }
  | .add name value => { s with tags := s.tags.add (internalName name) value }
  | .script name source => { s with scripts := insertScript name source s.scripts }

/-- Reads lines, the first of which has number `line`. -/
def loadLines (line : Nat) (s : Settings) : List String → Settings × List SettingsError
  | [] => (s, [])
  | l :: rest =>
    match Directive.ofLine l with
    | .ok none => loadLines (line + 1) s rest
    | .ok (some d) => loadLines (line + 1) (s.apply d) rest
    | .error fault =>
      let (s, errors) := loadLines (line + 1) s rest
      (s, ⟨line, fault⟩ :: errors)

/-- The settings of a text, and what was wrong with it. -/
def load (text : String) : Settings × List SettingsError := loadLines 1 {} (split text "\n")

/-- The source of a named script. -/
def script? (s : Settings) (name : String) : Option String := s.scripts.lookup name

end Settings
end Retag

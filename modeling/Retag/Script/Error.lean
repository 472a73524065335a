import Retag.Script.Arity
import Retag.Script.Position

/-!
# Script errors

What can go wrong in reading and in running a script, each with the place it is about, and the
wording of each. A place in a function is followed by the function's name.
-/

namespace Retag.Script

/-- The deepest nesting of calls. -/
def maxNesting : Nat := 128

/-- What can be wrong with a script. -/
inductive ParseFault where
  | endOfScript
  | unexpected (c : Char)
  /-- The four characters after `\u` name no character. -/
  | notUnicode (digits : String)
  | unknownFunction (name : String)
  | wrongCount (name : String) (expected : Arity) (actual : Nat)
  | tooDeep (name : String)
  deriving DecidableEq, Repr

structure ParseError where
  fault : ParseFault
  position : Position
  deriving DecidableEq, Repr

/-- What can go wrong while a script runs. -/
inductive RuntimeFault where
  | unsupportedFormat (function : String)
  | unknownFunction (name : String)
  | wrongCount (name : String) (expected : Arity) (actual : Nat)
  /-- A function asked for an argument that the call does not have. -/
  | missingArgument (function : String) (index : Nat)
  deriving DecidableEq, Repr

structure RuntimeError where
  fault : RuntimeFault
  position : Position
  deriving DecidableEq, Repr

inductive ScriptError where
  | parse (e : ParseError)
  | runtime (e : RuntimeError)
  deriving DecidableEq, Repr

/-- A message about a place. -/
def messageAt (p : Position) (message : String) : String := p.text ++ ": " ++ message

/-- A message about a call. -/
def messageIn (p : Position) (function message : String) : String :=
  p.text ++ ":$" ++ function ++ ": " ++ message

def unknownMessage (p : Position) (name : String) : String :=
  messageIn p name ("Unknown function '$" ++ name ++ "'")

def wrongCountMessage (p : Position) (name : String) (expected : Arity) (actual : Nat) : String :=
  messageIn p name ("Wrong number of arguments for $" ++ name ++ ": Expected " ++ expected.text
    ++ ", got " ++ toString actual)

def ParseError.message (e : ParseError) : String :=
  let p := e.position
  match e.fault with
  | .endOfScript => messageAt p "Unexpected end of script"
  | .unexpected c => messageAt p ("Unexpected character '" ++ String.singleton c ++ "'")
  | .notUnicode digits => messageAt p ("Invalid unicode character '\\u" ++ digits ++ "'")
  | .unknownFunction name => unknownMessage p name
  | .wrongCount name expected actual => wrongCountMessage p name expected actual
  | .tooDeep name =>
    messageIn p name ("Function calls nested more than " ++ toString maxNesting ++ " deep")

def RuntimeError.message (e : RuntimeError) : String :=
  let p := e.position
  match e.fault with
  | .unsupportedFormat function => messageIn p function "Unsupported format code"
  | .unknownFunction name => unknownMessage p name
  | .wrongCount name expected actual => wrongCountMessage p name expected actual
  | .missingArgument function index => messageIn p function ("No argument " ++ toString index)

def ScriptError.message : ScriptError → String
  | .parse e => e.message
  | .runtime e => e.message

end Retag.Script

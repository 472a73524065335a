import Retag.Calendar.Date
import Retag.Script.Error
import Retag.Script.Tree
import Retag.TagStore

/-!
# Running scripts

A run reads what its host provides and changes a tag store. Changes made before an error stay. The
calls that are being executed are kept as frames, innermost first, so that an error can say where it
arose.
-/

namespace Retag.Script

/-- What is known of the album that a file belongs to. -/
structure Album where
  /-- How many of its tracks have exactly one file. -/
  matched : Nat
  /-- Whether all of them have. -/
  complete : Bool
  deriving DecidableEq, Repr

/-- The file that a script runs for. -/
structure MediaFile where
  album : Option Album
  deriving DecidableEq, Repr

/-- What a run may look at but not change. -/
structure Host where
  file : Option MediaFile
  clock : Calendar.Moment

/-- A call that is being executed. -/
structure Frame where
  function : String
  position : Position
  deriving DecidableEq, Repr

/-- What a run changes. -/
structure RunState where
  tags : TagStore
  frames : List Frame := []

/-- A run that may end in an error; what it changed remains either way. -/
abbrev Eval := ReaderT Host (ExceptT RuntimeError (StateM RunState))

namespace Eval

/-- Runs from a given state. -/
def runFrom (host : Host) (state : RunState) (act : Eval α) : Except RuntimeError α × RunState :=
  (act.run host).run.run state

def tags : Eval TagStore := return (← get).tags

def modifyTags (change : TagStore → TagStore) : Eval Unit :=
  modify fun s => { s with tags := change s.tags }

/-- The value of a tag that a script names; empty if it is absent. -/
def tagValue (name : String) : Eval String := return (← tags).get (internalName name)

/-- The start of the names that `name` unsets together: a namespace with its colon, if `name` ends in
`:*`. -/
def namespace? (name : String) : Option String :=
  match name.toList.reverse with
  | '*' :: ':' :: rest => some (String.ofList (':' :: rest).reverse)
  | _ => none

/-- The store without the tag, or the namespace of tags, that a script names. -/
def unsetIn (name : String) (tags : TagStore) : TagStore :=
  match namespace? (internalName name) with
  | some start => tags.unsetAll start
  | none => tags.unset (internalName name)

/-- The store with a tag that a script names set to a value; the empty value unsets it. -/
def setIn (name value : String) (tags : TagStore) : TagStore :=
  if value.isEmpty then unsetIn name tags else tags.setOne (internalName name) value

def unsetTag (name : String) : Eval Unit := modifyTags (unsetIn name)

def setTag (name value : String) : Eval Unit := modifyTags (setIn name value)

/-- The innermost call that is being executed. -/
def currentFrame : Eval (Option Frame) := return (← get).frames.head?

/-- An error about the innermost call. -/
def errorHere (fault : String → RuntimeFault) : Eval RuntimeError := do
  match ← currentFrame with
  | some f => return ⟨fault f.function, f.position⟩
  | none => return ⟨fault "", .start⟩

/-- An error with an unsupported format, about the innermost call. -/
def unsupportedFormat : Eval RuntimeError := errorHere .unsupportedFormat

/-- Executes a call: its frame is innermost meanwhile and gone afterwards, also after an error. -/
def inFrame (frame : Frame) (act : Eval α) : Eval α := fun host => ExceptT.mk do
  modify fun s => { s with frames := frame :: s.frames }
  let result ← (act.run host).run
  modify fun s => { s with frames := s.frames.tail }
  return result

end Eval

/-- An argument of a call: its tree, and the run that gives its value. -/
structure Argument where
  tree : Tree
  value : Eval String

namespace Argument

/-- Nothing was written for it. -/
def isBlank (a : Argument) : Bool := a.tree.isEmpty

/-- The values of arguments, in order. -/
def valuesOf : List Argument → Eval (List String)
  | [] => return []
  | a :: rest => do
    let v ← a.value
    return v :: (← valuesOf rest)

end Argument

/-- What a running function can find out about a function that scripts may call. -/
structure Signature where
  name : String
  isEager : Bool
  arity : Arity
  doc : String
  deriving Repr

/-- How a function is carried out: on the values of its arguments, or on the arguments, which it
evaluates itself. Either way it may ask which functions there are. -/
inductive Implementation where
  | onValues (run : List Signature → List String → Eval String)
  | onArguments (run : List Signature → List Argument → Eval String)

namespace Implementation

/-- On values, and without asking which functions there are. -/
abbrev eager (run : List String → Eval String) : Implementation := .onValues fun _ => run

/-- On arguments, and without asking which functions there are. -/
abbrev lazy (run : List Argument → Eval String) : Implementation := .onArguments fun _ => run

def isEager : Implementation → Bool
  | .onValues _ => true
  | .onArguments _ => false

end Implementation

/-- A function that scripts may call. The first line of its description shows a call. -/
structure Function where
  name : String
  implementation : Implementation
  arity : Arity
  doc : String

def Function.signature (f : Function) : Signature :=
  ⟨f.name, f.implementation.isEager, f.arity, f.doc⟩

/-- The functions that scripts may call, in the order of their names. -/
structure Registry where
  functions : List Function := []

namespace Registry

def empty : Registry := {}

def insert (f : Function) : List Function → List Function
  | [] => [f]
  | g :: rest =>
    if f.name = g.name then f :: rest
    else if f.name < g.name then f :: g :: rest
    else g :: insert f rest

/-- Adds a function, in place of one with its name. -/
def register (r : Registry) (f : Function) : Registry := ⟨insert f r.functions⟩

def ofList (fs : List Function) : Registry := fs.foldl register empty

def find? (r : Registry) (name : String) : Option Function :=
  r.functions.find? (·.name == name)

/-- The argument counts of the functions, which is all that reading a script asks for. -/
def arity? (r : Registry) (name : String) : Option Arity := (r.find? name).map (·.arity)

def size (r : Registry) : Nat := r.functions.length

def isEmpty (r : Registry) : Bool := r.functions.isEmpty

def signatures (r : Registry) : List Signature := r.functions.map (·.signature)

/-- Carries out a call. The arguments of an eager function are evaluated before the call counts as
being executed. -/
def call (r : Registry) (name : String) (args : List Argument) (position : Position) :
    Eval String :=
  match r.find? name with
  | none => throw ⟨.unknownFunction name, position⟩
  | some f =>
    if f.arity.accepts args.length then
      match f.implementation with
      | .onValues run => do
        let values ← Argument.valuesOf args
        Eval.inFrame ⟨name, position⟩ (run r.signatures values)
      | .onArguments run => Eval.inFrame ⟨name, position⟩ (run r.signatures args)
    else throw ⟨.wrongCount name f.arity args.length, position⟩

end Registry

mutual

/-- The value of a node. -/
def Node.eval (r : Registry) : Node → Eval String
  | .text content => return content
  | .tag name => Eval.tagValue name
  | .call name args position => r.call name (argumentsOf r args) position

/-- The values of the nodes of a tree, one after the other. -/
def evalTree (r : Registry) : Tree → Eval String
  | [] => return ""
  | n :: rest => do
    let first ← n.eval r
    let others ← evalTree r rest
    return first ++ others

/-- The arguments that the trees of a call stand for. -/
def argumentsOf (r : Registry) : List Tree → List Argument
  | [] => []
  | tree :: rest => ⟨tree, evalTree r tree⟩ :: argumentsOf r rest

end

end Retag.Script

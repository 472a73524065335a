import Retag.Script.Eval
import Retag.Script.Parser

/-!
# Sessions

A session runs scripts over one registry and reads each script once: trees are kept under their
source until the session is cleared. Every tree that is read carries a stamp of its own, so two
answers with one stamp are the same tree, not just equal ones. Scripts that cannot be read are not
kept.
-/

namespace Retag.Script

/-- A tree with the stamp of the reading that it came from. -/
structure StampedTree where
  stamp : Nat
  tree : Tree

structure Session where
  registry : Registry
  /-- The trees that are kept, by source. -/
  kept : List (String × StampedTree) := []
  /-- The stamp of the next tree. -/
  next : Nat := 0

namespace Session

/-- The tree of a source, read on first use. -/
def parse (s : Session) (source : String) : Except ParseError StampedTree × Session :=
  match s.kept.lookup source with
  | some tree => (.ok tree, s)
  | none =>
    match Script.parse s.registry.arity? source with
    | .ok tree =>
      let stamped := ⟨s.next, tree⟩
      (.ok stamped, { s with kept := (source, stamped) :: s.kept, next := s.next + 1 })
    | .error e => (.error e, s)

def holds (s : Session) (source : String) : Bool := (s.kept.lookup source).isSome

def size (s : Session) : Nat := s.kept.length

/-- Forgets all trees. -/
def clear (s : Session) : Session := { s with kept := [] }

/-- Runs a script: its value or error, the tags afterwards, and the session afterwards. -/
def run (s : Session) (source : String) (tags : TagStore) (host : Host) :
    Except ScriptError String × TagStore × Session :=
  match s.parse source with
  | (.error e, s) => (.error (.parse e), tags, s)
  | (.ok stamped, s) =>
    match (evalTree s.registry stamped.tree).runFrom host ⟨tags, []⟩ with
    | (.ok value, after) => (.ok value, after.tags, s)
    | (.error e, after) => (.error (.runtime e), after.tags, s)

end Session
end Retag.Script

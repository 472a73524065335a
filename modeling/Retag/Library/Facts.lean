import Retag.Filter
import Retag.Library.Conventions

/-!
# Facts about a file

Performers by role, the album that the file belongs to, and the kind of media.
-/

namespace Retag.Library

open Script

namespace Facts

/-- What stands before a role in the name of a performer tag. -/
def performerStart : List Char := "performer:".toList

/-- The values of the performer tags whose role a filter selects. -/
def performers (filter : Filter) (tags : TagStore) : List String :=
  tags.tags.flatMap fun t =>
    match Text.afterPrefix? performerStart t.name.toList with
    | some role => if filter.selects (String.ofList role) then t.values else []
    | none => []

def performer (args : List String) : Eval String := do
  match Filter.ofText (optional args 0) with
  | .ok filter => return String.intercalate (args.getD 1 ", ") (performers filter (← Eval.tags))
  | .error _ => return ""

/-- The album of the host's file, if it has one. -/
def album? : Eval (Option Album) := return (← read).file.bind (·.album)

def matchedTracks : Eval String := do
  match ← album? with
  | some a => return toString a.matched
  | none => return "0"

def isComplete : Eval String := do
  match ← album? with
  | some a => return truth a.complete
  | none => return ""

def videoTag : String := "_video"

def hasVideo : Eval Bool := do
  let v ← Eval.tagValue videoTag
  return !v.isEmpty && v != "0"

def isVideo : Eval String := return truth (← hasVideo)

def isAudio : Eval String := return truth (!(← hasVideo))

end Facts

/-- Facts about a file. -/
def factFunctions : List Function := [
  ⟨"performer", .eager Facts.performer, .between 0 2,
    "`$performer(pattern=\"\",join=\", \")`\n\n"
      ++ "Returns the performers whose role matches `pattern`, joined with `join`. "
      ++ "`pattern` is a substring of the role, a glob such as `*guitar`, or a regular "
      ++ "expression written as `/re/`."⟩,
  ⟨"matchedtracks", .lazy fun _ => Facts.matchedTracks, .any,
    "`$matchedtracks()`\n\n"
      ++ "Returns the number of matched tracks in the file's album, or `0` when the file "
      ++ "is not part of an album."⟩,
  ⟨"is_complete", .eager fun _ => Facts.isComplete, .exactly 0,
    "`$is_complete()`\n\n"
      ++ "Returns true if every track in the file's album is matched to a single file."⟩,
  ⟨"is_audio", .eager fun _ => Facts.isAudio, .exactly 0,
    "`$is_audio()`\n\n"
      ++ "Returns true if the file being processed is an audio file."⟩,
  ⟨"is_video", .eager fun _ => Facts.isVideo, .exactly 0,
    "`$is_video()`\n\n"
      ++ "Returns true if the file being processed is a video file."⟩]

end Retag.Library

import Retag.Library.Control
import Retag.Library.Dates
import Retag.Library.Facts
import Retag.Library.Lists
import Retag.Library.Numbers
import Retag.Library.Tags
import Retag.Library.Text

/-!
# The standard library
-/

namespace Retag.Library

open Script

/-- All functions of the library. -/
def allFunctions : List Function :=
  controlFunctions ++ tagFunctions ++ textFunctions ++ numberFunctions ++ listFunctions
    ++ dateFunctions ++ factFunctions

/-- The registry of the whole library. -/
def standard : Registry := .ofList allFunctions

end Retag.Library

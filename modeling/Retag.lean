import Retag.Calendar.Date
import Retag.Calendar.Format
import Retag.CommandLine
import Retag.Filter
import Retag.Glob
import Retag.Library.Standard
import Retag.Main
import Retag.Program
import Retag.Regex.Search
import Retag.Regex.Template
import Retag.Script.Parser
import Retag.Script.Session
import Retag.Settings
import Retag.TagStore
import Retag.Text.Integer
import Retag.Text.Search
import Retag.Text.Slice
import Retag.Unicode.Age
import Retag.Unicode.Break
import Retag.Unicode.Case
import Retag.Unicode.Category
import Retag.Unicode.Folding
import Retag.Unicode.Letter
import Retag.Unicode.Script
import Retag.ValueList
import Retag.Proofs.Grammar.Derivation
import Retag.Proofs.Grammar.Reading
import Retag.Proofs.Grammar.Recovery
import Retag.Proofs.Grammar.Trees
import Retag.Proofs.Grammar.Unambiguity
import Retag.Proofs.Grammar.Finality
import Retag.Proofs.Grammar.Places
import Retag.Proofs.Grammar.Concatenation
import Retag.Proofs.Grammar.Printing
import Retag.Proofs.Program.Seeding
import Retag.Proofs.Running.Calls
import Retag.Proofs.Running.Cleanup
import Retag.Proofs.Running.Contracts
import Retag.Proofs.Running.Displacement
import Retag.Proofs.Running.Indifference
import Retag.Proofs.Running.Library
import Retag.Proofs.Running.Loops
import Retag.Proofs.Running.Safety
import Retag.Proofs.Running.Sequence
import Retag.Proofs.Running.Sessions
import Retag.Proofs.Store.Invariant
import Retag.Proofs.Store.Ledger
import Retag.Proofs.Store.Lookup
import Retag.Proofs.Store.Scripts
import Retag.Proofs.Glob.Matching
import Retag.Proofs.Glob.Brackets
import Retag.Proofs.Glob.Filters
import Retag.Proofs.Running.Accesses
import Retag.Proofs.Running.Framing
import Retag.Proofs.Running.Extension
import Retag.Proofs.Running.Traces
import Retag.Proofs.Store.Presence
import Retag.Proofs.Store.Writing
import Retag.Proofs.Running.Hosts
import Retag.Proofs.Running.LoneTags
import Retag.Proofs.Program.CommandLines
import Retag.Proofs.Program.SettingsFiles
import Retag.Proofs.Lists.Making
import Retag.Proofs.Lists.Normal
import Retag.Proofs.Lists.Order
import Retag.Proofs.Running.Repetition
import Retag.Proofs.Running.Surroundings
import Retag.Proofs.Running.Unrolling
import Retag.Proofs.Lists.Representatives
import Retag.Proofs.Lists.Storing
import Retag.Proofs.Numbers.Arithmetic
import Retag.Proofs.Text.Slicing
import Retag.Proofs.Program.SettingsLines
import Retag.Proofs.Regex.Replacements
import Retag.Proofs.Text.Prefixes
import Retag.Proofs.Text.Titles
import Retag.Proofs.Store.Namespaces
import Retag.Proofs.Store.Merging
import Retag.Proofs.Calendar.Reformatting
import Retag.Proofs.Text.Searching
import Retag.Proofs.Text.WholeWords
import Retag.Proofs.Text.Padding
import Retag.Proofs.Numbers.ZeroPadding
import Retag.Proofs.Grammar.Cursors

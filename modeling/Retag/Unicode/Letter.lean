import Retag.Unicode.Category
import Retag.Unicode.Property

/-!
# Letters and numbers in texts

Patterns follow edition 16.0 of the character data, which the tables of categories, scripts and
properties hold. Texts follow edition 17.0: what is a letter, a number or cased in a text is given
by those tables and the code points on which edition 17.0 differs from them.
-/

namespace Retag.Unicode

/-- Where edition 17.0 revises which characters are alphabetic. -/
def alphabeticChanges : CodeSet := .ofGaps
  "2191 1 972 1 127 1 39665 2 2 1 1 1 28 1 24910 26 1387 3 50 2 3172 8 584 44 20676 25 2 25 286 5
    6145 8 1289 22 97 115 22733 31 1 22 8 2 53306 6 5986 12 21762 4298"

/-- Where edition 17.0 revises which characters are numbers. -/
def numberChanges : CodeSet := .ofGaps
  "73184 10 21002 3"

/-- Where edition 17.0 revises which characters have case. -/
def casedChanges : CodeSet := .ofGaps
  "661 1 42296 2 2 1 1 1 28 1 50862 25 2 25"

/-- Where edition 17.0 revises which characters case ignores. -/
def caseIgnorableChanges : CodeSet := .ofGaps
  "6863 15 2 12 36101 1 26323 1 52 2 3172 1 1 3 1 1 626 1 21016 2 30447 1 2 1 7 2 5 1 9 1"

def isAlphabetic (c : Char) : Bool :=
  if c.toNat < 128 then c.isAlpha else Property.alphabetic.containsRevised alphabeticChanges c

/-- Decimal digits, number letters and other numbers. -/
def isNumeric (c : Char) : Bool :=
  (category c).isNumber != numberChanges.contains c

def isAlphanumeric (c : Char) : Bool := isAlphabetic c || isNumeric c

def isCased (c : Char) : Bool := Property.cased.containsRevised casedChanges c

def isCaseIgnorable (c : Char) : Bool :=
  Property.caseIgnorable.containsRevised caseIgnorableChanges c

end Retag.Unicode

import Retag.Unicode.Blank

/-!
# Integers in text

An integer is written as decimal digits after an optional sign. Script integers have sixty-four
bits, with white space around them ignored.
-/

namespace Retag.Text

/-- The number that a non-empty run of decimal digits denotes. -/
def readDigits? (digits : List Char) : Option Nat :=
  if digits.isEmpty || digits.any (!·.isDigit) then none
  else some (digits.foldl (fun n c => 10 * n + (c.toNat - 48)) 0)

/-- A natural number, with an optional `+`. -/
def readNat? : List Char → Option Nat
  | '+' :: digits => readDigits? digits
  | digits => readDigits? digits

def minInteger : Int := -9223372036854775808

def maxInteger : Int := 9223372036854775807

/-- Within sixty-four bits. -/
def isInteger (n : Int) : Bool := minInteger ≤ n && n ≤ maxInteger

/-- `n` if it fits into sixty-four bits. -/
def checkInteger (n : Int) : Option Int := if isInteger n then some n else none

/-- The sixty-four bit integer that a text denotes. -/
def readInteger? (text : String) : Option Int :=
  let value := match (Unicode.trim text).toList with
    | '-' :: digits => (readDigits? digits).map fun n => -(n : Int)
    | '+' :: digits => (readDigits? digits).map Int.ofNat
    | digits => (readDigits? digits).map Int.ofNat
  value.bind checkInteger

/-- The decimal of `n`, filled up with zeros after the sign to `width` characters. -/
def padded (width : Nat) (n : Int) : String :=
  let digits := Nat.toDigits 10 n.natAbs
  let sign := if n < 0 then ['-'] else []
  String.ofList (sign ++ List.replicate (width - sign.length - digits.length) '0' ++ digits)

end Retag.Text

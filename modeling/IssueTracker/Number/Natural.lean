import IssueTracker.Bytes

/-!
# Natural numbers in settings and queries

A natural number is written in decimal digits, of which leading zeros are some. One plus sign may
stand in front. Nothing else may: no minus sign, no space, no separator. A number above the given
bound is refused like one that cannot be read.
-/

namespace IssueTracker.Natural

/-- A decimal digit. -/
def isDigit (c : Char) : Bool := '0' ≤ c && c ≤ '9'

/-- The number that digits write, most significant digit first. -/
def ofDigits (digits : List Char) : Nat :=
  digits.foldl (fun n c => 10 * n + (c.toNat - 0x30)) 0

/-- The digits of a written number, without its sign. -/
def unsigned : List Char → List Char
  | '+' :: digits => digits
  | digits => digits

/-- Read a number up to a bound. -/
def ofText? (bound : Nat) (text : String) : Option Nat :=
  let digits := unsigned text.toList
  if !digits.isEmpty && digits.all isDigit && ofDigits digits ≤ bound then some (ofDigits digits)
  else none

/-- The bound of numbers in 16 bits. -/
def bound16 : Nat := Nat.pow 2 16 - 1

/-- The bound of numbers in 64 bits. -/
def bound64 : Nat := Nat.pow 2 64 - 1

end IssueTracker.Natural

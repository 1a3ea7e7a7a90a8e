/-!
# Octets

Everything that arrives from outside arrives as octets: request bodies, header values, the
segments of a token. A list of them is the common currency of the readers in this library.
Octet lists are finite and in memory; streaming and chunk boundaries are not described.
-/

namespace IssueTracker

/-- Octets in the order they were received. -/
abbrev Bytes := List UInt8

namespace Bytes

/-- The octet of a character below 128. Only literals of this library are passed to it. -/
def ofAscii (c : Char) : UInt8 := c.toNat.toUInt8

/-- An ASCII digit. -/
def isDigit (b : UInt8) : Bool := 0x30 ≤ b && b ≤ 0x39

/-- The value of an ASCII digit. -/
def digitValue (b : UInt8) : Nat := b.toNat - 0x30

/-- The value of a hexadecimal digit of either case. -/
def hexValue? (b : UInt8) : Option Nat :=
  if 0x30 ≤ b && b ≤ 0x39 then some (b.toNat - 0x30)
  else if 0x41 ≤ b && b ≤ 0x46 then some (b.toNat - 0x41 + 10)
  else if 0x61 ≤ b && b ≤ 0x66 then some (b.toNat - 0x61 + 10)
  else none

/-- A hexadecimal digit of either case. -/
def isHex (b : UInt8) : Bool := (hexValue? b).isSome

/-- The number that a run of digits writes, most significant digit first. -/
def decimal (digits : Bytes) : Nat := digits.foldl (fun n d => 10 * n + digitValue d) 0

end Bytes

end IssueTracker

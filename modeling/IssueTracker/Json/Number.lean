import IssueTracker.Json.Basic
import IssueTracker.Number.Shortest

/-!
# What a JSON number amounts to

An integer that fits 64 bits, signed or unsigned, is kept exactly; every other number becomes a
binary one. The conversion gathers at most as many digits as fit an unsigned 64-bit integer,
rounds them once, and rounds a second time when it applies the power of ten, so it is not always
the nearest binary number to the decimal. A number that grows beyond the range is refused, one
that shrinks below it becomes zero.
-/

namespace IssueTracker.Json

/-- The two sorts of number. -/
inductive Number
  /-- An integer from -2 ^ 63 up to 2 ^ 64 - 1. -/
  | integer (value : Int)
  /-- Any other number. -/
  | binary (value : Binary64)
deriving Repr, DecidableEq

/-- The largest unsigned 64-bit integer. -/
def maxUnsigned : Nat := Nat.pow 2 64 - 1

/-- Digits gathered from the left into an integer, and how many of them were used. -/
structure Gathered where
  /-- The integer. -/
  significand : Nat
  /-- The count of digits in it that were taken from this run. -/
  used : Nat

/-- Take digits while the integer stays within 64 bits. The first digit that does not fit ends
the gathering. -/
def gather (sofar : Gathered) : Bytes → Gathered
  | [] => sofar
  | d :: rest =>
    let grown := 10 * sofar.significand + Bytes.digitValue d
    if grown ≤ maxUnsigned then gather ⟨grown, sofar.used + 1⟩ rest else sofar

/-- The power of ten itself is rounded before it is applied. -/
def powerOfTen (n : Nat) : Binary64 := (Binary64.ofNat? (Nat.pow 10 n)).getD ⟨false, 0, 0⟩

/-- An integer times a power of ten, in at most three rounded steps. -/
def scale? (significand : Nat) (power : Int) : Option Binary64 := do
  let x ← Binary64.ofNat? significand
  if x.isZero then return x
  if 308 < power then none
  else if 0 ≤ power then x.mul? (powerOfTen power.toNat)
  else if -308 ≤ power then x.div? (powerOfTen (-power).toNat)
  else if -616 ≤ power then do
    let x ← x.div? (powerOfTen 308)
    x.div? (powerOfTen (-power - 308).toNat)
  else return ⟨false, 0, Binary64.minExponent⟩

/-- The largest exponent that is read digit by digit. -/
def maxExponent : Nat := Nat.pow 2 31 - 1

/-- The magnitude of a number that is not a plain integer within 64 bits. -/
def magnitude? (significand : Nat) (power : Int) : Option Exponent → Option Binary64
  | none => scale? significand power
  | some exponent =>
    let size := Bytes.decimal exponent.digits
    if maxExponent < size then
      if significand ≠ 0 ∧ ¬ exponent.negative then none
      else some ⟨false, 0, Binary64.minExponent⟩
    else scale? significand (if exponent.negative then power - size else power + size)

/-- Give a magnitude the sign it was written with. -/
def signed (negative : Bool) (x : Binary64) : Number :=
  .binary (if negative then x.negate else x)

/-- The number that a numeral stands for, unless it is too large. -/
def Numeral.value? (n : Numeral) : Option Number :=
  let whole := gather ⟨0, 0⟩ n.whole
  let dropped := n.whole.length - whole.used
  if n.fraction.isEmpty && n.exponent.isNone && dropped = 0 then
    if !n.negative then some (.integer whole.significand)
    else if 0 < whole.significand ∧ whole.significand ≤ Nat.pow 2 63 then
      some (.integer (-(whole.significand : Int)))
    else (Binary64.ofNat? whole.significand).map (signed true)
  else
    let all := gather ⟨whole.significand, 0⟩ n.fraction
    (magnitude? all.significand ((dropped : Int) - all.used) n.exponent).map (signed n.negative)

/-- The least integer of 64 bits with sign. -/
def minSigned : Int := -9223372036854775808

/-- The greatest integer of 64 bits with sign. -/
def maxSigned : Int := 9223372036854775807

/-- A number as the integer of 64 bits with sign that it is kept as, if it is. -/
def Number.asSigned? : Number → Option Int
  | .integer value => if minSigned ≤ value ∧ value ≤ maxSigned then some value else none
  | .binary _ => none

/-- A number as a binary one, to which an integer is rounded. -/
def Number.asBinary? : Number → Option Binary64
  | .integer value => Binary64.ofInt? value
  | .binary value => some value

/-- A binary number cut to an integer of 64 bits with sign. Where it lies beyond these, the cut
stops at the last of them. -/
def cutSigned (x : Binary64) : Int := max minSigned (min maxSigned x.truncate)

/-- Whether a binary number reaches one of the two bounds of those integers. Each bound is compared
as a binary number itself, so the upper one is rounded up. -/
def reachesBounds (x : Binary64) : Bool :=
  (Binary64.ofInt? maxSigned).any (·.atMost x) || (Binary64.ofInt? minSigned).any x.atMost

/-- How a number is shown in a message. -/
def Number.render : Number → String
  | .integer value => toString value
  | .binary value => Shortest.render value

/-- The number value that says a natural number. -/
def ofNat (n : Nat) : Json :=
  .number { negative := false, whole := (Nat.toDigits 10 n).map Bytes.ofAscii }

/-- The number value that says an integer. -/
def ofInt (n : Int) : Json :=
  .number { negative := n < 0, whole := (Nat.toDigits 10 n.natAbs).map Bytes.ofAscii }

end IssueTracker.Json

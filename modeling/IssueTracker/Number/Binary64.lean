/-!
# Binary numbers of 53 bits

A finite number in the 64-bit format is an integer of at most 53 bits times a power of two whose
exponent lies between -1074 and 971. Arithmetic here is exact rational arithmetic followed by one
rounding to the nearest such number, a tie going to the even integer. Results above the range are
refused; there are no infinities and no not-a-number.
-/

namespace IssueTracker

/-- The number mantissa · 2 ^ exponent, negated if `negative`. -/
structure Binary64 where
  /-- The sign; a zero has one too. -/
  negative : Bool
  /-- An integer below 2 ^ 53. -/
  mantissa : Nat
  /-- The power of two it is taken times. -/
  exponent : Int
deriving Repr, DecidableEq

namespace Binary64

/-- The smallest exponent of the format. -/
def minExponent : Int := -1074

/-- The largest exponent of the format. -/
def maxExponent : Int := 971

/-- The quotient rounded to the nearest integer, a tie to the even one. -/
def divideToEven (num den : Nat) : Nat :=
  let q := num / den
  let twice := 2 * (num % den)
  if twice < den then q
  else if den < twice then q + 1
  else q + q % 2

/-- A quotient as a fraction over 2 ^ exponent, without rounding. -/
def scaled (num den : Nat) (exponent : Int) : Nat × Nat :=
  if exponent < 0 then (num * Nat.pow 2 (-exponent).toNat, den)
  else (num, den * Nat.pow 2 exponent.toNat)

/-- The exponent at which the quotient of two positive numbers has an integer part of exactly
53 bits, unless the format's range of exponents ends first. -/
def exponentFor (num den : Nat) : Int :=
  let guess : Int := (num.log2 : Int) - (den.log2 : Int) - 53
  let (n, d) := scaled num den guess
  let exact := if n / d < Nat.pow 2 53 then guess else guess + 1
  max exact minExponent

/-- The nearest number to a quotient, or none if it is too large. -/
def ofRatio? (negative : Bool) (num den : Nat) : Option Binary64 :=
  if num = 0 then some ⟨negative, 0, minExponent⟩
  else
    let exponent := exponentFor num den
    let (n, d) := scaled num den exponent
    let mantissa := divideToEven n d
    if mantissa = 0 then some ⟨negative, 0, minExponent⟩
    else
      let rounded : Binary64 :=
        if mantissa = Nat.pow 2 53 then ⟨negative, Nat.pow 2 52, exponent + 1⟩
        else ⟨negative, mantissa, exponent⟩
      if rounded.exponent ≤ maxExponent then some rounded else none

/-- The magnitude as an exact fraction. -/
def magnitude (x : Binary64) : Nat × Nat :=
  if x.exponent < 0 then (x.mantissa, Nat.pow 2 (-x.exponent).toNat)
  else (x.mantissa * Nat.pow 2 x.exponent.toNat, 1)

/-- The magnitude without its fractional part. -/
def wholePart (x : Binary64) : Nat := x.magnitude.1 / x.magnitude.2

/-- The number without its fractional part, so rounded toward zero. -/
def truncate (x : Binary64) : Int := if x.negative then -(x.wholePart : Int) else x.wholePart

/-- The numerator of the exact fraction, with the sign of the number. -/
def numerator (x : Binary64) : Int :=
  if x.negative then -(x.magnitude.1 : Int) else x.magnitude.1

/-- Whether a number is at most another. Zeros of either sign are equal. -/
def atMost (x y : Binary64) : Bool :=
  x.numerator * y.magnitude.2 ≤ y.numerator * x.magnitude.2

/-- The nearest number to a natural number. -/
def ofNat? (n : Nat) : Option Binary64 := ofRatio? false n 1

/-- The nearest number to an integer. -/
def ofInt? (n : Int) : Option Binary64 := ofRatio? (n < 0) n.natAbs 1

/-- The product, rounded once. -/
def mul? (x y : Binary64) : Option Binary64 :=
  let (a, b) := x.magnitude
  let (c, d) := y.magnitude
  ofRatio? (x.negative != y.negative) (a * c) (b * d)

/-- The quotient by a number that is not zero, rounded once. -/
def div? (x y : Binary64) : Option Binary64 :=
  let (a, b) := x.magnitude
  let (c, d) := y.magnitude
  ofRatio? (x.negative != y.negative) (a * d) (b * c)

/-- The number with the other sign. -/
def negate (x : Binary64) : Binary64 := { x with negative := !x.negative }

/-- Whether the number is a zero of either sign. -/
def isZero (x : Binary64) : Bool := x.mantissa = 0

end Binary64

end IssueTracker

import IssueTracker.Number.Binary64

/-!
# The shortest decimal that reads back

Of all decimals that round to a given binary number, the one with the fewest digits is chosen,
and of several with that many digits the nearest. Only the two neighbours of the number on each
decimal grid have to be tried: if any point of a grid rounds to the number, one of these does.

How the digits are laid out is a separate choice, made by `Shortest.render`.
-/

namespace IssueTracker.Shortest

/-- Digits and the power of ten their last one stands at. -/
structure Decimal where
  /-- The digits as one integer. -/
  digits : Nat
  /-- The value is digits · 10 ^ exponent. -/
  exponent : Int
deriving Repr, DecidableEq

/-- A decimal as an exact fraction. -/
def Decimal.ratio (d : Decimal) : Nat × Nat :=
  if d.exponent < 0 then (d.digits, Nat.pow 10 (-d.exponent).toNat)
  else (d.digits * Nat.pow 10 d.exponent.toNat, 1)

/-- Whether a decimal rounds to the magnitude of a number. -/
def readsBack (x : Binary64) (d : Decimal) : Bool :=
  match Binary64.ofRatio? false d.ratio.1 d.ratio.2 with
  | some y => y.mantissa = x.mantissa && y.exponent = x.exponent
  | none => false

/-- The distance of a decimal from a fraction, over the common denominator. -/
def distance (num den : Nat) (d : Decimal) : Nat :=
  let (a, b) := d.ratio
  (a * den - num * b) + (num * b - a * den)

/-- The count of decimal digits of a number; zero has none. -/
def digitCount (n : Nat) : Nat := if n = 0 then 0 else (Nat.toDigits 10 n).length

/-- The power of ten just above a positive fraction: 10 ^ (m - 1) ≤ num / den < 10 ^ m. -/
def magnitudeTen (num den : Nat) : Int :=
  if den ≤ num then digitCount (num / den)
  else
    let zeros := digitCount (den / num)
    if num * Nat.pow 10 zeros < den then -(zeros : Int)
    else 1 - (zeros : Int)

/-- The neighbours of a fraction on the grid 10 ^ exponent, the lower first. -/
def neighbours (num den : Nat) (exponent : Int) : List Decimal :=
  let (n, d) :=
    if exponent < 0 then (num * Nat.pow 10 (-exponent).toNat, den)
    else (num, den * Nat.pow 10 exponent.toNat)
  [⟨n / d, exponent⟩, ⟨n / d + 1, exponent⟩]

/-- The nearer of the neighbours that read back. -/
def hit (x : Binary64) (num den : Nat) (exponent : Int) : Option Decimal :=
  match (neighbours num den exponent).filter (readsBack x) with
  | [] => none
  | [d] => some d
  | low :: high :: _ =>
    if distance num den high < distance num den low then some high
    else if distance num den low < distance num den high then some low
    else if low.digits % 2 = 0 then some low else some high

/-- The first grid with a hit, from the coarsest. Seventeen digits always suffice. -/
def search (x : Binary64) (num den : Nat) (top : Int) : (finer : Nat) → Decimal
  | 0 => ⟨0, 0⟩
  | finer + 1 =>
    match hit x num den (top - (17 - finer)) with
    | some d => d
    | none => search x num den top finer

/-- Move trailing zeros of the digits into the exponent. -/
def Decimal.strip (d : Decimal) : (rounds : Nat) → Decimal
  | 0 => d
  | rounds + 1 =>
    if d.digits ≠ 0 ∧ d.digits % 10 = 0 then
      (Decimal.mk (d.digits / 10) (d.exponent + 1)).strip rounds
    else d

/-- The shortest decimal of a number, nearest among those; zero for zero. -/
def decimal (x : Binary64) : Decimal :=
  if x.isZero then ⟨0, 0⟩
  else
    let (num, den) := x.magnitude
    (search x num den (magnitudeTen num den) 17).strip 20

/-- Decimal digits of an integer. -/
def digitsOf (n : Nat) : List Char := Nat.toDigits 10 n

/-- Digits with a point, at least one digit on each side of it. -/
def positional (digits : List Char) (exponent : Int) : List Char :=
  if 0 ≤ exponent then digits ++ List.replicate exponent.toNat '0' ++ ['.', '0']
  else
    let places := (-exponent).toNat
    if places < digits.length then
      digits.take (digits.length - places) ++ '.' :: digits.drop (digits.length - places)
    else '0' :: '.' :: (List.replicate (places - digits.length) '0' ++ digits)

/-- One digit, a point if more follow, and the power of ten with its sign. -/
def scientific (digits : List Char) (power : Int) : List Char :=
  let tail := digits.drop 1
  digits.take 1 ++ (if tail.isEmpty then [] else '.' :: tail)
    ++ ['e', if power < 0 then '-' else '+'] ++ digitsOf power.natAbs

/-- Numbers from 0.00001 up to, not including, 10 ^ 16 are written with a point, others with a
power of ten. Zero is written with a point. -/
def render (x : Binary64) : String :=
  let d := decimal x
  let digits := digitsOf d.digits
  let power : Int := d.exponent + digits.length - 1
  let body :=
    if d.digits = 0 then ['0', '.', '0']
    else if -5 ≤ power ∧ power < 16 then positional digits d.exponent
    else scientific digits power
  String.ofList (if x.negative then '-' :: body else body)

end IssueTracker.Shortest

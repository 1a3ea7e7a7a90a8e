import IssueTracker.Bytes

/-!
# Characters written in ASCII

A label of a domain name with other characters than ASCII has a written form in ASCII: the ASCII
characters first, then, behind the last hyphen, digits that say where the others are put in and
which ones they are. The digits write numbers of variable length whose thresholds adapt to the
numbers before.
-/

namespace IssueTracker.Punycode

/-- The value of a digit: the letters, then the decimal digits. -/
def digitValue? (c : Char) : Option Nat :=
  if 'a' ≤ c && c ≤ 'z' then some (c.toNat - 0x61)
  else if 'A' ≤ c && c ≤ 'Z' then some (c.toNat - 0x41)
  else if '0' ≤ c && c ≤ '9' then some (c.toNat - 0x30 + 26)
  else none

/-- Reduce a scaled difference until it is small, counting the steps. -/
def reduce : Nat → Nat → Nat → Nat
  | 0, k, delta => k + 36 * delta / (delta + 38)
  | fuel + 1, k, delta =>
    if 455 < delta then reduce fuel (k + 36) (delta / 35) else k + 36 * delta / (delta + 38)

/-- The bias after a number was read. -/
def adapt (delta count : Nat) (isFirst : Bool) : Nat :=
  let scaled := if isFirst then delta / 700 else delta / 2
  let delta := scaled + scaled / count
  reduce delta 0 delta

/-- The threshold of the digit at a place. -/
def threshold (k bias : Nat) : Nat :=
  if k ≤ bias then 1 else if bias + 26 ≤ k then 26 else k - bias

/-- What numbers and the weights of their digits stay below. -/
def limit : Nat := 0x100000000

/-- Read the rest of a number: its value, and the digits behind it. The value starts at the place
of the last character that was put in. -/
def number? (value weight k bias : Nat) : List Char → Option (Nat × List Char)
  | [] => none
  | c :: rest =>
    match digitValue? c with
    | none => none
    | some d =>
      let value := value + d * weight
      let t := threshold k bias
      if limit ≤ value then none
      else if d < t then some (value, rest)
      else if limit ≤ weight * (36 - t) then none
      else number? value (weight * (36 - t)) (k + 36) bias rest

/-- Put in the characters that digits speak of. Each number uses up a digit, so the number of
digits bounds the number of rounds. -/
def fill : Nat → (position code bias : Nat) → List Char → List Char → Option (List Char)
  | _, _, _, _, output, [] => some output
  | 0, _, _, _, _, _ :: _ => none
  | fuel + 1, position, code, bias, output, digits =>
    match number? position 1 36 bias digits with
    | none => none
    | some (total, rest) =>
      let count := output.length + 1
      let place := total % count
      if h : (code + total / count).isValidChar then
        fill fuel (place + 1) (code + total / count)
          (adapt (total - position) count (position = 0))
          (output.take place ++ Char.ofNatAux (code + total / count) h :: output.drop place) rest
      else none

/-- The label that a written form stands for. A hyphen with nothing before it separates nothing,
and is no digit either. -/
def decode? (written : List Char) : Option (List Char) :=
  let digits := (written.reverse.takeWhile (· ≠ '-')).reverse
  let basic := (written.take (written.length - digits.length)).dropLast
  let digits := if basic.isEmpty then written else digits
  if basic.all (·.toNat < 128) then fill digits.length 0 128 72 basic digits else none

end IssueTracker.Punycode

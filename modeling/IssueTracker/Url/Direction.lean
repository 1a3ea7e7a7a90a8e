import IssueTracker.Url.DirectionTable
import IssueTracker.Url.Joining

/-!
# Direction of domain names

A domain name with characters written from right to left must be readable without doubt. Each of
its labels begins with a letter, and all its letters are written in the direction of that one.
Behind the first letter it ends with a letter of that direction or with a digit, marks aside, and
digits of two kinds do not meet in it.
-/

namespace IssueTracker.Domain

open Text (within)

/-- The direction of a character. -/
inductive Direction
  | left
  | right
  | arabicDigit
  | europeanDigit
  | mark
  | neutral
deriving Repr, DecidableEq

/-- The direction of a character. -/
def direction (c : Char) : Direction :=
  let n := c.toNat
  if n < 0x80 then
    if c.isAlpha then .left else if c.isDigit then .europeanDigit else .neutral
  else if within rightToLeftRanges n then .right
  else if within arabicDigitRanges n then .arabicDigit
  else if within europeanDigitRanges n then .europeanDigit
  else if within neutralRanges n then .neutral
  else if isSpacelessMark c && !leftToRightMarks.contains n then .mark
  else .left

/-- Whether a label that begins with a letter of a direction goes on in it. A label without
anything but marks behind its first letter is in order. -/
def goesOn (letter : Direction) (digits : List Direction) (rest : List Direction) : Bool :=
  let significant := (rest.reverse.dropWhile (· = .mark)).reverse
  match significant.getLast? with
  | none => true
  | some last =>
    (last = letter || digits.contains last)
      && significant.all fun d => d = letter || digits.contains d || d = .mark || d = .neutral

/-- Whether a label is readable in a domain name with characters written from right to left. -/
def isReadable (label : List Char) : Bool :=
  match label.map direction with
  | [] => true
  | .left :: rest => goesOn .left [.europeanDigit] rest
  | .right :: rest =>
    goesOn .right [.arabicDigit, .europeanDigit] rest
      && !(rest.contains .arabicDigit && rest.contains .europeanDigit)
  | _ => false

/-- Whether a label has characters written from right to left, or digits that go with them. -/
def hasRightToLeft (label : List Char) : Bool :=
  label.any fun c => direction c = .right || direction c = .arabicDigit

/-- Whether labels make up a domain name that can be read. -/
def areReadable (labels : List (List Char)) : Bool :=
  !labels.any hasRightToLeft || labels.all isReadable

end IssueTracker.Domain

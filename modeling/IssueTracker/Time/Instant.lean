import IssueTracker.Time.Duration

/-!
# Points in time

A point in time is a count of seconds since the start of 1970 in universal time, and a count of
nanoseconds within the second. Calendar dates follow the Gregorian rules for all years, before
their introduction as well; there are no leap seconds. The reading of clocks is not described.
-/

namespace IssueTracker

/-- A point in time. -/
structure Instant where
  /-- Whole seconds since the start of 1970, negative before it. -/
  seconds : Int
  /-- Nanoseconds into the second, below 10 ^ 9. -/
  nanos : Nat := 0
deriving DecidableEq, Repr

namespace Instant

/-- The earlier of two points comes first. -/
def before (a b : Instant) : Bool :=
  a.seconds < b.seconds || (a.seconds = b.seconds && a.nanos < b.nanos)

/-- A calendar date. -/
structure Date where
  year : Int
  month : Nat
  day : Nat
deriving DecidableEq, Repr

/-- The date of a day counted from the start of 1970. Years are taken to begin in March, so that
the leap day ends them; an era is 400 such years. -/
def Date.ofDays (days : Int) : Date :=
  let shifted := days + 719468
  let era := shifted.fdiv 146097
  let dayOfEra := (shifted - era * 146097).toNat
  let yearOfEra := (dayOfEra - dayOfEra / 1460 + dayOfEra / 36524 - dayOfEra / 146096) / 365
  let dayOfYear := dayOfEra - (365 * yearOfEra + yearOfEra / 4 - yearOfEra / 100)
  let monthFromMarch := (5 * dayOfYear + 2) / 153
  let day := dayOfYear - (153 * monthFromMarch + 2) / 5 + 1
  let month := if monthFromMarch < 10 then monthFromMarch + 3 else monthFromMarch - 9
  let year := (yearOfEra : Int) + era * 400 + (if month ≤ 2 then 1 else 0)
  ⟨year, month, day⟩

/-- Years from 0 to 9999 have four digits; others have a sign and at least four. -/
def yearChars (year : Int) : List Char :=
  if 0 ≤ year ∧ year ≤ 9999 then Duration.padded year.toNat 4
  else (if year < 0 then '-' else '+') :: Duration.padded year.natAbs 4

/-- A date as year, month and day. -/
def Date.toChars (d : Date) : List Char :=
  yearChars d.year ++ '-' :: Duration.padded d.month 2 ++ '-' :: Duration.padded d.day 2

/-- Parts of a second with none, three, six or nine digits, whichever are the fewest exact. -/
def fractionChars (nanos : Nat) : List Char :=
  if nanos = 0 then []
  else if nanos % 1000000 = 0 then '.' :: Duration.padded (nanos / 1000000) 3
  else if nanos % 1000 = 0 then '.' :: Duration.padded (nanos / 1000) 6
  else '.' :: Duration.padded nanos 9

/-- The day of a point in time, counted from the start of 1970. -/
def day (t : Instant) : Int := t.seconds.fdiv 86400

/-- The date of a point in time. -/
def date (t : Instant) : Date := Date.ofDays t.day

/-- The time of day. -/
def clockChars (t : Instant) : List Char :=
  let second := (t.seconds - t.day * 86400).toNat
  Duration.padded (second / 3600) 2 ++ ':' :: Duration.padded (second / 60 % 60) 2
    ++ ':' :: Duration.padded (second % 60) 2 ++ fractionChars t.nanos

/-- Date and time for a reader of messages. -/
def display (t : Instant) : String :=
  String.ofList (t.date.toChars ++ ' ' :: t.clockChars ++ [' ', 'U', 'T', 'C'])

/-- Date and time with the offset of universal time written out. -/
def toText (t : Instant) : String :=
  String.ofList (t.date.toChars ++ 'T' :: t.clockChars ++ ['+', '0', '0', ':', '0', '0'])

/-- Date and time with the letter of universal time, as stored records show it. -/
def toShortText (t : Instant) : String :=
  String.ofList (t.date.toChars ++ 'T' :: t.clockChars ++ ['Z'])

/-- The earliest second that can be represented. -/
def minSeconds : Int := -8334601228800

/-- The latest second that can be represented. -/
def maxSeconds : Int := 8210266876799

/-- The start of a second, if it can be represented. -/
def ofSeconds? (seconds : Int) : Option Instant :=
  if minSeconds ≤ seconds ∧ seconds ≤ maxSeconds then some ⟨seconds, 0⟩ else none

end Instant

end IssueTracker

/-!
# Spans of time

A span is a count of nanoseconds. In messages it is written in the largest of the units second,
millisecond, microsecond and nanosecond that it reaches, as a decimal without trailing zeros.
-/

namespace IssueTracker

/-- A span of time. -/
structure Duration where
  /-- Its length in nanoseconds. -/
  nanos : Nat
deriving DecidableEq, Repr

namespace Duration

/-- A span of whole seconds. -/
def ofSeconds (n : Nat) : Duration := ⟨n * 1000000000⟩

/-- A span of whole milliseconds. -/
def ofMillis (n : Nat) : Duration := ⟨n * 1000000⟩

/-- No time at all. -/
def zero : Duration := ⟨0⟩

instance : LE Duration := ⟨fun a b => a.nanos ≤ b.nanos⟩

instance (a b : Duration) : Decidable (a ≤ b) := inferInstanceAs (Decidable (a.nanos ≤ b.nanos))

/-- The shorter of two spans. -/
def least (a b : Duration) : Duration := ⟨min a.nanos b.nanos⟩

/-- A number written with at least so many digits, zeros in front. -/
def padded (n width : Nat) : List Char :=
  let digits := Nat.toDigits 10 n
  List.replicate (width - digits.length) '0' ++ digits

/-- A count of small units as a decimal of a unit that is 10 ^ places times as large. -/
def decimal (n places : Nat) : List Char :=
  let fraction := ((padded (n % Nat.pow 10 places) places).reverse.dropWhile (· = '0')).reverse
  Nat.toDigits 10 (n / Nat.pow 10 places) ++ (if fraction.isEmpty then [] else '.' :: fraction)

/-- The text of a span in messages. -/
def toText (d : Duration) : String :=
  String.ofList <|
    if 1000000000 ≤ d.nanos then decimal d.nanos 9 ++ ['s']
    else if 1000000 ≤ d.nanos then decimal d.nanos 6 ++ ['m', 's']
    else if 1000 ≤ d.nanos then decimal d.nanos 3 ++ ['µ', 's']
    else Nat.toDigits 10 d.nanos ++ ['n', 's']

end Duration

end IssueTracker

import IssueTracker.Bytes

/-!
# Universally unique identifiers

An identifier is a number of 128 bits. It is written as 32 small hexadecimal digits with hyphens
after the 8th, 12th, 16th and 20th. It is read in letters of either case from that form, from the
form without hyphens, from the hyphenated form in braces, and from it behind `urn:uuid:`. The
random bits that new identifiers are made of are supplied from outside.
-/

namespace IssueTracker

/-- An identifier. -/
structure Uuid where
  /-- Its 128 bits. -/
  bits : BitVec 128
deriving DecidableEq, Repr

namespace Uuid

/-- The identifier whose bits are all zero. -/
def zero : Uuid := ⟨0⟩

/-- The identifier that random bits make: those that tell its kind are put in. -/
def ofRandom (bits : BitVec 128) : Uuid :=
  ⟨(bits &&& ~~~(0xF000C000000000000000#128)) ||| 0x40008000000000000000#128⟩

/-- A hexadecimal digit; only values below 16 are passed. -/
def digit (v : Nat) : Char := if v < 10 then Char.ofNat (0x30 + v) else Char.ofNat (0x61 + (v - 10))

/-- The lowest digits of a number, the highest of them first. -/
def digits (n : Nat) : (count : Nat) → List Char
  | 0 => []
  | count + 1 => digit (n / Nat.pow 16 count % 16) :: digits n count

/-- The written form. -/
def toChars (u : Uuid) : List Char :=
  let n := u.bits.toNat
  let group (below count : Nat) := digits (n / Nat.pow 16 below % Nat.pow 16 count) count
  group 24 8 ++ '-' :: group 20 4 ++ '-' :: group 16 4 ++ '-' :: group 12 4 ++ '-' :: group 0 12

/-- The written form as a text. -/
def toText (u : Uuid) : String := String.ofList u.toChars

/-- The value of a hexadecimal digit of either case. -/
def digitValue? (c : Char) : Option Nat :=
  if c.toNat < 128 then Bytes.hexValue? (Bytes.ofAscii c) else none

/-- The number that hexadecimal digits write. -/
def number? (s : List Char) : Option Nat :=
  s.foldlM (fun n c => (digitValue? c).map (16 * n + ·)) 0

/-- Read 32 digits. -/
def ofPlain? (s : List Char) : Option Uuid :=
  if s.length = 32 then (number? s).map fun n => ⟨BitVec.ofNat 128 n⟩ else none

/-- Read the form with hyphens, which stand in their four places and nowhere else. -/
def ofHyphenated? (s : List Char) : Option Uuid :=
  if s.length = 36 && s[8]? = some '-' && s[13]? = some '-' && s[18]? = some '-'
      && s[23]? = some '-' then
    ofPlain? (s.take 8 ++ (s.drop 9).take 4 ++ (s.drop 14).take 4 ++ (s.drop 19).take 4
      ++ s.drop 24)
  else none

/-- The characters that announce an identifier as a resource name, in small letters. -/
def urnMark : List Char := ['u', 'r', 'n', ':', 'u', 'u', 'i', 'd', ':']

/-- Read an identifier in any of its forms. -/
def ofChars? (s : List Char) : Option Uuid :=
  match s.length with
  | 32 => ofPlain? s
  | 36 => ofHyphenated? s
  | 38 =>
    if s.head? = some '\x7b' && s.getLast? = some '\x7d' then ofHyphenated? (s.drop 1).dropLast
    else none
  | 45 => if (s.take 9).map Char.toLower = urnMark then ofHyphenated? (s.drop 9) else none
  | _ => none

/-- Read an identifier from a text. -/
def ofText? (s : String) : Option Uuid := ofChars? s.toList

end Uuid

end IssueTracker

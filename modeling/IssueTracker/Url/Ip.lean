import IssueTracker.Bytes

/-!
# Addresses as hosts

The written forms of internet addresses that a host may have. A host of the older form has up to
four numbers between dots, in decimal, octal or hexadecimal digits, of which the last one fills
all octets that remain. One of the newer form has eight groups of hexadecimal digits between
colons; one stretch of zero groups may be left out, and the last two groups may be written as four
decimal numbers.
-/

namespace IssueTracker.Ip

/-- The value of a digit, up to hexadecimal. -/
def digitValue? (c : Char) : Option Nat :=
  if c.toNat < 128 then Bytes.hexValue? (Bytes.ofAscii c) else none

/-- The number that digits of a base write, if they all are such digits. -/
def number? (base : Nat) (digits : List Char) : Option Nat :=
  digits.foldlM (fun n c =>
    match digitValue? c with
    | some d => if d < base then some (base * n + d) else none
    | none => none) 0

/-- The number that one part of an older address writes. A leading zero announces octal digits, a
zero and an x hexadecimal ones; nothing behind the announcement is zero. -/
def part? : List Char → Option Nat
  | [] => none
  | '0' :: 'x' :: digits | '0' :: 'X' :: digits => number? 16 digits
  | '0' :: d :: digits => number? 8 (d :: digits)
  | digits => number? 10 digits

/-- Whether the last part of a host, an empty one behind it aside, makes the host an older address
or nothing. -/
def endsInNumber (parts : List (List Char)) : Bool :=
  let last := match parts.reverse with
    | [] :: before :: _ => before
    | [] :: [] => []
    | last :: _ => last
    | [] => []
  !last.isEmpty && (last.all Char.isDigit || (part? last).isSome)

/-- Whether the parts of a host are an older address. -/
def isOlder (parts : List (List Char)) : Bool :=
  let parts := if parts.getLast? = some [] then parts.dropLast else parts
  match parts.mapM part? with
  | none => false
  | some numbers =>
    let before := numbers.dropLast
    numbers.length ≤ 4 && before.all (· ≤ 255)
      && numbers.getLast?.any (· < Nat.pow 256 (4 - before.length))


/-- Whether digits are a decimal number up to 255 without leading zeros. -/
def isOctet (digits : List Char) : Bool :=
  !digits.isEmpty && digits.all Char.isDigit && (digits.length = 1 || digits.head? ≠ some '0')
    && (number? 10 digits).any (· ≤ 255)

/-- Cut a text at every occurrence of a character, collecting pieces and characters last first. -/
def splitFrom (mark : Char) (pieces : List (List Char)) (piece : List Char) :
    List Char → List (List Char)
  | [] => (piece.reverse :: pieces).reverse
  | c :: rest =>
    if c = mark then splitFrom mark (piece.reverse :: pieces) [] rest
    else splitFrom mark pieces (c :: piece) rest

/-- The pieces of a text between the occurrences of a character. -/
def split (mark : Char) (text : List Char) : List (List Char) := splitFrom mark [] [] text

/-- Whether a piece is a group of one to four hexadecimal digits. -/
def isGroup (piece : List Char) : Bool :=
  !piece.isEmpty && piece.length ≤ 4 && (number? 16 piece).isSome

/-- How many groups a run of pieces makes, if it makes any: groups, and perhaps four decimal
numbers at the end of the address, which count as two. -/
def groups? (atEnd : Bool) : List (List Char) → Option Nat
  | [] => some 0
  | [last] =>
    if isGroup last then some 1
    else
      let octets := split '.' last
      if atEnd && octets.length = 4 && octets.all isOctet then some 2 else none
  | piece :: rest => if isGroup piece then (groups? atEnd rest).map (· + 1) else none

/-- Cut a text at the first two colons in a row, collecting the characters before them last
first. -/
def cutFrom (before : List Char) : List Char → Option (List Char × List Char)
  | ':' :: ':' :: rest => some (before.reverse, rest)
  | c :: rest => cutFrom (c :: before) rest
  | [] => none

/-- The pieces of a text between colons; none in the empty text. -/
def pieces (text : List Char) : List (List Char) := if text.isEmpty then [] else split ':' text

/-- Whether a text is a newer address. Two colons stand for at least one zero group. -/
def isNewer (text : List Char) : Bool :=
  match cutFrom [] text with
  | none => groups? true (pieces text) = some 8
  | some (front, back) =>
    match groups? false (pieces front), groups? true (pieces back) with
    | some m, some n => m + n ≤ 7
    | _, _ => false

end IssueTracker.Ip

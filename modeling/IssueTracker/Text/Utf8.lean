import IssueTracker.Bytes

/-!
# UTF-8

Characters as octets and back. Reading splits the octets into pieces: a well-formed sequence
gives its character, and an ill-formed stretch gives a gap. A gap covers the longest run of
octets that begins some well-formed sequence, or one octet where none does. The strict reader
refuses any gap; the lenient one puts U+FFFD in its place.
-/

namespace IssueTracker.Utf8

/-- The octets of a text. -/
def encode (s : String) : Bytes := s.toList.flatMap String.utf8EncodeChar

/-- A continuation octet. -/
def isTail (b : UInt8) : Bool := 0x80 ≤ b && b ≤ 0xBF

/-- The range of the second octet depends on the first: it keeps out overlong forms, surrogates
and values above U+10FFFF. -/
def isSecond (lead second : UInt8) : Bool :=
  if lead = 0xE0 then 0xA0 ≤ second && second ≤ 0xBF
  else if lead = 0xED then 0x80 ≤ second && second ≤ 0x9F
  else if lead = 0xF0 then 0x90 ≤ second && second ≤ 0xBF
  else if lead = 0xF4 then 0x80 ≤ second && second ≤ 0x8F
  else isTail second

/-- How many octets follow a leading octet, if it may lead at all. -/
def tails? (lead : UInt8) : Option Nat :=
  if lead < 0x80 then some 0
  else if 0xC2 ≤ lead && lead ≤ 0xDF then some 1
  else if 0xE0 ≤ lead && lead ≤ 0xEF then some 2
  else if 0xF0 ≤ lead && lead ≤ 0xF4 then some 3
  else none

/-- The six payload bits of a continuation octet. -/
def tailBits (b : UInt8) : Nat := b.toNat % 64

/-- Split octets into characters and gaps, collecting the pieces last first. -/
def piecesFrom (done : List (Option Char)) : Bytes → List (Option Char)
  | [] => done.reverse
  | a :: rest =>
    match tails? a with
    | none => piecesFrom (none :: done) rest
    | some 0 => piecesFrom (some (Char.ofNat a.toNat) :: done) rest
    | some more =>
      match rest with
      | [] => (none :: done).reverse
      | b :: rest' =>
        if isSecond a b then
          if more = 1 then
            piecesFrom (some (Char.ofNat (a.toNat % 32 * 64 + tailBits b)) :: done) rest'
          else
            match rest' with
            | [] => (none :: done).reverse
            | c :: rest'' =>
              if isTail c then
                if more = 2 then
                  piecesFrom
                    (some (Char.ofNat (a.toNat % 16 * 4096 + tailBits b * 64 + tailBits c)) :: done)
                    rest''
                else
                  match rest'' with
                  | [] => (none :: done).reverse
                  | d :: rest''' =>
                    if isTail d then
                      piecesFrom
                        (some (Char.ofNat (a.toNat % 8 * 262144 + tailBits b * 4096
                          + tailBits c * 64 + tailBits d)) :: done)
                        rest'''
                    else piecesFrom (none :: done) (d :: rest''')
              else piecesFrom (none :: done) (c :: rest'')
        else piecesFrom (none :: done) (b :: rest')

/-- The characters and gaps of an octet sequence, in order. -/
def pieces (bytes : Bytes) : List (Option Char) := piecesFrom [] bytes

/-- The text that well-formed octets encode. -/
def decode? (bytes : Bytes) : Option String := (pieces bytes).mapM id |>.map String.ofList

/-- The text with one U+FFFD for each ill-formed stretch. -/
def decodeLenient (bytes : Bytes) : String :=
  String.ofList ((pieces bytes).map (·.getD '\uFFFD'))

end IssueTracker.Utf8

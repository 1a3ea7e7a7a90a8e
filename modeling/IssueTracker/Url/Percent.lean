import IssueTracker.Bytes

/-!
# Percent encoding

A percent sign and two hexadecimal digits stand for the octet with that number. A percent sign
that is not followed by two of them stands for itself. Capital digits are written.
-/

namespace IssueTracker.Percent

/-- The capital hexadecimal digit of a number below 16. -/
def digit (n : Nat) : Char := if n < 10 then Char.ofNat (0x30 + n) else Char.ofNat (0x37 + n)

/-- The escape of an octet. -/
def escape (b : UInt8) : List Char := ['%', digit (b.toNat / 16), digit (b.toNat % 16)]

/-- Resolve the escapes of a text, collecting octets last first. -/
def decodeFrom (done : Bytes) : Bytes → Bytes
  | [] => done.reverse
  | [a] => (a :: done).reverse
  | [a, b] => (b :: a :: done).reverse
  | a :: b :: c :: rest =>
    if a = 0x25 then
      match Bytes.hexValue? b, Bytes.hexValue? c with
      | some high, some low => decodeFrom (UInt8.ofNat (16 * high + low) :: done) rest
      | _, _ => decodeFrom (a :: done) (b :: c :: rest)
    else decodeFrom (a :: done) (b :: c :: rest)

/-- The octets that a text stands for. -/
def decode (text : Bytes) : Bytes := decodeFrom [] text

end IssueTracker.Percent

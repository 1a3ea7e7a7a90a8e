import IssueTracker.Bytes

/-!
# The hash function SHA-256

The message is padded to whole blocks of 64 octets, and the blocks are compressed one after the
other into a state of eight words. The message schedule is kept as a window of the sixteen words
that the next rounds need. Messages of 2 ^ 61 octets or more do not occur.
-/

namespace IssueTracker.Sha256

/-- A word turned right. -/
def turned (w places : UInt32) : UInt32 := (w >>> places) ||| (w <<< (32 - places))

/-- The constants of the sixty-four rounds: the first 32 bits of the fractional parts of the cube
roots of the first sixty-four primes. -/
def roundConstants : List UInt32 := [
  0x428A2F98, 0x71374491, 0xB5C0FBCF, 0xE9B5DBA5, 0x3956C25B, 0x59F111F1, 0x923F82A4, 0xAB1C5ED5,
  0xD807AA98, 0x12835B01, 0x243185BE, 0x550C7DC3, 0x72BE5D74, 0x80DEB1FE, 0x9BDC06A7, 0xC19BF174,
  0xE49B69C1, 0xEFBE4786, 0x0FC19DC6, 0x240CA1CC, 0x2DE92C6F, 0x4A7484AA, 0x5CB0A9DC, 0x76F988DA,
  0x983E5152, 0xA831C66D, 0xB00327C8, 0xBF597FC7, 0xC6E00BF3, 0xD5A79147, 0x06CA6351, 0x14292967,
  0x27B70A85, 0x2E1B2138, 0x4D2C6DFC, 0x53380D13, 0x650A7354, 0x766A0ABB, 0x81C2C92E, 0x92722C85,
  0xA2BFE8A1, 0xA81A664B, 0xC24B8B70, 0xC76C51A3, 0xD192E819, 0xD6990624, 0xF40E3585, 0x106AA070,
  0x19A4C116, 0x1E376C08, 0x2748774C, 0x34B0BCB5, 0x391C0CB3, 0x4ED8AA4A, 0x5B9CCA4F, 0x682E6FF3,
  0x748F82EE, 0x78A5636F, 0x84C87814, 0x8CC70208, 0x90BEFFFA, 0xA4506CEB, 0xBEF9A3F7, 0xC67178F2]

/-- The eight words that the compression works on. -/
structure State where
  a : UInt32
  b : UInt32
  c : UInt32
  d : UInt32
  e : UInt32
  f : UInt32
  g : UInt32
  h : UInt32

/-- The state before the first block: the first 32 bits of the fractional parts of the square
roots of the first eight primes. -/
def initial : State :=
  ⟨0x6A09E667, 0xBB67AE85, 0x3C6EF372, 0xA54FF53A, 0x510E527F, 0x9B05688C, 0x1F83D9AB, 0x5BE0CD19⟩

/-- One round with its constant and its word of the schedule. -/
def round (s : State) (constant word : UInt32) : State :=
  let sum₁ := turned s.e 6 ^^^ turned s.e 11 ^^^ turned s.e 25
  let choice := (s.e &&& s.f) ^^^ (~~~s.e &&& s.g)
  let first := s.h + sum₁ + choice + constant + word
  let sum₀ := turned s.a 2 ^^^ turned s.a 13 ^^^ turned s.a 22
  let majority := (s.a &&& s.b) ^^^ (s.a &&& s.c) ^^^ (s.b &&& s.c)
  ⟨first + (sum₀ + majority), s.a, s.b, s.c, s.d + first, s.e, s.f, s.g⟩

/-- The word that follows a window of sixteen. -/
def nextWord (window : List UInt32) : UInt32 :=
  let item (i : Nat) := window.getD i 0
  let small₀ := turned (item 1) 7 ^^^ turned (item 1) 18 ^^^ (item 1 >>> 3)
  let small₁ := turned (item 14) 17 ^^^ turned (item 14) 19 ^^^ (item 14 >>> 10)
  item 0 + small₀ + item 9 + small₁

/-- Run the rounds, one for each constant, sliding the window along. -/
def rounds (s : State) (window : List UInt32) : List UInt32 → State
  | [] => s
  | constant :: rest =>
    rounds (round s constant (window.getD 0 0)) (window.drop 1 ++ [nextWord window]) rest

/-- Octets as words, the first octet of a word being its highest. -/
def words : Bytes → List UInt32
  | a :: b :: c :: d :: rest =>
    (a.toUInt32 <<< 24 ||| b.toUInt32 <<< 16 ||| c.toUInt32 <<< 8 ||| d.toUInt32) :: words rest
  | _ => []

/-- Compress one block into a state. -/
def compress (s : State) (block : Bytes) : State :=
  let t := rounds s (words block) roundConstants
  ⟨s.a + t.a, s.b + t.b, s.c + t.c, s.d + t.d, s.e + t.e, s.f + t.f, s.g + t.g, s.h + t.h⟩

/-- Compress so many blocks from the front of a message. -/
def compressBlocks (s : State) (message : Bytes) : (count : Nat) → State
  | 0 => s
  | count + 1 => compressBlocks (compress s (message.take 64)) (message.drop 64) count

/-- A number as octets, highest first. -/
def octets (n : Nat) : (count : Nat) → Bytes
  | 0 => []
  | count + 1 => UInt8.ofNat (n / Nat.pow 256 count) :: octets n count

/-- A message with a one bit, zeros up to the end of a block, and its length in bits. -/
def padded (message : Bytes) : Bytes :=
  let zeros := (119 - message.length % 64) % 64
  message ++ 0x80 :: (List.replicate zeros 0 ++ octets (8 * message.length) 8)

/-- The octets of a state. -/
def State.octets (s : State) : Bytes :=
  [s.a, s.b, s.c, s.d, s.e, s.f, s.g, s.h].flatMap fun w => Sha256.octets w.toNat 4

/-- The digest of a message: 32 octets. -/
def digest (message : Bytes) : Bytes :=
  let text := padded message
  (compressBlocks initial text (text.length / 64)).octets

end IssueTracker.Sha256

import IssueTracker.Crypto.Sha256

/-!
# RSA signatures with SHA-256

Checking of signatures in the scheme RSASSA-PKCS1-v1_5. The public key comes as the octets of its
modulus and exponent. The size and form rules of keys and signatures are part of the check: a key
outside them verifies nothing. Signing and private keys are not described.
-/

namespace IssueTracker.Rsa

/-- The number that octets write, highest first. -/
def number (bytes : Bytes) : Nat := bytes.foldl (fun n b => 256 * n + b.toNat) 0

/-- A power modulo a number, by squaring; as many steps as the exponent has bits are enough. -/
def powerWithin (modulus : Nat) : (steps : Nat) → (base exponent product : Nat) → Nat
  | 0, _, _, product => product
  | steps + 1, base, exponent, product =>
    if exponent = 0 then product
    else
      powerWithin modulus steps (base * base % modulus) (exponent / 2)
        (if exponent % 2 = 1 then product * base % modulus else product)

/-- A power modulo a number. -/
def power (base exponent modulus : Nat) : Nat :=
  powerWithin modulus (exponent.log2 + 1) (base % modulus) exponent (1 % modulus)

/-- A public key as published. -/
structure PublicKey where
  /-- The octets of the modulus. -/
  modulus : Bytes
  /-- The octets of the exponent. -/
  exponent : Bytes
deriving Repr, DecidableEq

namespace PublicKey

/-- A number published as octets has none too many in front and at least one. -/
def isMinimal : Bytes → Bool
  | [] => false
  | first :: _ => first != 0

/-- The rules for keys: an odd modulus of 2048 to 8192 bits and an odd exponent above one of at
most 33 bits, both without superfluous octets. -/
def isUsable (key : PublicKey) : Bool :=
  let n := number key.modulus
  let e := number key.exponent
  isMinimal key.modulus && isMinimal key.exponent && 2047 ≤ n.log2 && n.log2 < 8192
    && n % 2 = 1 && e % 2 = 1 && 1 < e && e.log2 < 33

end PublicKey

/-- The octets that name SHA-256 in front of a digest. -/
def digestName : Bytes :=
  [0x30, 0x31, 0x30, 0x0D, 0x06, 0x09, 0x60, 0x86, 0x48, 0x01, 0x65, 0x03, 0x04, 0x02, 0x01, 0x05,
    0x00, 0x04, 0x20]

/-- The padded digest of a message, filling so many octets. -/
def encoded (message : Bytes) (length : Nat) : Bytes :=
  let tail := digestName ++ Sha256.digest message
  0x00 :: 0x01 :: (List.replicate (length - 3 - tail.length) 0xFF ++ 0x00 :: tail)

/-- Whether a signature is good for a message under a key. The signature is as long as the
modulus and below it, and its power is the padded digest, octet for octet. -/
def verifies (key : PublicKey) (message signature : Bytes) : Bool :=
  let n := number key.modulus
  key.isUsable && signature.length = key.modulus.length && number signature < n
    && Sha256.octets (power (number signature) (number key.exponent) n) key.modulus.length
      == encoded message key.modulus.length

end IssueTracker.Rsa

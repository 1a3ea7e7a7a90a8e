import IssueTracker.Crypto.Rsa
import Mathlib.Data.Nat.ModEq
import Mathlib.Data.Nat.Size
import Mathlib.Tactic.Linarith
import Mathlib.Tactic.Ring

/-!
# What a good signature is

Octets are numbers, and squaring computes powers. So the check of a signature is the verification
of RSASSA-PKCS1-v1_5 with SHA-256: the power of the signature, as a number, is the number of the
padded digest, which is padded with at least eight octets because of the size of the modulus.
-/

namespace IssueTracker.Rsa

/-! ## Numbers and octets -/

/-- The octets behind the first add less than one of its units. -/
theorem number_append (front back : Bytes) :
    number (front ++ back) = number front * 256 ^ back.length + number back := by
  have folded (back : Bytes) (n : Nat) :
      back.foldl (fun n b => 256 * n + b.toNat) n =
        n * 256 ^ back.length + back.foldl (fun n b => 256 * n + b.toNat) 0 := by
    induction back generalizing n with
    | nil => simp
    | cons b rest inductionHypothesis =>
      simp only [List.foldl_cons, List.length_cons]
      rw [inductionHypothesis (256 * n + b.toNat), inductionHypothesis (256 * 0 + b.toNat)]
      ring
  rw [number, List.foldl_append]
  exact folded back _

/-- An octet more in front counts as often as there are numbers of the others. -/
theorem number_cons (b : UInt8) (rest : Bytes) :
    number (b :: rest) = b.toNat * 256 ^ rest.length + number rest := by
  have front : number [b] = b.toNat := by simp [number]
  rw [← List.singleton_append, number_append, front]

/-- The number that octets write is below the power of 256 that their count gives. -/
theorem number_lt (bytes : Bytes) : number bytes < 256 ^ bytes.length := by
  induction bytes with
  | nil => simp [number]
  | cons b rest inductionHypothesis =>
    have octet : b.toNat < 256 := b.toNat_lt
    rw [number_cons, List.length_cons, pow_succ]
    nlinarith

/-- The number of so many octets has no more bits than they. -/
theorem size_number_le (bytes : Bytes) : (number bytes).size ≤ 8 * bytes.length := by
  rw [Nat.size_le, pow_mul]
  exact number_lt bytes

/-- A number is written in as many octets as are asked for. -/
theorem length_octets (n count : Nat) : (Sha256.octets n count).length = count := by
  induction count with
  | zero => rfl
  | succ count inductionHypothesis => simp [Sha256.octets, inductionHypothesis]

/-- The lowest octets of a number do not depend on what stands in front of them. -/
theorem octets_add_mul (n above count : Nat) :
    Sha256.octets (above * 256 ^ count + n) count = Sha256.octets n count := by
  induction count generalizing above with
  | zero => rfl
  | succ count inductionHypothesis =>
    have shifted : above * 256 ^ (count + 1) + n = above * 256 * 256 ^ count + n := by ring
    have positive : 0 < 256 ^ count := Nat.pow_pos (by decide)
    have top : UInt8.ofNat ((above * 256 * 256 ^ count + n) / 256 ^ count) =
        UInt8.ofNat (n / 256 ^ count) := by
      rw [Nat.mul_comm, Nat.mul_add_div positive, UInt8.ofNat_eq_iff_mod_eq_toNat]
      simp
    simp only [Sha256.octets, Nat.pow_eq, shifted, top, inductionHypothesis (above * 256)]

/-- Octets are those in which the number is written that they write. -/
theorem octets_number (bytes : Bytes) : Sha256.octets (number bytes) bytes.length = bytes := by
  induction bytes with
  | nil => rfl
  | cons b rest inductionHypothesis =>
    have positive : 0 < 256 ^ rest.length := Nat.pow_pos (by decide)
    have top : number (b :: rest) / 256 ^ rest.length = b.toNat := by
      rw [number_cons, Nat.mul_comm, Nat.mul_add_div positive, Nat.div_eq_of_lt (number_lt rest),
        Nat.add_zero]
    simp only [List.length_cons, Sha256.octets, Nat.pow_eq, top]
    rw [number_cons, octets_add_mul, inductionHypothesis]
    simp

/-- Of a number as many octets are written as are asked for, the lowest ones. -/
theorem number_octets (n count : Nat) : number (Sha256.octets n count) = n % 256 ^ count := by
  induction count with
  | zero => simp [Sha256.octets, number, Nat.mod_one]
  | succ count inductionHypothesis =>
    have top : (UInt8.ofNat (n / 256 ^ count)).toNat = n / 256 ^ count % 256 := UInt8.toNat_ofNat'
    simp only [Sha256.octets, Nat.pow_eq]
    rw [number_cons, inductionHypothesis, length_octets, top, Nat.mod_pow_succ]
    ring

/-- A number that fits so many octets is written as given ones exactly if it is theirs. -/
theorem octets_eq_iff {n : Nat} {bytes : Bytes} (small : n < 256 ^ bytes.length) :
    Sha256.octets n bytes.length = bytes ↔ n = number bytes := by
  constructor
  · intro written
    rw [← written, number_octets, Nat.mod_eq_of_lt small]
  · rintro rfl
    exact octets_number bytes

/-! ## Powers -/

/-- Squaring multiplies a product by a power, if there are as many steps as the exponent has
bits. -/
theorem powerWithin_eq {modulus steps base exponent product : Nat}
    (reduced : product % modulus = product) (enough : exponent < 2 ^ steps) :
    powerWithin modulus steps base exponent product = product * base ^ exponent % modulus := by
  induction steps generalizing base exponent product with
  | zero =>
    obtain rfl : exponent = 0 := by simpa using enough
    simp [powerWithin, reduced]
  | succ steps inductionHypothesis =>
    by_cases exhausted : exponent = 0
    · simp [powerWithin, exhausted, reduced]
    · have fewer : exponent / 2 < 2 ^ steps := by
        rw [pow_succ] at enough
        omega
      have squared : (base * base % modulus) ^ (exponent / 2) ≡ base ^ (2 * (exponent / 2))
          [MOD modulus] := by
        rw [pow_mul, pow_two]
        exact (Nat.mod_modEq _ _).pow _
      simp only [powerWithin, exhausted, if_false]
      by_cases odd : exponent % 2 = 1
      · have whole : exponent = 2 * (exponent / 2) + 1 := by omega
        rw [if_pos odd, inductionHypothesis (Nat.mod_mod _ _) fewer]
        calc product * base % modulus * (base * base % modulus) ^ (exponent / 2)
            ≡ product * base * base ^ (2 * (exponent / 2)) [MOD modulus] :=
              (Nat.mod_modEq _ _).mul squared
          _ = product * base ^ exponent := by
              have split : base ^ exponent = base ^ (2 * (exponent / 2)) * base := by
                rw [← pow_succ, ← whole]
              rw [split]
              ring
      · have whole : exponent = 2 * (exponent / 2) := by omega
        rw [if_neg odd, inductionHypothesis reduced fewer]
        calc product * (base * base % modulus) ^ (exponent / 2)
            ≡ product * base ^ (2 * (exponent / 2)) [MOD modulus] := squared.mul_left _
          _ = product * base ^ exponent := by rw [← whole]

/-- The power that is computed is the power. -/
theorem power_eq (base exponent modulus : Nat) :
    power base exponent modulus = base ^ exponent % modulus := by
  rw [power, powerWithin_eq (Nat.mod_mod _ _) Nat.lt_log2_self]
  calc 1 % modulus * (base % modulus) ^ exponent
      ≡ 1 * base ^ exponent [MOD modulus] := (Nat.mod_modEq _ _).mul ((Nat.mod_modEq _ _).pow _)
    _ = base ^ exponent := Nat.one_mul _

/-! ## Keys -/

/-- The rules for keys, as rules for the numbers that they publish and for their sizes in bits. -/
structure PublicKey.Usable (key : PublicKey) : Prop where
  /-- The modulus is published without superfluous octets. -/
  modulusShort : key.modulus.head? ≠ some 0
  exponentShort : key.exponent.head? ≠ some 0
  large : 2048 ≤ (number key.modulus).size
  small : (number key.modulus).size ≤ 8192
  modulusOdd : Odd (number key.modulus)
  exponentOdd : Odd (number key.exponent)
  proper : 1 < number key.exponent
  moderate : (number key.exponent).size ≤ 33

/-- A number above zero has an octet in front, and it is not superfluous if it is not zero. -/
theorem isMinimal_iff {bytes : Bytes} (positive : 0 < number bytes) :
    PublicKey.isMinimal bytes = true ↔ bytes.head? ≠ some 0 := by
  cases bytes with
  | nil => simp [number] at positive
  | cons first rest => simp [PublicKey.isMinimal]

/-- Above zero the size is one more than the logarithm. -/
theorem size_eq_log2_add_one {n : Nat} (positive : 0 < n) : n.size = n.log2 + 1 := by
  apply Nat.le_antisymm
  · exact Nat.size_le.mpr Nat.lt_log2_self
  · exact Nat.lt_size.mpr (Nat.log2_self_le positive.ne')

/-- The checks of a key are those of its numbers. -/
theorem isUsable_iff {key : PublicKey} : key.isUsable = true ↔ key.Usable := by
  simp only [PublicKey.isUsable, Bool.and_eq_true, decide_eq_true_eq, ← Nat.odd_iff]
  constructor
  · rintro ⟨⟨⟨⟨⟨⟨⟨modulusShort, exponentShort⟩, long⟩, bounded⟩, modulusOdd⟩, exponentOdd⟩, proper⟩,
      brief⟩
    have size := size_eq_log2_add_one modulusOdd.pos
    have exponentSize := size_eq_log2_add_one exponentOdd.pos
    exact {
      modulusShort := (isMinimal_iff modulusOdd.pos).mp modulusShort
      exponentShort := (isMinimal_iff exponentOdd.pos).mp exponentShort
      large := by omega
      small := by omega
      modulusOdd
      exponentOdd
      proper
      moderate := by omega }
  · rintro ⟨modulusShort, exponentShort, large, small, modulusOdd, exponentOdd, proper, moderate⟩
    have size := size_eq_log2_add_one modulusOdd.pos
    have exponentSize := size_eq_log2_add_one exponentOdd.pos
    exact ⟨⟨⟨⟨⟨⟨⟨(isMinimal_iff modulusOdd.pos).mpr modulusShort,
      (isMinimal_iff exponentOdd.pos).mpr exponentShort⟩, by omega⟩, by omega⟩, modulusOdd⟩,
      exponentOdd⟩, proper⟩, by omega⟩

/-- The modulus of a usable key takes 256 octets at least. -/
theorem PublicKey.Usable.length_modulus {key : PublicKey} (usable : key.Usable) :
    256 ≤ key.modulus.length := by
  have large := usable.large
  have room := size_number_le key.modulus
  omega

/-! ## Padding -/

/-- Whether octets are the padding of a message's digest: a zero and a one, at least eight octets
of filling, a zero, the name of the hash function, and the digest. -/
def Pads (padding message : Bytes) : Prop :=
  ∃ filling, 8 ≤ filling ∧ padding =
    [0x00, 0x01] ++ List.replicate filling 0xFF ++ [0x00] ++ digestName ++ Sha256.digest message

/-- A digest has 32 octets. -/
theorem length_digest (message : Bytes) : (Sha256.digest message).length = 32 := by
  simp [Sha256.digest, Sha256.State.octets, length_octets]

/-- A padding of a message of at least 62 octets is determined by its length, and it is the one that
is compared. -/
theorem encoded_eq_iff {message padding : Bytes} (long : 62 ≤ padding.length) :
    encoded message padding.length = padding ↔ Pads padding message := by
  have named : digestName.length = 19 := rfl
  constructor
  · intro written
    refine ⟨padding.length - 54, by omega, ?_⟩
    rw [← written]
    simp [encoded, length_digest, named, Nat.sub_sub]
  · rintro ⟨filling, -, rfl⟩
    simp [encoded, length_digest, named]

/-! ## Signatures -/

/-- What makes a signature good for a message under a key: it is as long as the modulus and below
it, and its power is the padding of the message's digest. -/
structure Signs (key : PublicKey) (message signature : Bytes) : Prop where
  usable : key.Usable
  length : signature.length = key.modulus.length
  below : number signature < number key.modulus
  power : ∃ padding, padding.length = key.modulus.length ∧ Pads padding message ∧
    number signature ^ number key.exponent % number key.modulus = number padding

/-- Exactly the good signatures are found good. -/
theorem verifies_iff {key : PublicKey} {message signature : Bytes} :
    verifies key message signature = true ↔ Signs key message signature := by
  simp only [verifies, Bool.and_eq_true, decide_eq_true_eq, beq_iff_eq, isUsable_iff, power_eq]
  constructor
  · rintro ⟨⟨⟨usable, length⟩, below⟩, padded⟩
    have long := usable.length_modulus
    have filled : (encoded message key.modulus.length).length = key.modulus.length := by
      rw [← padded, length_octets]
    refine ⟨usable, length, below, encoded message key.modulus.length, filled, ?_, ?_⟩
    · rw [← encoded_eq_iff (by omega), filled]
    · have reduced := Nat.mod_lt (number signature ^ number key.exponent) usable.modulusOdd.pos
      have small := reduced.trans (number_lt key.modulus)
      rw [← filled] at small padded
      exact (octets_eq_iff small).mp (by rw [padded, filled])
  · rintro ⟨usable, length, below, padding, filled, pads, raised⟩
    have long := usable.length_modulus
    refine ⟨⟨⟨usable, length⟩, below⟩, ?_⟩
    rw [raised, ← filled, octets_number]
    exact ((encoded_eq_iff (by omega)).mpr pads).symm

end IssueTracker.Rsa

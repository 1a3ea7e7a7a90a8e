import IssueTracker.Text.Utf8
import Mathlib.Data.List.Basic

/-!
# Texts and their octets

Distinct texts have distinct octets, and a text of ASCII characters has one octet for each of
them. Whatever is found out about the octets of a segment is thereby known of its text. The octets
of a text are read as that text again, and one below 128 at the front of them is a character by
itself.
-/

namespace IssueTracker.Utf8

/-- The octets of a text determine it: they are those in which strings are kept. -/
theorem encode_injective {s t : String} (same : encode s = encode t) : s = t := by
  have kept (text : String) : (encode text).toByteArray = text.toByteArray := by
    rw [← String.utf8Encode_toList]
    rfl
  rw [← String.toByteArray_inj, ← kept s, ← kept t, same]

/-- The octets of two texts in a row are those of one behind those of the other. -/
theorem encode_append (s t : String) : encode (s ++ t) = encode s ++ encode t := by
  simp [encode]

/-- A character below 128 is one octet. -/
theorem encodeChar_ascii {c : Char} (ascii : c.toNat < 0x80) :
    String.utf8EncodeChar c = [Bytes.ofAscii c] := by
  have small : c.val.toNat ≤ 127 := Nat.le_of_lt_succ ascii
  rw [String.utf8EncodeChar, if_pos small]
  rfl

/-- An ASCII text has one octet for each character. -/
theorem encode_ascii {text : String} (ascii : ∀ c ∈ text.toList, c.toNat < 0x80) :
    encode text = text.toList.map Bytes.ofAscii := by
  calc
    encode text = text.toList.flatMap fun c => [Bytes.ofAscii c] :=
      List.flatMap_congr fun c member => encodeChar_ascii (ascii c member)
    _ = text.toList.map Bytes.ofAscii := List.map_eq_flatMap.symm

section Octets

/-- How many octets follow a leading one, by its number. -/
theorem tails?_eq (lead : UInt8) :
    tails? lead =
      if lead.toNat < 0x80 then some 0
      else if 0xC2 ≤ lead.toNat ∧ lead.toNat ≤ 0xDF then some 1
      else if 0xE0 ≤ lead.toNat ∧ lead.toNat ≤ 0xEF then some 2
      else if 0xF0 ≤ lead.toNat ∧ lead.toNat ≤ 0xF4 then some 3
      else none := by
  simp [tails?, UInt8.lt_iff_toNat_lt, UInt8.le_iff_toNat_le]

/-- A continuation octet, by its number. -/
theorem isTail_iff {b : UInt8} : isTail b = true ↔ 0x80 ≤ b.toNat ∧ b.toNat ≤ 0xBF := by
  simp [isTail, UInt8.le_iff_toNat_le]

/-- A continuation octet follows a leading one at once, unless the leading one is one of four that
leave it a smaller range. -/
theorem isSecond_of_isTail {lead second : UInt8} (tail : isTail second = true)
    (long : lead.toNat = 0xE0 → 0xA0 ≤ second.toNat)
    (unpaired : lead.toNat = 0xED → second.toNat ≤ 0x9F)
    (longer : lead.toNat = 0xF0 → 0x90 ≤ second.toNat)
    (last : lead.toNat = 0xF4 → second.toNat ≤ 0x8F) :
    isSecond lead second = true := by
  obtain ⟨low, high⟩ := isTail_iff.mp tail
  by_cases three : lead.toNat = 0xE0
  · simp [isSecond, ← UInt8.toNat_inj, UInt8.le_iff_toNat_le, three, long three, high]
  by_cases surrogate : lead.toNat = 0xED
  · simp [isSecond, ← UInt8.toNat_inj, UInt8.le_iff_toNat_le, surrogate, unpaired surrogate, low]
  by_cases four : lead.toNat = 0xF0
  · simp [isSecond, ← UInt8.toNat_inj, UInt8.le_iff_toNat_le, four, longer four, high]
  by_cases highest : lead.toNat = 0xF4
  · simp [isSecond, ← UInt8.toNat_inj, UInt8.le_iff_toNat_le, highest, last highest, low]
  · simp [isSecond, ← UInt8.toNat_inj, three, surrogate, four, highest, tail]

end Octets

section Pieces

variable {done : List (Option Char)} {rest : Bytes} {v : Nat}

/-- An octet that is computed within range is the number it is computed as. -/
theorem toNat_octet {n : Nat} (small : n < 256) : (UInt8.ofNat n).toNat = n := by
  simp [Nat.mod_eq_of_lt small]

/-- Six bits make a continuation octet. -/
theorem isTail_octet (bits : Nat) :
    (UInt8.ofNat (bits % 64 + 128)).toNat = bits % 64 + 128 ∧
      isTail (UInt8.ofNat (bits % 64 + 128)) = true ∧
      tailBits (UInt8.ofNat (bits % 64 + 128)) = bits % 64 := by
  have octet : (UInt8.ofNat (bits % 64 + 128)).toNat = bits % 64 + 128 := toNat_octet (by omega)
  refine ⟨octet, ?_, ?_⟩
  · rw [isTail_iff, octet]
    omega
  · rw [tailBits, octet]
    omega

/-- An octet below 128 is read as the character of that number. -/
theorem piecesFrom_one (small : v ≤ 0x7F) :
    piecesFrom done (UInt8.ofNat v :: rest) = piecesFrom (some (Char.ofNat v) :: done) rest := by
  have octet : (UInt8.ofNat v).toNat = v := toNat_octet (by omega)
  have alone : tails? (UInt8.ofNat v) = some 0 := by
    rw [tails?_eq, octet, if_pos (by omega)]
  rw [piecesFrom, alone]
  simp only [octet]

/-- Eleven bits in two octets are read as the character of that number. -/
theorem piecesFrom_two (low : 0x80 ≤ v) (high : v ≤ 0x7FF) :
    piecesFrom done (UInt8.ofNat (v / 64 % 32 + 192) :: UInt8.ofNat (v % 64 + 128) :: rest) =
      piecesFrom (some (Char.ofNat v) :: done) rest := by
  have octet : (UInt8.ofNat (v / 64 % 32 + 192)).toNat = v / 64 % 32 + 192 :=
    toNat_octet (by omega)
  obtain ⟨-, tail, bits⟩ := isTail_octet v
  have one : tails? (UInt8.ofNat (v / 64 % 32 + 192)) = some 1 := by
    rw [tails?_eq, octet, if_neg (by omega), if_pos (by omega)]
  have fits : isSecond (UInt8.ofNat (v / 64 % 32 + 192)) (UInt8.ofNat (v % 64 + 128)) = true := by
    apply isSecond_of_isTail tail <;> omega
  have whole : (v / 64 % 32 + 192) % 32 * 64 + v % 64 = v := by omega
  rw [piecesFrom, one]
  simp only [fits, octet, bits, whole, if_true]

/-- Sixteen bits in three octets are read as the character of that number, if it is no half of a
surrogate pair. -/
theorem piecesFrom_three (low : 0x800 ≤ v) (high : v ≤ 0xFFFF) (paired : v < 0xD800 ∨ 0xDFFF < v) :
    piecesFrom done (UInt8.ofNat (v / 4096 % 16 + 224) :: UInt8.ofNat (v / 64 % 64 + 128) ::
        UInt8.ofNat (v % 64 + 128) :: rest) =
      piecesFrom (some (Char.ofNat v) :: done) rest := by
  have octet : (UInt8.ofNat (v / 4096 % 16 + 224)).toNat = v / 4096 % 16 + 224 :=
    toNat_octet (by omega)
  obtain ⟨second, tail, bits⟩ := isTail_octet (v / 64)
  obtain ⟨-, lastTail, lastBits⟩ := isTail_octet v
  have two : tails? (UInt8.ofNat (v / 4096 % 16 + 224)) = some 2 := by
    rw [tails?_eq, octet, if_neg (by omega), if_neg (by omega), if_pos (by omega)]
  have fits : isSecond (UInt8.ofNat (v / 4096 % 16 + 224)) (UInt8.ofNat (v / 64 % 64 + 128)) =
      true := by
    apply isSecond_of_isTail tail <;> omega
  have whole : (v / 4096 % 16 + 224) % 16 * 4096 + v / 64 % 64 * 64 + v % 64 = v := by omega
  rw [piecesFrom, two]
  simp only [fits, lastTail, octet, bits, lastBits, whole, if_true, Nat.reduceEqDiff, if_false]

/-- Twenty-one bits in four octets are read as the character of that number. -/
theorem piecesFrom_four (low : 0x10000 ≤ v) (high : v ≤ 0x10FFFF) :
    piecesFrom done (UInt8.ofNat (v / 262144 % 8 + 240) :: UInt8.ofNat (v / 4096 % 64 + 128) ::
        UInt8.ofNat (v / 64 % 64 + 128) :: UInt8.ofNat (v % 64 + 128) :: rest) =
      piecesFrom (some (Char.ofNat v) :: done) rest := by
  have octet : (UInt8.ofNat (v / 262144 % 8 + 240)).toNat = v / 262144 % 8 + 240 :=
    toNat_octet (by omega)
  obtain ⟨second, tail, bits⟩ := isTail_octet (v / 4096)
  obtain ⟨-, thirdTail, thirdBits⟩ := isTail_octet (v / 64)
  obtain ⟨-, lastTail, lastBits⟩ := isTail_octet v
  have three : tails? (UInt8.ofNat (v / 262144 % 8 + 240)) = some 3 := by
    rw [tails?_eq, octet, if_neg (by omega), if_neg (by omega), if_neg (by omega),
      if_pos (by omega)]
  have fits : isSecond (UInt8.ofNat (v / 262144 % 8 + 240)) (UInt8.ofNat (v / 4096 % 64 + 128)) =
      true := by
    apply isSecond_of_isTail tail <;> omega
  have whole : (v / 262144 % 8 + 240) % 8 * 262144 + v / 4096 % 64 * 4096 + v / 64 % 64 * 64
      + v % 64 = v := by omega
  rw [piecesFrom, three]
  simp only [fits, thirdTail, lastTail, octet, bits, thirdBits, lastBits, whole, if_true,
    Nat.reduceEqDiff, if_false]

/-- The octets of a character are read as that character, however many they are. -/
theorem piecesFrom_char (c : Char) :
    piecesFrom done (String.utf8EncodeChar c ++ rest) = piecesFrom (some c :: done) rest := by
  have same : Char.ofNat c.val.toNat = c := Char.ofNat_toNat c
  have valid : c.val.toNat < 0xD800 ∨ 0xDFFF < c.val.toNat ∧ c.val.toNat < 0x110000 := c.valid
  by_cases one : c.val.toNat ≤ 0x7F
  · rw [String.utf8EncodeChar, if_pos one, List.singleton_append, piecesFrom_one one, same]
  by_cases two : c.val.toNat ≤ 0x7FF
  · rw [String.utf8EncodeChar, if_neg one, if_pos two]
    simp only [List.cons_append, List.nil_append]
    rw [piecesFrom_two (by omega) two, same]
  by_cases three : c.val.toNat ≤ 0xFFFF
  · rw [String.utf8EncodeChar, if_neg one, if_neg two, if_pos three]
    simp only [List.cons_append, List.nil_append]
    rw [piecesFrom_three (by omega) three (by omega), same]
  · rw [String.utf8EncodeChar, if_neg one, if_neg two, if_neg three]
    simp only [List.cons_append, List.nil_append]
    rw [piecesFrom_four (by omega) (by omega), same]

end Pieces

/-- Octets of a text are read as the text. -/
theorem decode?_encode (s : String) : decode? (encode s) = some s := by
  have read (done : List (Option Char)) (chars : List Char) :
      piecesFrom done (chars.flatMap String.utf8EncodeChar) = done.reverse ++ chars.map some := by
    induction chars generalizing done with
    | nil => simp [piecesFrom]
    | cons c rest inductionHypothesis =>
      rw [List.flatMap_cons, piecesFrom_char, inductionHypothesis]
      simp
  have all (chars : List Char) : (chars.map some).mapM id = some chars := by
    induction chars with
    | nil => rfl
    | cons c rest inductionHypothesis => simp [inductionHypothesis]
  simp [decode?, pieces, encode, read, all]

section Small

variable {b : UInt8} {rest : Bytes}

/-- Only a character below 128 begins with an octet below 128, and it is that octet. -/
theorem encodeChar_of_small {c : Char} (encoded : String.utf8EncodeChar c = b :: rest)
    (small : b.toNat < 0x80) :
    c.toNat = b.toNat ∧ rest = [] := by
  have valid : c.val.toNat < 0xD800 ∨ 0xDFFF < c.val.toNat ∧ c.val.toNat < 0x110000 := c.valid
  by_cases one : c.val.toNat ≤ 0x7F
  · rw [String.utf8EncodeChar, if_pos one] at encoded
    obtain ⟨rfl, rfl⟩ := List.cons.inj encoded
    have octet : (UInt8.ofNat c.val.toNat).toNat = c.val.toNat := toNat_octet (by omega)
    exact ⟨octet.symm, rfl⟩
  -- The first octet of a longer character says how many there are, and is large.
  exfalso
  by_cases two : c.val.toNat ≤ 0x7FF
  · rw [String.utf8EncodeChar, if_neg one, if_pos two] at encoded
    rw [← (List.cons.inj encoded).1, toNat_octet (by omega)] at small
    omega
  by_cases three : c.val.toNat ≤ 0xFFFF
  · rw [String.utf8EncodeChar, if_neg one, if_neg two, if_pos three] at encoded
    rw [← (List.cons.inj encoded).1, toNat_octet (by omega)] at small
    omega
  · rw [String.utf8EncodeChar, if_neg one, if_neg two, if_neg three] at encoded
    rw [← (List.cons.inj encoded).1, toNat_octet (by omega)] at small
    omega

/-- A text whose octets begin with one below 128 begins with that character. -/
theorem exists_cons_of_small {chars : List Char}
    (encoded : chars.flatMap String.utf8EncodeChar = b :: rest) (small : b.toNat < 0x80) :
    ∃ c others, chars = c :: others ∧ c.toNat = b.toNat ∧
      others.flatMap String.utf8EncodeChar = rest := by
  cases chars with
  | nil => cases encoded
  | cons c others =>
    rw [List.flatMap_cons] at encoded
    cases first : String.utf8EncodeChar c with
    | nil => simp at first
    | cons lead tail =>
      rw [first, List.cons_append] at encoded
      obtain ⟨rfl, rfl⟩ := List.cons.inj encoded
      obtain ⟨same, rfl⟩ := encodeChar_of_small first small
      exact ⟨c, others, rfl, same, rfl⟩

end Small

end IssueTracker.Utf8

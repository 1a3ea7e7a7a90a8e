import IssueTracker.Json.Number
import IssueTracker.Json.Token
import IssueTracker.Json.Writer
import Mathlib.Data.List.TakeDrop
import Mathlib.Data.Nat.Digits.Defs

/-!
# Reading numbers

The texts of a number are those that the grammar allows for its digits: an exponent may have a mark
in either case, and a plus sign where it has no minus sign. Each of them is read up to the first
octet that cannot go on with it, and one of them is the written form.

An integer is written in its decimal digits, and if it fits 64 bits, that is the number its numeral
stands for.
-/

namespace IssueTracker.Json

/-- Whether octets are all digits. -/
def AreDigits (octets : Bytes) : Prop := ∀ d ∈ octets, Bytes.isDigit d = true

/-- Whether a numeral is one that the grammar allows. -/
structure Numeral.IsProper (n : Numeral) : Prop where
  whole : AreDigits n.whole
  nonempty : n.whole ≠ []
  /-- A zero in front stands alone. -/
  leading : n.whole.head? = some 0x30 → n.whole = [0x30]
  fraction : AreDigits n.fraction
  exponent : ∀ e, n.exponent = some e → AreDigits e.digits ∧ e.digits ≠ []

/-- Whether no octet in front goes on with the digits of a number. -/
def EndsDigits (text : Bytes) : Prop := ∀ b, text.head? = some b → Bytes.isDigit b = false

/-- Whether no octet in front goes on with a number. -/
def EndsNumber (text : Bytes) : Prop :=
  ∀ b, text.head? = some b → Bytes.isDigit b = false ∧ b ≠ 0x2E ∧ b ≠ 0x65 ∧ b ≠ 0x45

/-- How the digits behind the point are written. -/
def writtenFraction (fraction : Bytes) : Bytes :=
  if fraction.isEmpty then [] else 0x2E :: fraction

/-- How an exponent is written. -/
def writtenExponent : Option Exponent → Bytes
  | none => []
  | some e => 0x65 :: (if e.negative then [0x2D] else []) ++ e.digits

/-- Whether a text is the sign of an exponent; one that is not negative may go without. -/
def IsSignText : Bool → Bytes → Prop
  | true, text => text = [0x2D]
  | false, text => text = [] ∨ text = [0x2B]

/-- Whether a text is that of an exponent, or of none. -/
inductive IsExponentText : Option Exponent → Bytes → Prop
  | none : IsExponentText none []
  | some {e : Exponent} {mark : UInt8} {sign : Bytes} (marks : mark = 0x65 ∨ mark = 0x45)
      (signs : IsSignText e.negative sign) (all : AreDigits e.digits) (nonempty : e.digits ≠ []) :
      IsExponentText (some e) (mark :: (sign ++ e.digits))

/-- How a sign is written. -/
def writtenSign (negative : Bool) : Bytes := if negative then [0x2D] else []

/-- Whether a text is that of a number. -/
structure Numeral.IsText (n : Numeral) (text : Bytes) : Prop where
  proper : n.IsProper
  spelled : ∃ exponent, IsExponentText n.exponent exponent ∧
    text = writtenSign n.negative ++ (n.whole ++ (writtenFraction n.fraction ++ exponent))

section Scanning

variable {digits tail : Bytes}

/-- What ends a number ends its digits. -/
theorem EndsNumber.endsDigits (ends : EndsNumber tail) : EndsDigits tail :=
  fun b first => (ends b first).1

/-- Digits are taken up to the first octet that is none. -/
theorem spanDigits_append (all : AreDigits digits) (ends : EndsDigits tail) :
    spanDigits (digits ++ tail) = (digits, tail) := by
  rw [spanDigits, List.span_eq_takeWhile_dropWhile, List.takeWhile_append_of_pos all,
    List.dropWhile_append_of_pos all]
  cases tail with
  | nil => simp
  | cons b rest => simp [ends b rfl]

/-- The digits before the point are taken as a whole. -/
theorem scanWhole_append (all : AreDigits digits) (nonempty : digits ≠ [])
    (leading : digits.head? = some 0x30 → digits = [0x30]) (ends : EndsDigits tail) :
    scanWhole (digits ++ tail) = some (digits, tail) := by
  rw [scanWhole, spanDigits_append all ends]
  cases digits with
  | nil => exact absurd rfl nonempty
  | cons first more =>
    by_cases zero : first = 0x30
    · obtain ⟨-, rfl⟩ : first = 0x30 ∧ more = [] := by simpa [zero] using leading
      simp
    · simp [zero]

/-- The digits behind a point are taken as a whole, and so is no point. -/
theorem scanFraction_append (all : AreDigits digits) (ends : EndsDigits tail)
    (pointless : tail.head? ≠ some 0x2E) :
    scanFraction (writtenFraction digits ++ tail) = some (digits, tail) := by
  cases digits with
  | nil =>
    simp only [writtenFraction, List.isEmpty_nil, if_true, List.nil_append]
    unfold scanFraction
    split
    · simp at pointless
    · rfl
  | cons first more =>
    simp only [writtenFraction, List.isEmpty_cons, Bool.false_eq_true, if_false, List.cons_append]
    rw [scanFraction, ← List.cons_append, spanDigits_append all ends]

/-- The sign of an exponent is taken for what it is. -/
theorem scanSign_append {negative : Bool} {sign : Bytes} (signs : IsSignText negative sign)
    (all : AreDigits digits) (nonempty : digits ≠ []) :
    scanSign (sign ++ (digits ++ tail)) = (negative, digits ++ tail) := by
  cases negative with
  | true =>
    obtain rfl : sign = [0x2D] := signs
    rfl
  | false =>
    rcases signs with rfl | rfl
    · cases digits with
      | nil => exact absurd rfl nonempty
      | cons first more =>
        have digit := all first (by simp)
        simp only [List.nil_append, List.cons_append]
        unfold scanSign
        split
        · next same =>
          cases same
          cases digit
        · next same =>
          cases same
          cases digit
        · rfl
    · rfl

/-- An exponent is taken as a whole, and so is none. -/
theorem scanExponent_append {exponent : Option Exponent} {text : Bytes}
    (spelled : IsExponentText exponent text) (ends : EndsNumber tail) :
    scanExponent (text ++ tail) = some (exponent, tail) := by
  cases spelled with
  | none =>
    cases tail with
    | nil => rfl
    | cons b rest =>
      obtain ⟨-, -, small, capital⟩ := ends b rfl
      simp [scanExponent, small, capital]
  | @some e mark sign marks signs all nonempty =>
    have marked : (mark = 0x65 || mark = 0x45) = true := by simpa using marks
    simp only [List.cons_append, List.append_assoc, scanExponent, marked, if_true,
      scanSign_append signs all nonempty, spanDigits_append all ends.endsDigits]

/-- Neither an exponent nor what ends a number goes on with digits, or is a point. -/
theorem endsDigits_exponent {exponent : Option Exponent} {text : Bytes}
    (spelled : IsExponentText exponent text) (ends : EndsNumber tail) :
    EndsDigits (text ++ tail) ∧ (text ++ tail).head? ≠ some 0x2E := by
  cases spelled with
  | none =>
    refine ⟨ends.endsDigits, fun point => ?_⟩
    exact (ends 0x2E point).2.1 rfl
  | some marks =>
    constructor
    · intro b first
      obtain rfl := Option.some.inj first
      rcases marks with rfl | rfl <;> rfl
    · rcases marks with rfl | rfl <;> simp

/-- Digits end where a fraction begins, also if there is none. -/
theorem endsDigits_fraction (fraction : Bytes) (ends : EndsDigits tail) :
    EndsDigits (writtenFraction fraction ++ tail) := by
  cases fraction with
  | nil => exact ends
  | cons first more =>
    intro b point
    obtain rfl : 0x2E = b := by simpa [writtenFraction] using point
    rfl

/-- A proper number behind its sign is taken up to what cannot go on with it. -/
theorem scanNumber_append {n : Numeral} {exponent : Bytes} (proper : n.IsProper)
    (spelled : IsExponentText n.exponent exponent) (ends : EndsNumber tail) :
    scanNumber n.negative (n.whole ++ (writtenFraction n.fraction ++ (exponent ++ tail))) =
      some (.number n, tail) := by
  obtain ⟨behind, pointless⟩ := endsDigits_exponent spelled ends
  have middle := endsDigits_fraction n.fraction behind
  simp only [scanNumber, scanWhole_append proper.whole proper.nonempty proper.leading middle,
    scanFraction_append proper.fraction behind pointless, scanExponent_append spelled ends,
    Option.bind_eq_bind, Option.bind_some]
  rfl

/-- A digit begins a number. -/
theorem scanToken_digit {b : UInt8} {rest : Bytes} (digit : Bytes.isDigit b = true) :
    isSpace b = false ∧ scanToken b rest = scanNumber false (b :: rest) := by
  have different {other : UInt8} (undigit : Bytes.isDigit other = false) : b ≠ other := by
    rintro rfl
    rw [undigit] at digit
    cases digit
  have openArray : b ≠ 0x5B := different rfl
  have closeArray : b ≠ 0x5D := different rfl
  have openObject : b ≠ 0x7B := different rfl
  have closeObject : b ≠ 0x7D := different rfl
  have comma : b ≠ 0x2C := different rfl
  have colon : b ≠ 0x3A := different rfl
  have quote : b ≠ 0x22 := different rfl
  have minus : b ≠ 0x2D := different rfl
  have space : b ≠ 0x20 := different rfl
  have tab : b ≠ 0x09 := different rfl
  have line : b ≠ 0x0A := different rfl
  have back : b ≠ 0x0D := different rfl
  constructor
  · simp [isSpace, space, tab, line, back]
  · simp only [scanToken, openArray, closeArray, openObject, closeObject, comma, colon, quote,
      minus, digit, if_false, if_true]

/-- The text of a number is cut off as one token. -/
theorem scanToken_numeral {n : Numeral} {text : Bytes} (number : n.IsText text)
    (ends : EndsNumber tail) :
    ∃ b rest, text ++ tail = b :: rest ∧ isSpace b = false ∧
      scanToken b rest = some (.number n, tail) := by
  obtain ⟨proper, exponent, spelled, rfl⟩ := number
  have scanned := scanNumber_append proper spelled ends
  simp only [List.append_assoc]
  cases sign : n.negative with
  | true =>
    rw [sign] at scanned
    exact ⟨0x2D, _, rfl, rfl, scanned⟩
  | false =>
    rw [sign] at scanned
    cases whole : n.whole with
    | nil => exact absurd whole proper.nonempty
    | cons first more =>
      rw [whole] at scanned
      have digit := proper.whole first (by simp [whole])
      obtain ⟨visible, begun⟩ := scanToken_digit digit
      exact ⟨first, _, rfl, visible, begun.trans scanned⟩

/-- The written form of an exponent is one of its texts. -/
theorem isExponentText_written {exponent : Option Exponent}
    (proper : ∀ e, exponent = some e → AreDigits e.digits ∧ e.digits ≠ []) :
    IsExponentText exponent (writtenExponent exponent) := by
  cases exponent with
  | none => exact .none
  | some e =>
    obtain ⟨all, nonempty⟩ := proper e rfl
    have signs : IsSignText e.negative (writtenSign e.negative) := by
      cases e.negative
      · exact .inl rfl
      · rfl
    exact .some (.inl rfl) signs all nonempty

/-- The written form of a proper number is one of its texts. -/
theorem isText_write {n : Numeral} (proper : n.IsProper) : n.IsText n.write := by
  refine ⟨proper, writtenExponent n.exponent, isExponentText_written proper.exponent, ?_⟩
  cases exponent : n.exponent <;>
    simp [Numeral.write, writtenSign, writtenFraction, writtenExponent, exponent]

end Scanning

section Integers

/-- The digits in which a natural number is written. -/
def decimalDigits (n : Nat) : Bytes := (Nat.toDigits 10 n).map Bytes.ofAscii

/-- The digit of a number below ten. -/
def digitOctet (n : Nat) : UInt8 := Bytes.ofAscii (Nat.digitChar n)

/-- A digit is one, has its value, and is zero for zero only. -/
theorem digitOctet_spec {n : Nat} (small : n < 10) :
    Bytes.isDigit (digitOctet n) = true ∧ Bytes.digitValue (digitOctet n) = n ∧
      (digitOctet n = 0x30 → n = 0) := by
  revert n
  decide

/-- The last digit is what remains of a division by ten; the others are those of the quotient. -/
theorem decimalDigits_eq (n : Nat) :
    decimalDigits n =
      if n < 10 then [digitOctet n] else decimalDigits (n / 10) ++ [digitOctet (n % 10)] := by
  rw [decimalDigits, Nat.toDigits_eq_if (by decide)]
  split
  · rfl
  · simp [decimalDigits, digitOctet]

/-- There is at least one digit. -/
theorem decimalDigits_ne_nil (n : Nat) : decimalDigits n ≠ [] := by
  simp [decimalDigits]

/-- A number is written in digits. -/
theorem areDigits_decimalDigits (n : Nat) : AreDigits (decimalDigits n) := by
  induction n using Nat.strong_induction_on with
  | h n inductionHypothesis =>
    rw [decimalDigits_eq]
    split
    · next small =>
      simpa [AreDigits] using (digitOctet_spec small).1
    · have front := inductionHypothesis (n / 10) (by omega)
      have last := (digitOctet_spec (show n % 10 < 10 by omega)).1
      intro d member
      rcases List.mem_append.mp member with inside | final
      · exact front d inside
      · rw [List.mem_singleton.mp final]
        exact last

/-- Only zero is written with a zero in front. -/
theorem head_decimalDigits {n : Nat} (zero : (decimalDigits n).head? = some 0x30) : n = 0 := by
  induction n using Nat.strong_induction_on with
  | h n inductionHypothesis =>
    rw [decimalDigits_eq] at zero
    split at zero
    · next small =>
      exact (digitOctet_spec small).2.2 (by simpa using zero)
    · obtain ⟨first, more, front⟩ := List.exists_cons_of_ne_nil (decimalDigits_ne_nil (n / 10))
      rw [front, List.cons_append, List.head?_cons] at zero
      have leading : (decimalDigits (n / 10)).head? = some 0x30 := by
        rw [front, List.head?_cons, zero]
      have quotient := inductionHypothesis (n / 10) (by omega) leading
      omega

/-- The number that the digits write is the one that was written. -/
theorem decimal_decimalDigits (n : Nat) : Bytes.decimal (decimalDigits n) = n := by
  induction n using Nat.strong_induction_on with
  | h n inductionHypothesis =>
    rw [decimalDigits_eq]
    split
    · next small => simp [Bytes.decimal, (digitOctet_spec small).2.1]
    · have front := inductionHypothesis (n / 10) (by omega)
      have last := (digitOctet_spec (show n % 10 < 10 by omega)).2.1
      rw [Bytes.decimal] at front ⊢
      rw [List.foldl_append, front]
      simp only [List.foldl_cons, List.foldl_nil, last]
      omega

/-- A number only grows by further digits. -/
theorem le_decimal (n : Nat) (digits : Bytes) :
    n ≤ digits.foldl (fun n d => 10 * n + Bytes.digitValue d) n := by
  induction digits generalizing n with
  | nil => simp
  | cons d rest inductionHypothesis =>
    have grown := inductionHypothesis (10 * n + Bytes.digitValue d)
    simp only [List.foldl_cons]
    omega

/-- All digits are gathered of a number that fits. -/
theorem gather_eq {sofar : Gathered} {digits : Bytes}
    (fits : digits.foldl (fun n d => 10 * n + Bytes.digitValue d) sofar.significand ≤ maxUnsigned) :
    gather sofar digits =
      ⟨digits.foldl (fun n d => 10 * n + Bytes.digitValue d) sofar.significand,
        sofar.used + digits.length⟩ := by
  induction digits generalizing sofar with
  | nil => rfl
  | cons d rest inductionHypothesis =>
    simp only [List.foldl_cons] at fits
    have grown := (le_decimal (10 * sofar.significand + Bytes.digitValue d) rest).trans fits
    simp only [gather, if_pos grown, List.foldl_cons, List.length_cons]
    rw [inductionHypothesis fits]
    simp only [Gathered.mk.injEq, true_and]
    omega

/-- The numeral that says an integer. -/
def integerNumeral (n : Int) : Numeral := ⟨n < 0, decimalDigits n.natAbs, [], none⟩

/-- The numeral of an integer is proper. -/
theorem isProper_integerNumeral (n : Int) : (integerNumeral n).IsProper where
  whole := areDigits_decimalDigits _
  nonempty := decimalDigits_ne_nil _
  leading zero := by
    simp only [integerNumeral] at zero ⊢
    rw [head_decimalDigits zero]
    rfl
  fraction := by simp [integerNumeral, AreDigits]
  exponent := by simp [integerNumeral]

/-- An integer of 64 bits with sign is what its numeral stands for. -/
theorem value?_integerNumeral {n : Int} (low : -9223372036854775808 ≤ n)
    (high : n ≤ 9223372036854775807) :
    (integerNumeral n).value? = some (.integer n) := by
  have bound : maxUnsigned = 18446744073709551615 := by decide
  have written : (decimalDigits n.natAbs).foldl (fun n d => 10 * n + Bytes.digitValue d) 0 =
      n.natAbs := decimal_decimalDigits n.natAbs
  have gathered : gather ⟨0, 0⟩ (decimalDigits n.natAbs) =
      ⟨n.natAbs, (decimalDigits n.natAbs).length⟩ := by
    rw [gather_eq (by simp only [written, bound]; omega)]
    simp only [written, Nat.zero_add]
  by_cases negative : n < 0
  · have half : Nat.pow 2 63 = 9223372036854775808 := by decide
    have fits : 0 < n.natAbs ∧ n.natAbs ≤ Nat.pow 2 63 := by omega
    simp [Numeral.value?, integerNumeral, gathered, negative, fits, abs_of_neg negative]
  · have positive : 0 ≤ n := by omega
    simp [Numeral.value?, integerNumeral, gathered, negative, abs_of_nonneg positive]

end Integers

end IssueTracker.Json

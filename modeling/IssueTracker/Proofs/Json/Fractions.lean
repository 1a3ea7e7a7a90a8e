import IssueTracker.Proofs.Json.Numerals
import IssueTracker.Proofs.Number.Binary64
import IssueTracker.Proofs.Text.Utf8
import Mathlib.Data.Nat.Cast.Order.Field

/-!
# Reading fractions

Digits behind the point go on with the integer that the digits before it have begun, and are then
divided out again. As long as the integer has no more than 53 bits, it is rounded only once, in that
division. So for up to three places behind the point, and up to 43 bits before it, the part before
the point is the whole part of the number that is read.
-/

namespace IssueTracker.Json

section Digits

/-- Digits that follow a number move it up by as many places. -/
theorem foldl_digits (n : Nat) (digits : Bytes) :
    digits.foldl (fun n d => 10 * n + Bytes.digitValue d) n =
      n * 10 ^ digits.length + Bytes.decimal digits := by
  induction digits using List.reverseRecOn with
  | nil => simp [Bytes.decimal]
  | append_singleton digits last inductionHypothesis =>
    have alone : Bytes.decimal (digits ++ [last]) =
        10 * Bytes.decimal digits + Bytes.digitValue last := by
      simp [Bytes.decimal]
    rw [List.foldl_append, inductionHypothesis, alone]
    simp only [List.foldl_cons, List.foldl_nil, List.length_append, List.length_singleton, pow_succ]
    ring

/-- What digits write has no more places than there are digits. -/
theorem decimal_lt {digits : Bytes} (all : AreDigits digits) :
    Bytes.decimal digits < 10 ^ digits.length := by
  induction digits using List.reverseRecOn with
  | nil => simp [Bytes.decimal]
  | append_singleton digits last inductionHypothesis =>
    have front := inductionHypothesis fun d inside => all d (by simp [inside])
    have small : Bytes.digitValue last < 10 := by
      have digit := all last (by simp)
      simp only [Bytes.isDigit, Bool.and_eq_true, decide_eq_true_iff,
        UInt8.le_iff_toNat_le] at digit
      have high : last.toNat ≤ 57 := digit.2
      rw [Bytes.digitValue]
      omega
    rw [Bytes.decimal] at front ⊢
    rw [List.foldl_append]
    simp only [List.foldl_cons, List.foldl_nil, List.length_append, List.length_singleton, pow_succ]
    omega

end Digits

section Scaling

variable {n places : Nat}

/-- A power of ten of 53 bits is held exactly. -/
theorem powerOfTen_spec (small : 10 ^ places < 2 ^ 53) :
    (powerOfTen places).negative = false ∧ (powerOfTen places).size = (10 : ℚ) ^ places := by
  obtain ⟨x, found, positive, size⟩ := Binary64.exists_ofNat? small
  simp only [powerOfTen, Nat.pow_eq, found, Option.getD_some]
  exact ⟨positive, by simpa using size⟩

/-- An integer over a power of ten with up to three zeros is at least a thousandth below the integer
after its whole part. -/
theorem quotient_gap (few : places ≤ 3) :
    (n : ℚ) / 10 ^ places + 1 / 1000 ≤ ((n / 10 ^ places : Nat) : ℚ) + 1 := by
  have power : (0 : ℚ) < 10 ^ places := by positivity
  have next : n + 1 ≤ (n / 10 ^ places + 1) * 10 ^ places :=
    Nat.lt_mul_of_div_lt (Nat.lt_add_one _) (Nat.pow_pos (by decide))
  have whole : (n + 1 : ℚ) ≤ ((n / 10 ^ places : Nat) + 1) * 10 ^ places := by exact_mod_cast next
  have thousandth : (1 : ℚ) / 1000 ≤ 1 / 10 ^ places := by
    apply one_div_le_one_div_of_le power
    calc (10 : ℚ) ^ places ≤ 10 ^ 3 := pow_le_pow_right₀ (by norm_num) few
      _ = 1000 := by norm_num
  calc (n : ℚ) / 10 ^ places + 1 / 1000
      ≤ n / 10 ^ places + 1 / 10 ^ places := by gcongr
    _ = (n + 1) / 10 ^ places := (add_div _ _ _).symm
    _ ≤ ((n / 10 ^ places : Nat) : ℚ) + 1 := (div_le_iff₀ power).mpr whole

/-- A quotient that is no closer to the next integer than that, with a whole part of no more than 43
bits, keeps this when it is rounded: half a step of the grid is less than a thousandth. -/
theorem exists_rounded {num den : Nat} (numerator : 0 < num) (denominator : 0 < den)
    (below : (num : ℚ) / den < 2 ^ 43) (low : (n : ℚ) ≤ num / den)
    (high : (num : ℚ) / den + 1 / 1000 ≤ n + 1) :
    ∃ x, Binary64.ofRatio? false num den = some x ∧ x.negative = false ∧ ⌊x.size⌋ = n := by
  have bits : (num : ℚ) / den < 2 ^ (-10 + 53 : Int) := below.trans_eq (by norm_num)
  obtain ⟨x, rounded⟩ := Binary64.exists_ofRatio? false numerator denominator
    (bits.trans_le (zpow_le_zpow_right₀ one_le_two (by decide)))
  have finer := Binary64.exponentFor_le numerator denominator bits (by decide)
  have step : (2 : ℚ) ^ Binary64.exponentFor num den ≤ 1 / 1024 :=
    (zpow_le_zpow_right₀ one_le_two finer).trans_eq (by norm_num)
  refine ⟨x, rounded, (Binary64.ofRatio?_near denominator rounded).1, ?_⟩
  apply Binary64.floor_size denominator rounded (by omega) low
  linarith

/-- An integer that is moved down by up to three places keeps its whole part if this has no more
than 43 bits. -/
theorem exists_scale? (somewhat : 0 < places) (few : places ≤ 3)
    (small : n < 2 ^ 43 * 10 ^ places) :
    ∃ x, scale? n (-(places : Int)) = some x ∧ x.negative = false ∧
      ⌊x.size⌋ = ((n / 10 ^ places : Nat) : Int) := by
  have thousand : 10 ^ places ≤ 10 ^ 3 := Nat.pow_le_pow_right (by decide) few
  have fits : n < 2 ^ 53 := by omega
  obtain ⟨x, found, positive, size⟩ := Binary64.exists_ofNat? fits
  rcases Nat.eq_zero_or_pos n with rfl | above
  · have zero : x.isZero = true := Binary64.isZero_iff.mpr (by simpa using size)
    exact ⟨x, by simp [scale?, found, zero], positive, by simp [size]⟩
  · have nonzero : x.isZero = false := by
      rw [← Bool.not_eq_true, Binary64.isZero_iff, size]
      exact_mod_cast above.ne'
    obtain ⟨signless, ten⟩ := powerOfTen_spec (show 10 ^ places < 2 ^ 53 by omega)
    obtain ⟨num, den, denominator, ratio, divided⟩ :=
      Binary64.exists_div?_eq x (show 0 < (powerOfTen places).size by rw [ten]; positivity)
    rw [size, ten] at ratio
    rw [positive, signless] at divided
    have numerator : 0 < num := by
      by_contra zero
      rw [Nat.eq_zero_of_not_pos zero, Nat.cast_zero, zero_div, eq_comm] at ratio
      have positive : (0 : ℚ) < n / 10 ^ places := by positivity
      exact positive.ne' ratio
    have below : (num : ℚ) / den < 2 ^ 43 := by
      rw [ratio, div_lt_iff₀ (by positivity)]
      exact_mod_cast small
    have low : ((n / 10 ^ places : Nat) : ℚ) ≤ num / den := by
      rw [ratio]
      exact_mod_cast Nat.cast_div_le (α := ℚ)
    obtain ⟨y, rounded, sign, floor⟩ :=
      exists_rounded numerator denominator below low (ratio ▸ quotient_gap few)
    refine ⟨y, ?_, sign, floor⟩
    have high : ¬ (308 : Int) < -(places : Int) := by omega
    have negative : ¬ (0 : Int) ≤ -(places : Int) := by omega
    have moderate : (-308 : Int) ≤ -(places : Int) := by omega
    simp only [scale?, found, Option.bind_eq_bind, Option.bind_some, nonzero, if_neg high,
      if_neg negative, if_pos moderate, Bool.false_eq_true, if_false, neg_neg, Int.toNat_natCast,
      divided]
    exact rounded

end Scaling

section Reading

variable {negative : Bool} {whole : Nat} {fraction : Bytes}

/-- The numeral with an integer before the point and digits behind it. -/
def fractionNumeral (negative : Bool) (whole : Nat) (fraction : Bytes) : Numeral :=
  ⟨negative, decimalDigits whole, fraction, none⟩

/-- The numeral with digits behind the point is proper. -/
theorem isProper_fractionNumeral (digits : AreDigits fraction) :
    (fractionNumeral negative whole fraction).IsProper where
  whole := areDigits_decimalDigits _
  nonempty := decimalDigits_ne_nil _
  leading zero := by
    simp only [fractionNumeral] at zero ⊢
    rw [head_decimalDigits zero]
    rfl
  fraction := digits
  exponent := by simp [fractionNumeral]

/-- The digits of such a numeral fit the integer that gathers them, before the point and behind it.
-/
theorem gather_fractionNumeral (digits : AreDigits fraction) (few : fraction.length ≤ 3)
    (small : whole < 2 ^ 43) :
    gather ⟨0, 0⟩ (decimalDigits whole) = ⟨whole, (decimalDigits whole).length⟩ ∧
      gather ⟨whole, 0⟩ fraction =
        ⟨whole * 10 ^ fraction.length + Bytes.decimal fraction, fraction.length⟩ := by
  have bound : maxUnsigned = 2 ^ 64 - 1 := rfl
  have behind := decimal_lt digits
  have places : 10 ^ fraction.length ≤ 10 ^ 3 := Nat.pow_le_pow_right (by decide) few
  have before : (decimalDigits whole).foldl (fun n d => 10 * n + Bytes.digitValue d) 0 = whole :=
    decimal_decimalDigits whole
  have written := foldl_digits whole fraction
  have all : whole * 10 ^ fraction.length + Bytes.decimal fraction ≤ maxUnsigned := by
    have moved : whole * 10 ^ fraction.length ≤ 2 ^ 43 * 10 ^ 3 := Nat.mul_le_mul small.le places
    omega
  constructor
  · rw [gather_eq (by simp only [before]; omega)]
    simp only [before, Nat.zero_add]
  · rw [gather_eq (by simp only [written]; exact all)]
    simp only [written, Nat.zero_add]

/-- What such a numeral stands for is cut to the integer before the point. -/
theorem exists_value?_fractionNumeral (negative : Bool) (digits : AreDigits fraction)
    (nonempty : fraction ≠ []) (few : fraction.length ≤ 3) (small : whole < 2 ^ 43) :
    ∃ x, (fractionNumeral negative whole fraction).value? = some (.binary x) ∧
      towardZero x.value = if negative then -(whole : Int) else whole := by
  have behind := decimal_lt digits
  obtain ⟨first, all⟩ := gather_fractionNumeral digits few small
  have below : whole * 10 ^ fraction.length + Bytes.decimal fraction <
      2 ^ 43 * 10 ^ fraction.length := by nlinarith
  have quotient : (whole * 10 ^ fraction.length + Bytes.decimal fraction) / 10 ^ fraction.length =
      whole := by
    rw [Nat.mul_comm, Nat.mul_add_div (Nat.pow_pos (by decide)), Nat.div_eq_of_lt behind,
      Nat.add_zero]
  obtain ⟨x, scaled, positive, floor⟩ :=
    exists_scale? (List.length_pos_iff.mpr nonempty) few below
  rw [quotient] at floor
  have pointed : fraction.isEmpty = false := by simpa using nonempty
  have cut : towardZero x.value = whole := by
    rw [Binary64.value, positive, if_neg Bool.false_ne_true, towardZero, if_pos x.size_nonneg,
      floor]
  refine ⟨if negative then x.negate else x, ?_, ?_⟩
  · simp only [fractionNumeral, Numeral.value?, first, pointed, Bool.false_and, Bool.false_eq_true,
      if_false, all, magnitude?, Nat.sub_self, Nat.cast_zero, zero_sub, scaled, Option.map_some,
      signed]
  · cases negative with
    | true => simp [Binary64.value_negate, cut]
    | false => simp [cut]

end Reading

section Literals

variable {c : Char} {f : String}

/-- The octet of a digit is a digit. -/
theorem isDigit_ofAscii (digit : c.isDigit = true) : Bytes.isDigit (Bytes.ofAscii c) = true := by
  simp only [Char.isDigit, Bool.and_eq_true, decide_eq_true_eq, ge_iff_le,
    UInt32.le_iff_toNat_le] at digit
  have low : 48 ≤ c.toNat := digit.1
  have high : c.toNat ≤ 57 := digit.2
  have same : c.toNat.toUInt8.toNat = c.toNat := by
    simp only [Nat.toUInt8_eq, UInt8.toNat_ofNat']
    omega
  simp only [Bytes.isDigit, Bytes.ofAscii, Bool.and_eq_true, decide_eq_true_eq,
    UInt8.le_iff_toNat_le, same]
  exact ⟨low, high⟩

/-- Each digit of a text is one octet. -/
theorem encode_digits (digits : ∀ c ∈ f.toList, c.isDigit = true) :
    Utf8.encode f = f.toList.map Bytes.ofAscii := by
  apply Utf8.encode_ascii
  intro c inside
  have digit := digits c inside
  simp only [Char.isDigit, Bool.and_eq_true, decide_eq_true_eq, UInt32.le_iff_toNat_le] at digit
  exact lt_of_le_of_lt digit.2 (by decide)

/-- The octets of a text of digits are digits. -/
theorem areDigits_encode (digits : ∀ c ∈ f.toList, c.isDigit = true) :
    AreDigits (Utf8.encode f) := by
  rw [encode_digits digits]
  exact List.forall_mem_map.mpr fun c inside => isDigit_ofAscii (digits c inside)

/-- The octets of an integer are those of its sign and its digits. -/
theorem encode_toString (n : Int) :
    Utf8.encode (toString n) = writtenSign (n < 0) ++ decimalDigits n.natAbs := by
  have written (n : Nat) : Utf8.encode n.repr = decimalDigits n := by
    rw [encode_digits, Nat.toList_repr, decimalDigits]
    intro c inside
    rw [Nat.toList_repr] at inside
    exact Nat.isDigit_of_mem_toDigits (by decide) (by decide) inside
  rw [Int.toString_eq_repr, Int.repr_eq_if]
  split
  · next positive =>
    have same : n.toNat = n.natAbs := by omega
    simp only [same, written, writtenSign, not_lt.mpr positive, decide_false, Bool.false_eq_true,
      if_false, List.nil_append]
  · next negative =>
    have same : (-n).toNat = n.natAbs := by omega
    simp only [same, Utf8.encode_append, written, writtenSign, not_le.mp negative, decide_true,
      if_true]
    rfl

/-- An integer in decimal digits is a text of its numeral. -/
theorem isText_toString (n : Int) : (integerNumeral n).IsText (Utf8.encode (toString n)) := by
  refine ⟨isProper_integerNumeral n, [], .none, ?_⟩
  rw [encode_toString]
  simp [integerNumeral, writtenFraction]

/-- An integer with a point and digits behind it is a text of the numeral with these digits. -/
theorem isText_toString_fraction (n : Int) (digits : ∀ c ∈ f.toList, c.isDigit = true)
    (nonempty : Utf8.encode f ≠ []) :
    (fractionNumeral (n < 0) n.natAbs (Utf8.encode f)).IsText
      (Utf8.encode (toString n ++ "." ++ f)) := by
  refine ⟨isProper_fractionNumeral (areDigits_encode digits), [], .none, ?_⟩
  have point : Utf8.encode "." = [0x2E] := rfl
  rw [Utf8.encode_append, Utf8.encode_append, encode_toString, point]
  simp [fractionNumeral, writtenFraction, nonempty]

/-- A minus sign, a zero, a point and digits are a text of the numeral with these digits. -/
theorem isText_minus_zero (digits : ∀ c ∈ f.toList, c.isDigit = true)
    (nonempty : Utf8.encode f ≠ []) :
    (fractionNumeral true 0 (Utf8.encode f)).IsText (Utf8.encode ("-0." ++ f)) := by
  refine ⟨isProper_fractionNumeral (areDigits_encode digits), [], .none, ?_⟩
  have front : Utf8.encode "-0." = [0x2D, 0x30, 0x2E] := rfl
  have zero : decimalDigits 0 = [0x30] := rfl
  simp [Utf8.encode_append, fractionNumeral, writtenFraction, front, zero, nonempty, writtenSign]

end Literals

end IssueTracker.Json

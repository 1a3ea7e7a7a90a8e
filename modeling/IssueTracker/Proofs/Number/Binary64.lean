import IssueTracker.Number.Binary64
import Mathlib.Algebra.Order.Field.Power
import Mathlib.Data.Rat.Floor
import Mathlib.Tactic.FieldSimp
import Mathlib.Tactic.Linarith
import Mathlib.Tactic.Positivity
import Mathlib.Tactic.Ring

/-!
# Binary numbers as fractions

A binary number is a fraction whose denominator is a power of two, and this is what its laws are
said of: numbers are compared as the fractions that they are, and cut as them.

A quotient becomes a number on the grid of one exponent, which is fine enough for 53 bits, and moves
by half a step of that grid at most. So it stays on its side of whatever lies on the grid: of an
integer, if the grid is fine enough for integers, and of a power of two in any case.
-/

namespace IssueTracker

section TowardZero

variable {p q : ℚ} {k : ℤ}

/-- A fraction without its part behind the point. -/
def towardZero (q : ℚ) : ℤ := if 0 ≤ q then ⌊q⌋ else ⌈q⌉

@[simp] theorem towardZero_intCast (k : ℤ) : towardZero k = k := by simp [towardZero]

@[simp] theorem towardZero_neg (q : ℚ) : towardZero (-q) = -towardZero q := by
  rcases lt_trichotomy q 0 with below | rfl | above
  · simp [towardZero, below.le, not_le.mpr below, Int.floor_neg]
  · simp [towardZero]
  · simp [towardZero, above.le, not_le.mpr above, Int.ceil_neg]

/-- A greater fraction is not cut to less. -/
theorem towardZero_mono (le : p ≤ q) : towardZero p ≤ towardZero q := by
  by_cases first : 0 ≤ p
  · have second : 0 ≤ q := first.trans le
    simpa only [towardZero, if_pos first, if_pos second] using Int.floor_mono le
  · have below : ⌈p⌉ ≤ 0 := Int.ceil_le.mpr (by simpa using (not_le.mp first).le)
    by_cases second : 0 ≤ q
    · have above : 0 ≤ ⌊q⌋ := Int.floor_nonneg.mpr second
      simpa only [towardZero, if_neg first, if_pos second] using below.trans above
    · simpa only [towardZero, if_neg first, if_neg second] using Int.ceil_mono le

/-- What is below a positive integer is cut to less than it. -/
theorem towardZero_lt (positive : 0 < k) (below : q < k) : towardZero q < k := by
  by_cases sign : 0 ≤ q
  · simpa only [towardZero, if_pos sign] using Int.floor_lt.mpr below
  · have cut : ⌈q⌉ ≤ 0 := Int.ceil_le.mpr (by simpa using (not_le.mp sign).le)
    simpa only [towardZero, if_neg sign] using cut.trans_lt positive

/-- What is above a negative one is cut to more than it. -/
theorem lt_towardZero (positive : 0 < k) (above : -(k : ℚ) < q) : -k < towardZero q := by
  have cut := towardZero_lt positive (neg_lt.mp above)
  rw [towardZero_neg] at cut
  exact neg_lt.mp cut

end TowardZero

namespace Binary64

variable {x y : Binary64}

/-- The magnitude as a fraction. -/
def size (x : Binary64) : ℚ := x.mantissa * 2 ^ x.exponent

/-- The number as a fraction. -/
def value (x : Binary64) : ℚ := if x.negative then -x.size else x.size

section Fractions

/-- A magnitude is no less than zero. -/
theorem size_nonneg (x : Binary64) : 0 ≤ x.size := by
  simp only [size]
  positivity

/-- A number is a zero exactly if its magnitude is. -/
theorem isZero_iff : x.isZero = true ↔ x.size = 0 := by
  have power : (2 : ℚ) ^ x.exponent ≠ 0 := by positivity
  simp [isZero, size, power]

/-- The denominator of the exact fraction is not zero. -/
theorem magnitude_pos (x : Binary64) : 0 < x.magnitude.2 := by
  simp only [magnitude]
  split
  · exact Nat.pow_pos (by decide)
  · exact Nat.one_pos

/-- The exact fraction is the magnitude. -/
theorem size_eq (x : Binary64) : x.size = (x.magnitude.1 : ℚ) / x.magnitude.2 := by
  simp only [size, magnitude, Nat.pow_eq]
  split
  · next negative =>
    have exponent : x.exponent = -((-x.exponent).toNat : ℤ) := by omega
    conv_lhs => rw [exponent, zpow_neg, zpow_natCast]
    push_cast
    rw [div_eq_mul_inv]
  · next positive =>
    have exponent : x.exponent = (x.exponent.toNat : ℤ) := by omega
    conv_lhs => rw [exponent, zpow_natCast]
    push_cast
    rw [div_one]

/-- The exact fraction with its sign is the number. -/
theorem value_eq (x : Binary64) : x.value = (x.numerator : ℚ) / x.magnitude.2 := by
  rw [value, numerator, size_eq]
  split
  · push_cast
    rw [neg_div]
  · push_cast
    rfl

/-- The number with the other sign is the opposite fraction. -/
theorem value_negate (x : Binary64) : x.negate.value = -x.value := by
  cases sign : x.negative <;> simp [value, negate, size, sign]

/-- Numbers are compared as fractions. -/
theorem atMost_iff : x.atMost y = true ↔ x.value ≤ y.value := by
  have first : (0 : ℚ) < x.magnitude.2 := by exact_mod_cast x.magnitude_pos
  have second : (0 : ℚ) < y.magnitude.2 := by exact_mod_cast y.magnitude_pos
  rw [value_eq, value_eq, div_le_div_iff₀ first second, atMost, decide_eq_true_iff]
  exact_mod_cast Iff.rfl

/-- The whole part is that of the magnitude. -/
theorem wholePart_eq (x : Binary64) : (x.wholePart : ℤ) = ⌊x.size⌋ := by
  rw [size_eq, Rat.floor_natCast_div_natCast, wholePart]
  push_cast
  rfl

/-- Numbers are cut as fractions. -/
theorem truncate_eq (x : Binary64) : x.truncate = towardZero x.value := by
  have positive : towardZero x.size = ⌊x.size⌋ := if_pos x.size_nonneg
  simp only [truncate, value]
  split
  · rw [towardZero_neg, positive, wholePart_eq]
  · rw [positive, wholePart_eq]

end Fractions

section Grid

variable {num den : ℕ} {k : ℤ}

/-- A quotient goes to a nearest integer. -/
theorem divideToEven_near (positive : 0 < den) :
    |(divideToEven num den : ℚ) - num / den| ≤ 1 / 2 := by
  -- Doubled, and multiplied by the divisor, this speaks of natural numbers only.
  have whole : 2 * num ≤ 2 * (den * divideToEven num den) + den ∧
      2 * (den * divideToEven num den) ≤ 2 * num + den := by
    have division := Nat.div_add_mod num den
    have small := Nat.mod_lt num positive
    simp only [divideToEven]
    split_ifs
    · omega
    · rw [Nat.mul_add]
      omega
    · rcases Nat.mod_two_eq_zero_or_one (num / den) with even | odd
      · rw [even, Nat.add_zero]
        omega
      · rw [odd, Nat.mul_add]
        omega
  have divisor : (0 : ℚ) < den := by exact_mod_cast positive
  obtain ⟨low, high⟩ : (2 * num : ℚ) ≤ 2 * (den * divideToEven num den) + den ∧
      (2 * (den * divideToEven num den) : ℚ) ≤ 2 * num + den := by exact_mod_cast whole
  have quotient : (num : ℚ) / den * den = num := div_mul_cancel₀ _ divisor.ne'
  rw [abs_le]
  constructor
  · nlinarith
  · nlinarith

/-- The denominator of a quotient over a power of two is not zero. -/
theorem scaled_pos (positive : 0 < den) (k : ℤ) : 0 < (scaled num den k).2 := by
  simp only [scaled]
  split
  · exact positive
  · exact Nat.mul_pos positive (Nat.pow_pos (by decide))

theorem scaled_eq (num den : ℕ) (k : ℤ) :
    ((scaled num den k).1 : ℚ) / (scaled num den k).2 = (num : ℚ) / den / 2 ^ k := by
  simp only [scaled, Nat.pow_eq]
  split
  · next negative =>
    have exponent : k = -((-k).toNat : ℤ) := by omega
    conv_rhs => rw [exponent, zpow_neg, zpow_natCast]
    push_cast
    field_simp
  · next positive =>
    have exponent : k = (k.toNat : ℤ) := by omega
    conv_rhs => rw [exponent, zpow_natCast]
    push_cast
    field_simp

/-- The whole part of a quotient over a power of two is below a number exactly if that quotient is.
-/
theorem scaled_div_lt_iff (positive : 0 < den) (k : ℤ) (m : ℕ) :
    (scaled num den k).1 / (scaled num den k).2 < m ↔ (num : ℚ) / den < m * 2 ^ k := by
  have divisor : (0 : ℚ) < (scaled num den k).2 := by exact_mod_cast scaled_pos positive k
  have power : (0 : ℚ) < 2 ^ k := by positivity
  rw [Nat.div_lt_iff_lt_mul (scaled_pos positive k), ← div_lt_iff₀ power, ← scaled_eq,
    div_lt_iff₀ divisor]
  exact_mod_cast Iff.rfl

/-- The logarithms of two numbers tell their quotient up to a factor of four. -/
theorem ratio_bounds (numerator : 0 < num) (denominator : 0 < den) :
    (2 : ℚ) ^ ((num.log2 : ℤ) - den.log2 - 1) ≤ num / den ∧
      (num : ℚ) / den < 2 ^ ((num.log2 : ℤ) - den.log2 + 1) := by
  have low {n : ℕ} (positive : 0 < n) : (2 : ℚ) ^ (n.log2 : ℤ) ≤ n := by
    exact_mod_cast Nat.log2_self_le positive.ne'
  have high (n : ℕ) : (n : ℚ) < 2 ^ ((n.log2 : ℤ) + 1) := by
    exact_mod_cast Nat.lt_log2_self (n := n)
  have divisor : (0 : ℚ) < den := by exact_mod_cast denominator
  have sum (i j : ℤ) : (2 : ℚ) ^ i * 2 ^ j = 2 ^ (i + j) := (zpow_add₀ two_ne_zero i j).symm
  constructor
  · rw [le_div_iff₀ divisor]
    calc (2 : ℚ) ^ ((num.log2 : ℤ) - den.log2 - 1) * den
        ≤ 2 ^ ((num.log2 : ℤ) - den.log2 - 1) * 2 ^ ((den.log2 : ℤ) + 1) := by
          gcongr
          exact (high den).le
      _ = 2 ^ (num.log2 : ℤ) := by
          rw [sum]
          congr 1
          ring
      _ ≤ num := low numerator
  · rw [div_lt_iff₀ divisor]
    calc (num : ℚ) < 2 ^ ((num.log2 : ℤ) + 1) := high num
      _ = 2 ^ ((num.log2 : ℤ) - den.log2 + 1) * 2 ^ (den.log2 : ℤ) := by
          rw [sum]
          congr 1
          ring
      _ ≤ 2 ^ ((num.log2 : ℤ) - den.log2 + 1) * den := by
          gcongr
          exact low denominator

/-- On the grid that is chosen for a quotient this has 53 bits at most, and no less unless the grid
is the finest. -/
theorem exponentFor_spec (numerator : 0 < num) (denominator : 0 < den) :
    (num : ℚ) / den < 2 ^ (exponentFor num den + 53) ∧
      (minExponent < exponentFor num den → (2 : ℚ) ^ (exponentFor num den + 52) ≤ num / den) := by
  obtain ⟨low, high⟩ := ratio_bounds numerator denominator
  have shifted (e : ℤ) : ((Nat.pow 2 53 : ℕ) : ℚ) * 2 ^ e = 2 ^ (e + 53) := by
    rw [zpow_add₀ two_ne_zero, mul_comm]
    norm_num
  -- The guess from the logarithms is right, or too small by one.
  obtain ⟨exact, chosen, below, above⟩ : ∃ exact : ℤ, exponentFor num den = max exact minExponent ∧
      (num : ℚ) / den < 2 ^ (exact + 53) ∧ (2 : ℚ) ^ (exact + 52) ≤ num / den := by
    by_cases fits : (num : ℚ) / den < 2 ^ ((num.log2 : ℤ) - den.log2 - 53 + 53)
    · refine ⟨(num.log2 : ℤ) - den.log2 - 53, ?_, fits, ?_⟩
      · rw [← shifted, ← scaled_div_lt_iff denominator] at fits
        simp only [exponentFor, if_pos fits]
      · refine (zpow_le_zpow_right₀ one_le_two ?_).trans low
        omega
    · refine ⟨(num.log2 : ℤ) - den.log2 - 53 + 1, ?_, ?_, ?_⟩
      · rw [← shifted, ← scaled_div_lt_iff denominator] at fits
        simp only [exponentFor, if_neg fits]
      · refine high.trans_le (zpow_le_zpow_right₀ one_le_two ?_)
        omega
      · refine (zpow_le_zpow_right₀ one_le_two ?_).trans (not_lt.mp fits)
        omega
  rw [chosen]
  constructor
  · refine below.trans_le (zpow_le_zpow_right₀ one_le_two ?_)
    omega
  · intro greater
    rwa [max_eq_left (by omega)]

/-- The grid of a quotient is no coarser than is needed for 53 bits. -/
theorem exponentFor_le (numerator : 0 < num) (denominator : 0 < den)
    (below : (num : ℚ) / den < 2 ^ (k + 53)) (least : minExponent ≤ k) :
    exponentFor num den ≤ k := by
  by_contra greater
  have above := (exponentFor_spec numerator denominator).2 (by omega)
  have powers := (zpow_lt_zpow_iff_right₀ one_lt_two).mp (above.trans_lt below)
  omega

end Grid

section Rounding

variable {negative : Bool} {num den n : ℕ} {k : ℤ}

/-- A quotient becomes a multiple of the step of its grid, at most half a step away. -/
theorem ofRatio?_near (denominator : 0 < den) (rounded : ofRatio? negative num den = some x) :
    x.negative = negative ∧ ∃ m : ℕ, x.size = m * 2 ^ exponentFor num den ∧
      |(m : ℚ) - num / den / 2 ^ exponentFor num den| ≤ 1 / 2 := by
  have near : |(divideToEven (scaled num den (exponentFor num den)).1
      (scaled num den (exponentFor num den)).2 : ℚ) - num / den / 2 ^ exponentFor num den| ≤
        1 / 2 := by
    rw [← scaled_eq]
    exact divideToEven_near (scaled_pos denominator _)
  simp only [ofRatio?] at rounded
  split at rounded
  · next zero =>
    cases rounded
    exact ⟨rfl, 0, by simp [size], by simp [zero]⟩
  · split at rounded
    · next vanished =>
      cases rounded
      refine ⟨rfl, 0, by simp [size], ?_⟩
      rwa [vanished] at near
    · obtain ⟨-, rfl⟩ : _ ∧ _ := by simpa only [Option.ite_none_right_eq_some,
        Option.some.injEq] using rounded
      refine ⟨by split <;> rfl, _, ?_, near⟩
      split
      · next full =>
        -- A mantissa that has grown to 54 bits is the half of it on the next coarser grid.
        rw [full, size, zpow_add_one₀ two_ne_zero]
        norm_num
        ring
      · rfl

/-- A quotient in the range of the format becomes a number. -/
theorem exists_ofRatio? (negative : Bool) (numerator : 0 < num) (denominator : 0 < den)
    (below : (num : ℚ) / den < 2 ^ (1023 : ℤ)) :
    ∃ x, ofRatio? negative num den = some x := by
  have exponent : exponentFor num den ≤ 970 :=
    exponentFor_le numerator denominator (by simpa using below) (by decide)
  have fits : exponentFor num den + 1 ≤ maxExponent := by
    rw [maxExponent]
    omega
  simp only [ofRatio?, if_neg numerator.ne']
  split
  · exact ⟨_, rfl⟩
  · rw [if_pos]
    · exact ⟨_, rfl⟩
    · split
      · exact fits
      · exact (Int.lt_of_add_one_le fits).le

/-- A quotient moves by half a step of its grid at most when it is rounded. -/
theorem size_near (denominator : 0 < den) (rounded : ofRatio? negative num den = some x) :
    |x.size - num / den| ≤ 2 ^ exponentFor num den / 2 := by
  obtain ⟨-, m, size, near⟩ := ofRatio?_near denominator rounded
  have power : (0 : ℚ) < 2 ^ exponentFor num den := by positivity
  have parts : x.size - num / den =
      (m - num / den / 2 ^ exponentFor num den) * 2 ^ exponentFor num den := by
    rw [size, sub_mul, div_mul_cancel₀ _ power.ne']
  rw [parts, abs_mul, abs_of_pos power]
  linarith [mul_le_mul_of_nonneg_right near power.le]

/-- A multiple of a step no finer than that of the grid is one of the step of the grid. -/
theorem exists_multiple (finer : exponentFor num den ≤ k) (n : ℕ) :
    ∃ p : ℕ, (n : ℚ) * 2 ^ k = p * 2 ^ exponentFor num den := by
  refine ⟨n * 2 ^ (k - exponentFor num den).toNat, ?_⟩
  have exponent : k = ((k - exponentFor num den).toNat : ℤ) + exponentFor num den := by omega
  conv_lhs => rw [exponent, zpow_add₀ two_ne_zero, zpow_natCast]
  push_cast
  ring

/-- A quotient that is rounded stays above what lies below it on its grid. -/
theorem le_size (denominator : 0 < den) (rounded : ofRatio? negative num den = some x)
    (finer : exponentFor num den ≤ k) (below : (n : ℚ) * 2 ^ k ≤ num / den) :
    (n : ℚ) * 2 ^ k ≤ x.size := by
  obtain ⟨-, m, size, near⟩ := ofRatio?_near denominator rounded
  obtain ⟨p, same⟩ := exists_multiple finer n
  have power : (0 : ℚ) < 2 ^ exponentFor num den := by positivity
  rw [same, ← le_div_iff₀ power] at below
  rw [same, size]
  have whole : p ≤ m := by
    by_contra less
    have next : ((m + 1 : ℕ) : ℚ) ≤ p := by exact_mod_cast Nat.lt_of_not_le less
    push_cast at next
    linarith [(abs_le.mp near).1]
  gcongr

/-- A quotient that is rounded stays below what lies above it on its grid. -/
theorem size_le (denominator : 0 < den) (rounded : ofRatio? negative num den = some x)
    (finer : exponentFor num den ≤ k) (above : (num : ℚ) / den ≤ n * 2 ^ k) :
    x.size ≤ n * 2 ^ k := by
  obtain ⟨-, m, size, near⟩ := ofRatio?_near denominator rounded
  obtain ⟨p, same⟩ := exists_multiple finer n
  have power : (0 : ℚ) < 2 ^ exponentFor num den := by positivity
  rw [same, ← div_le_iff₀ power] at above
  rw [same, size]
  have whole : m ≤ p := by
    by_contra more
    have next : ((p + 1 : ℕ) : ℚ) ≤ m := by exact_mod_cast Nat.lt_of_not_le more
    push_cast at next
    linarith [(abs_le.mp near).2]
  gcongr

/-- A power of two that lies below a quotient still does when this is rounded: either it is on the
grid, or the grid is so coarse that its 52 bits are more. -/
theorem pow_le_size (denominator : 0 < den) (rounded : ofRatio? negative num den = some x)
    (least : minExponent ≤ k) (below : (2 : ℚ) ^ k ≤ num / den) :
    2 ^ k ≤ x.size := by
  have numerator : 0 < num := by
    by_contra zero
    have positive : (0 : ℚ) < 2 ^ k := by positivity
    simp only [Nat.eq_zero_of_not_pos zero, Nat.cast_zero, zero_div] at below
    exact absurd below (not_le.mpr positive)
  by_cases finer : exponentFor num den ≤ k
  · simpa using le_size (n := 1) denominator rounded finer (by simpa using below)
  · have much := (exponentFor_spec numerator denominator).2 (by omega)
    have split : ((2 ^ 52 : ℕ) : ℚ) * 2 ^ exponentFor num den = 2 ^ (exponentFor num den + 52) := by
      rw [zpow_add₀ two_ne_zero, mul_comm]
      norm_num
    calc (2 : ℚ) ^ k ≤ 2 ^ (exponentFor num den + 52) :=
          zpow_le_zpow_right₀ one_le_two (by omega)
      _ = ((2 ^ 52 : ℕ) : ℚ) * 2 ^ exponentFor num den := split.symm
      _ ≤ x.size := le_size denominator rounded le_rfl (split.le.trans much)

/-- The whole part of a quotient is kept if the next integer is more than half a step away. -/
theorem floor_size (denominator : 0 < den) (rounded : ofRatio? negative num den = some x)
    (finer : exponentFor num den ≤ 0) (low : (n : ℚ) ≤ num / den)
    (high : (num : ℚ) / den + 2 ^ exponentFor num den / 2 < n + 1) :
    ⌊x.size⌋ = n := by
  rw [Int.floor_eq_iff]
  constructor
  · simpa using le_size denominator rounded finer (by simpa using low)
  · have near := (abs_le.mp (size_near denominator rounded)).2
    push_cast
    linarith

/-- A natural number of 53 bits becomes itself. -/
theorem exists_ofNat? (small : n < 2 ^ 53) :
    ∃ x, ofNat? n = some x ∧ x.negative = false ∧ x.size = n := by
  rcases Nat.eq_zero_or_pos n with rfl | positive
  · exact ⟨⟨false, 0, minExponent⟩, rfl, rfl, by simp [size]⟩
  · have below : (n : ℚ) / (1 : ℕ) < 2 ^ (0 + 53 : ℤ) := by
      rw [Nat.cast_one, div_one]
      exact_mod_cast small
    have finer := exponentFor_le positive Nat.one_pos below (by decide)
    obtain ⟨x, rounded⟩ := exists_ofRatio? false positive Nat.one_pos
      (below.trans_le (zpow_le_zpow_right₀ one_le_two (by decide)))
    have same : (n : ℚ) / (1 : ℕ) = n * 2 ^ (0 : ℤ) := by simp
    refine ⟨x, rounded, (ofRatio?_near Nat.one_pos rounded).1, le_antisymm ?_ ?_⟩
    · simpa using size_le Nat.one_pos rounded finer same.le
    · simpa using le_size Nat.one_pos rounded finer same.ge

/-- A quotient of numbers is the quotient of their magnitudes, rounded. -/
theorem exists_div?_eq (x : Binary64) (positive : 0 < y.size) :
    ∃ num den : ℕ, 0 < den ∧ (num : ℚ) / den = x.size / y.size ∧
      x.div? y = ofRatio? (x.negative != y.negative) num den := by
  have counter : 0 < y.magnitude.1 := by
    by_contra zero
    rw [size_eq, Nat.eq_zero_of_not_pos zero, Nat.cast_zero, zero_div] at positive
    exact lt_irrefl _ positive
  refine ⟨_, _, Nat.mul_pos x.magnitude_pos counter, ?_, rfl⟩
  rw [size_eq, size_eq, div_div_div_eq]
  push_cast
  rfl

end Rounding

end Binary64

end IssueTracker

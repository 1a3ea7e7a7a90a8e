import IssueTracker.Auth.Payload
import IssueTracker.Proofs.Json.Fractions
import IssueTracker.Proofs.Json.Writing

/-!
# Which points in time numbers name

A number names the second that it is when it is cut toward zero, and no other: whether it is held as
an integer or as a binary number, there is a point in time for it exactly if that second can be
represented. Where a cut to 64 bits would stop short, the number is refused before.

So numbers name points in time in their own order. And a part of a second, written with up to three
digits behind the point, makes no difference, for the rounding that turns it into a binary number
does not reach the next second.
-/

namespace IssueTracker.Json

variable {x : Binary64}

/-- A number as a fraction. -/
def Number.value : Number → ℚ
  | .integer value => value
  | .binary value => value.value

/-- The bounds of integers of 64 bits are a power of two, as binary numbers, and its opposite. -/
theorem reachesBounds_iff :
    reachesBounds x = true ↔ 2 ^ 63 ≤ x.value ∨ x.value ≤ -2 ^ 63 := by
  have upper : Binary64.ofInt? maxSigned = some ⟨false, 2 ^ 52, 11⟩ := by decide +kernel
  have lower : Binary64.ofInt? minSigned = some ⟨true, 2 ^ 52, 11⟩ := by decide +kernel
  have highest : Binary64.value ⟨false, 2 ^ 52, 11⟩ = 2 ^ 63 := by
    norm_num [Binary64.value, Binary64.size]
  have lowest : Binary64.value ⟨true, 2 ^ 52, 11⟩ = -2 ^ 63 := by
    norm_num [Binary64.value, Binary64.size]
  simp only [reachesBounds, upper, lower, Option.any_some, Bool.or_eq_true, Binary64.atMost_iff,
    highest, lowest]

/-- Between them the cut does not stop. -/
theorem cutSigned_eq (inside : reachesBounds x = false) : cutSigned x = towardZero x.value := by
  rw [← Bool.not_eq_true, reachesBounds_iff, not_or, not_le, not_le] at inside
  have high : towardZero x.value < 2 ^ 63 := towardZero_lt (by decide) (by exact_mod_cast inside.1)
  have low : -2 ^ 63 < towardZero x.value := lt_towardZero (by decide) (by exact_mod_cast inside.2)
  rw [cutSigned, Binary64.truncate_eq, minSigned, maxSigned]
  omega

/-- An integer beyond 64 bits with sign reaches the bounds as a binary number. -/
theorem reachesBounds_of_integer {n : Int} (beyond : ¬ (minSigned ≤ n ∧ n ≤ maxSigned))
    (rounded : Binary64.ofInt? n = some x) :
    reachesBounds x = true := by
  have large : (2 : ℚ) ^ (63 : Int) ≤ (n.natAbs : ℚ) / (1 : ℕ) := by
    rw [minSigned, maxSigned] at beyond
    have whole : 2 ^ 63 ≤ n.natAbs := by omega
    rw [Nat.cast_one, div_one]
    exact_mod_cast whole
  have size := Binary64.pow_le_size Nat.one_pos rounded (by decide) large
  have power : (2 : ℚ) ^ (63 : Int) = 2 ^ 63 := by norm_num
  rw [power] at size
  rw [reachesBounds_iff, Binary64.value]
  split
  · exact .inr (neg_le_neg size)
  · exact .inl size

end IssueTracker.Json

namespace IssueTracker.Auth

open Json

section Seconds

variable {n : Number} {k : Int} {time : Instant}

/-- A second in range is a point in time. -/
theorem ofSeconds?_eq_some_iff :
    Instant.ofSeconds? k = some time ↔
      -8334601228800 ≤ k ∧ k ≤ 8210266876799 ∧ time = ⟨k, 0⟩ := by
  rw [Instant.ofSeconds?, Option.ite_none_right_eq_some, Option.some.injEq, and_assoc, eq_comm]
  rfl

/-- An integer of 64 bits with sign counts itself. -/
theorem secondsOf?_integer (low : minSigned ≤ k) (high : k ≤ maxSigned) :
    secondsOf? (.integer k) = some k := by
  simp only [secondsOf?, Number.asSigned?, if_pos (And.intro low high)]

/-- Any other number is refused, or counts the seconds that it is when it is cut. -/
theorem secondsOf?_eq (n : Number) :
    secondsOf? n = some (towardZero n.value) ∨
      secondsOf? n = none ∧ (2 ^ 63 ≤ n.value ∨ n.value ≤ -2 ^ 63) := by
  cases n with
  | integer value =>
    have whole : towardZero (Number.value (.integer value)) = value := towardZero_intCast value
    by_cases signed : minSigned ≤ value ∧ value ≤ maxSigned
    · exact .inl (by rw [secondsOf?_integer signed.1 signed.2, whole])
    · right
      constructor
      · simp only [secondsOf?, Number.asSigned?, if_neg signed, Number.asBinary?]
        cases rounded : Binary64.ofInt? value with
        | none => rfl
        | some x => simp [reachesBounds_of_integer signed rounded]
      · rw [minSigned, maxSigned] at signed
        have far : 2 ^ 63 ≤ value ∨ value ≤ -2 ^ 63 := by omega
        simp only [Number.value]
        exact_mod_cast far
  | binary x =>
    cases reached : reachesBounds x with
    | true =>
      exact .inr ⟨by simp [secondsOf?, Number.asSigned?, Number.asBinary?, reached],
        reachesBounds_iff.mp reached⟩
    | false =>
      left
      simp [secondsOf?, Number.asSigned?, Number.asBinary?, reached, cutSigned_eq reached,
        Number.value]

/-- There is a point in time for a number exactly if there is one for the second that the number is
when it is cut. -/
theorem bind_secondsOf? (n : Number) :
    (secondsOf? n).bind Instant.ofSeconds? = Instant.ofSeconds? (towardZero n.value) := by
  rcases secondsOf?_eq n with counted | ⟨refused, beyond⟩
  · rw [counted, Option.bind_some]
  · rw [refused, Option.bind_none, eq_comm, Option.eq_none_iff_forall_ne_some]
    intro time named
    obtain ⟨low, high, -⟩ := ofSeconds?_eq_some_iff.mp named
    have integer : (2 ^ 63 : ℚ) = ((2 ^ 63 : Int) : ℚ) := by norm_num
    rw [integer] at beyond
    rcases beyond with above | below
    · have cut := towardZero_mono above
      rw [towardZero_intCast] at cut
      omega
    · have cut := towardZero_mono below
      rw [towardZero_neg, towardZero_intCast] at cut
      omega

/-- A number names the second that it is when it is cut, if that second can be represented. -/
theorem instantOf_eq_ok_iff :
    instantOf n = .ok time ↔
      -8334601228800 ≤ towardZero n.value ∧ towardZero n.value ≤ 8210266876799 ∧
        time = ⟨towardZero n.value, 0⟩ := by
  rw [instantOf, bind_secondsOf?, ← ofSeconds?_eq_some_iff]
  cases Instant.ofSeconds? (towardZero n.value) <;> simp

/-- A number names no second if the one that it is when it is cut cannot be represented. -/
theorem instantOf_eq_error
    (outside : ¬ (-8334601228800 ≤ towardZero n.value ∧ towardZero n.value ≤ 8210266876799)) :
    instantOf n = .error (.instant n) := by
  cases found : instantOf n with
  | ok time =>
    obtain ⟨low, high, -⟩ := instantOf_eq_ok_iff.mp found
    exact absurd ⟨low, high⟩ outside
  | error fault =>
    rw [instantOf] at found
    split at found
    · cases found
    · exact found.symm

end Seconds

/-- A JSON number, an integer or a binary number that is exactly some fraction, is read as a point
in time exactly if cutting that fraction toward zero leaves a second between the first and the last
that can be represented. It is then the start of that very second, and otherwise the number is an
error. So of two numbers that are read, the greater is not read as the earlier time. -/
theorem numbers_name_seconds (n : Json.Number) :
    (∀ json, Json.asNumber json = .ok n → asInstant json = instantOf n) ∧
    (∀ time, instantOf n = .ok time ↔
      -8334601228800 ≤ towardZero n.value ∧ towardZero n.value ≤ 8210266876799 ∧
        time = ⟨towardZero n.value, 0⟩) ∧
    (¬ (-8334601228800 ≤ towardZero n.value ∧ towardZero n.value ≤ 8210266876799) →
      instantOf n = .error (.instant n)) ∧
    (∀ greater one another, n.value ≤ Json.Number.value greater → instantOf n = .ok one →
      instantOf greater = .ok another → another.before one = false) := by
  refine ⟨?_, fun time => instantOf_eq_ok_iff, instantOf_eq_error, ?_⟩
  · intro json held
    rw [asInstant, held]
    rfl
  · intro greater one another le first second
    obtain ⟨-, -, rfl⟩ := instantOf_eq_ok_iff.mp first
    obtain ⟨-, -, rfl⟩ := instantOf_eq_ok_iff.mp second
    have cut := towardZero_mono le
    simp [Instant.before, not_lt.mpr cut]

/-- The last second that can be represented and almost all of its thousandths, as it is written and
as it is held. -/
def lastNumeral : Numeral := fractionNumeral false 8210266876799 [0x39, 0x39, 0x39]

def lastFraction : Binary64 := ⟨false, 8407313281843199, -10⟩

/-- The last numeral is read as the last second, which is not before the second before 1970, and the
first integer that does not fit 64 bits with sign is an error. -/
theorem lastFraction_names_second :
    Json.asNumber (.number lastNumeral) = .ok (.binary lastFraction) ∧
      asInstant (.number lastNumeral) = .ok ⟨8210266876799, 0⟩ ∧
      instantOf (.integer 9223372036854775808) =
        .error (.instant (.integer 9223372036854775808)) ∧
      Instant.before ⟨8210266876799, 0⟩ ⟨-1, 0⟩ = false := by
  have held : Json.asNumber (.number lastNumeral) = .ok (.binary lastFraction) := by
    decide +kernel
  have size : Number.value (.binary lastFraction) = 8407313281843199 / 1024 := by
    norm_num [Number.value, lastFraction, Binary64.value, Binary64.size]
  have cut : towardZero (Number.value (.binary lastFraction)) = 8210266876799 := by
    rw [size, towardZero, if_pos (by norm_num), Int.floor_eq_iff]
    norm_num
  have integer (k : Int) : towardZero (Number.value (.integer k)) = k := towardZero_intCast k
  obtain ⟨same, named, -, ordered⟩ := numbers_name_seconds (.binary lastFraction)
  have last := (named _).mpr ⟨by rw [cut]; decide, by rw [cut], rfl⟩
  have early := ((numbers_name_seconds (.integer (-1))).2.1 _).mpr
    ⟨by rw [integer]; decide, by rw [integer]; decide, rfl⟩
  have less : Number.value (.integer (-1)) ≤ Number.value (.binary lastFraction) := by
    rw [size]
    norm_num [Number.value]
  refine ⟨held, ?_, ?_, ?_⟩
  · rw [same _ held, last, cut]
  · exact (numbers_name_seconds _).2.2.1 (by rw [integer]; decide)
  · have order := (numbers_name_seconds (.integer (-1))).2.2.2 _ _ _ less early last
    rwa [cut, integer] at order

section Literals

variable {numeral : Numeral} {n : Number} {text : Bytes} {time : Instant}

/-- A text of a numeral is read as the time that its number names. -/
theorem decode_asInstant (spelled : numeral.IsText text) (held : numeral.value? = some n) :
    Json.decode asInstant text = instantOf n := by
  rw [decode_of_isText (.number spelled), asInstant, asNumber, held]
  rfl

end Literals

/-- An integer of seconds that can be represented is read as the start of that second from its
digits alone, and also if a point and one to three more digits follow them. A minus sign before a
zero makes no difference. So rounding never moves such a fraction to a neighbouring second. -/
theorem fraction_keeps_second (s : Int) (f : String) (low : -8334601228800 ≤ s)
    (high : s ≤ 8210266876799) (digits : ∀ c ∈ f.toList, c.isDigit = true) (somewhat : 1 ≤ f.length)
    (few : f.length ≤ 3) :
    Json.decode asInstant (Utf8.encode (toString s)) = .ok ⟨s, 0⟩ ∧
    Json.decode asInstant (Utf8.encode (toString s ++ "." ++ f)) = .ok ⟨s, 0⟩ ∧
    (s = 0 → Json.decode asInstant (Utf8.encode ("-0." ++ f)) = .ok ⟨0, 0⟩) := by
  have length : (Utf8.encode f).length = f.length := by
    rw [encode_digits digits, List.length_map, String.length_toList]
  have nonempty : Utf8.encode f ≠ [] := List.ne_nil_of_length_pos (by omega)
  have areDigits := areDigits_encode digits
  refine ⟨?_, ?_, ?_⟩
  · have held := value?_integerNumeral (n := s) (by omega) (by omega)
    rw [decode_asInstant (isText_toString s) held, instantOf_eq_ok_iff, Number.value,
      towardZero_intCast]
    exact ⟨low, high, rfl⟩
  · have small : s.natAbs < 2 ^ 43 := by omega
    obtain ⟨x, held, cut⟩ :=
      exists_value?_fractionNumeral (s < 0) areDigits nonempty (by omega) small
    have same : towardZero x.value = s := by
      rw [cut]
      simp only [decide_eq_true_eq]
      split <;> omega
    rw [decode_asInstant (isText_toString_fraction s digits nonempty) held, instantOf_eq_ok_iff,
      Number.value, same]
    exact ⟨low, high, rfl⟩
  · rintro rfl
    have small : 0 < 2 ^ 43 := by decide
    obtain ⟨x, held, cut⟩ :=
      exists_value?_fractionNumeral true areDigits nonempty (by omega) small
    rw [decode_asInstant (isText_minus_zero digits nonempty) held, instantOf_eq_ok_iff,
      Number.value, cut]
    decide

/-- The first second of all, with its last thousandth behind it, is read as that second. -/
theorem firstSecond_kept :
    Json.decode asInstant (Utf8.encode "-8334601228800.999") = .ok ⟨-8334601228800, 0⟩ := by
  have digits : ∀ c ∈ "999".toList, c.isDigit = true := by simp [Char.isDigit]
  have kept := (fraction_keeps_second (-8334601228800) "999" (by decide) (by decide) digits
    (by decide) (by decide)).2.1
  have text : toString (-8334601228800 : Int) ++ "." ++ "999" = "-8334601228800.999" := by
    decide +kernel
  rwa [text] at kept

end IssueTracker.Auth

import IssueTracker.Proofs.Bytes.Base64Url
import Mathlib.Algebra.Group.Nat.Defs

/-!
# Written forms as streams of bits

The encoding, said without the way in which it is computed. Octets are a stream of bits, those of
each octet from the highest to the lowest. Six bits after six are the place of a symbol in the
alphabet, and what the last six lack is made up by zeros, fewer than six of them.

That determines the text: in this sense octets have exactly one written form, and it is the one that
is computed.
-/

namespace IssueTracker.Base64Url

/-- The symbols in the order of their values. -/
def alphabet : List Char :=
  "ABCDEFGHIJKLMNOPQRSTUVWXYZabcdefghijklmnopqrstuvwxyz0123456789-_".toList

/-- The lowest bits of a number, as many as are asked for, the highest of them first. -/
def bits : Nat → Nat → List Bool
  | 0, _ => []
  | width + 1, n => n.testBit width :: bits width n

/-- Octets as a stream of bits. -/
def stream (bytes : Bytes) : List Bool := bytes.flatMap fun b => bits 8 b.toNat

/-- Whether a text has the symbols of values whose bits are those of octets, with fewer than six
zeros behind them. -/
def IsWrittenForm (bytes : Bytes) (text : String) : Prop :=
  ∃ values : List Nat, text.toList.map some = values.map (alphabet[·]?) ∧
    ∃ spare < 6, values.flatMap (bits 6) = stream bytes ++ List.replicate spare false

/-- The symbol of a value stands at its place in the alphabet, which has no other places. -/
theorem alphabet_at {v : Nat} {c : Char} : alphabet[v]? = some c ↔ v < 64 ∧ symbol v = c := by
  have count : alphabet.length = 64 := by decide
  have every : ∀ v : Fin 64, alphabet[v.val]? = some (symbol v.val) := by decide
  constructor
  · intro found
    obtain ⟨small, -⟩ := List.getElem?_eq_some_iff.mp found
    rw [count] at small
    rw [every ⟨v, small⟩, Option.some.injEq] at found
    exact ⟨small, found⟩
  · rintro ⟨small, rfl⟩
    exact every ⟨v, small⟩

/-- Characters are what stands at some places of the alphabet exactly if they are the symbols of
values of six bits. -/
theorem map_alphabet_iff {text : List Char} {values : List Nat} :
    text.map some = values.map (alphabet[·]?) ↔
      (∀ v ∈ values, v < 64) ∧ text = values.map symbol := by
  induction text generalizing values with
  | nil => cases values <;> simp
  | cons c rest inductionHypothesis =>
    cases values with
    | nil => simp
    | cons v values =>
      simp only [List.map_cons, List.cons.injEq, inductionHypothesis, List.forall_mem_cons]
      rw [eq_comm, alphabet_at, eq_comm]
      constructor
      · rintro ⟨⟨small, same⟩, others, rest⟩
        exact ⟨⟨small, others⟩, same, rest⟩
      · rintro ⟨⟨small, others⟩, same, rest⟩
        exact ⟨⟨small, same⟩, others, rest⟩

section Bits

variable {width n m : Nat} {values others : List Nat}

@[simp] theorem length_bits : (bits width n).length = width := by
  induction width with
  | zero => rfl
  | succ width inductionHypothesis => simp [bits, inductionHypothesis]

theorem length_flatMap_bits : (values.flatMap (bits width)).length = width * values.length := by
  simp [List.length_flatMap, Nat.mul_comm]

@[simp] theorem stream_cons (b : UInt8) (rest : Bytes) :
    stream (b :: rest) = bits 8 b.toNat ++ stream rest := rfl

/-- The bits of a number determine it, if it has no more of them. -/
theorem bits_injective (small : n < 2 ^ width) (alsoSmall : m < 2 ^ width)
    (same : bits width n = bits width m) :
    n = m := by
  have low (width : Nat) (same : bits width n = bits width m) :
      ∀ i < width, n.testBit i = m.testBit i := by
    induction width with
    | zero => simp
    | succ width inductionHypothesis =>
      obtain ⟨head, tail⟩ := List.cons.inj same
      intro i below
      rcases Nat.lt_succ_iff_lt_or_eq.mp below with lower | rfl
      · exact inductionHypothesis tail i lower
      · exact head
  refine Nat.eq_of_testBit_eq fun i => ?_
  by_cases below : i < width
  · exact low width same i below
  · have beyond : 2 ^ width ≤ 2 ^ i := Nat.pow_le_pow_right (by decide) (by omega)
    rw [Nat.testBit_lt_two_pow (by omega), Nat.testBit_lt_two_pow (by omega)]

/-- The bits of as many numbers, one after the other, determine the numbers. -/
theorem flatMap_bits_injective (count : values.length = others.length)
    (small : ∀ v ∈ values, v < 2 ^ width) (alsoSmall : ∀ v ∈ others, v < 2 ^ width)
    (same : values.flatMap (bits width) = others.flatMap (bits width)) :
    values = others := by
  induction values generalizing others with
  | nil => exact (List.length_eq_zero_iff.mp count.symm).symm
  | cons v values inductionHypothesis =>
    cases others with
    | nil => cases count
    | cons w others =>
      simp only [List.forall_mem_cons] at small alsoSmall
      rw [List.flatMap_cons, List.flatMap_cons] at same
      obtain ⟨head, tail⟩ := List.append_inj same (by simp)
      rw [bits_injective small.1 alsoSmall.1 head,
        inductionHypothesis (Nat.succ.inj count) small.2 alsoSmall.2 tail]

end Bits

/-- Three octets have the bits of their four values. -/
theorem bits_regrouped (x y z : UInt8) :
    bits 6 (x.toNat / 4) ++ (bits 6 (x.toNat % 4 * 16 + y.toNat / 16) ++
        (bits 6 (y.toNat % 16 * 4 + z.toNat / 64) ++ bits 6 (z.toNat % 64))) =
      bits 8 x.toNat ++ (bits 8 y.toNat ++ bits 8 z.toNat) := by
  have xBound := x.toNat_lt
  have yBound := y.toNat_lt
  have zBound := z.toNat_lt
  simp only [bits, Nat.testBit_eq_decide_div_mod_eq, List.cons_append, List.nil_append,
    List.cons.injEq, decide_eq_decide, and_true]
  and_intros <;> omega

/-- The values of octets have the bits of these, with as few zeros behind them as a whole number of
values needs. A last group that lacks octets is one with zeros for them, less the values that are
nothing but these zeros. -/
theorem stream_sextets (bytes : Bytes) :
    ∃ spare < 6, (sextets bytes).flatMap (bits 6) =
      stream bytes ++ List.replicate spare false := by
  fun_induction sextets bytes with
  | case1 x y z rest inductionHypothesis =>
    obtain ⟨spare, few, same⟩ := inductionHypothesis
    refine ⟨spare, few, ?_⟩
    have group := bits_regrouped x y z
    simp only [List.flatMap_cons, stream_cons, same]
    simpa only [List.append_assoc] using congrArg (· ++ (stream rest ++ _)) group
  | case2 x y =>
    refine ⟨2, by decide, ?_⟩
    have zeros : bits 8 0 = List.replicate 2 false ++ bits 6 0 := by decide
    have group := bits_regrouped x y 0
    simp only [UInt8.toNat_zero, zeros, Nat.zero_mod, Nat.zero_div, Nat.add_zero,
      ← List.append_assoc] at group
    simpa [stream] using List.append_cancel_right group
  | case3 x =>
    refine ⟨4, by decide, ?_⟩
    have zeros : bits 8 0 ++ bits 8 0 = List.replicate 4 false ++ (bits 6 0 ++ bits 6 0) := by
      decide
    have group := bits_regrouped x 0 0
    simp only [UInt8.toNat_zero, zeros, Nat.zero_mod, Nat.zero_div, Nat.zero_mul, Nat.add_zero,
      ← List.append_assoc] at group
    simpa [stream] using List.append_cancel_right (List.append_cancel_right group)
  | case4 => exact ⟨0, by decide, rfl⟩

/-- Octets have one written form, and that is the one that is computed. With fewer values there were
not enough bits, and with one more there were six zeros too many. -/
theorem isWrittenForm_iff {bytes : Bytes} {text : String} :
    IsWrittenForm bytes text ↔ text = encode bytes := by
  obtain ⟨own, fewOwn, ownBits⟩ := stream_sextets bytes
  have small := sextets_small bytes
  have symbols : text = encode bytes ↔ text.toList = (sextets bytes).map symbol := by
    rw [← encodeChars_eq, encode, ← String.toList_inj, String.toList_ofList]
  rw [symbols]
  constructor
  · rintro ⟨values, written, spare, few, bits⟩
    obtain ⟨alsoSmall, chars⟩ := map_alphabet_iff.mp written
    obtain ⟨count, rfl⟩ : values.length = (sextets bytes).length ∧ spare = own := by
      have length := congrArg List.length bits
      have ownLength := congrArg List.length ownBits
      rw [length_flatMap_bits, List.length_append, List.length_replicate] at length ownLength
      omega
    rw [chars, flatMap_bits_injective count alsoSmall small (bits.trans ownBits.symm)]
  · intro written
    exact ⟨sextets bytes, map_alphabet_iff.mpr ⟨small, written⟩, own, fewOwn, ownBits⟩

example : IsWrittenForm [0xFB, 0xFF] "-_8" := isWrittenForm_iff.mpr (by decide)

end IssueTracker.Base64Url

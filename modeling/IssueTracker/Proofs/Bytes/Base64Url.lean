import IssueTracker.Bytes.Base64Url
import IssueTracker.Proofs.Text.Utf8
import Mathlib.Data.List.Basic
import Mathlib.Tactic.ByContra

/-!
# Written forms are canonical

Octets regroup into values of six bits, and each value has one symbol. The reader accepts a text
exactly if it is the written form of some octets, and then gives those: padding, symbols of other
alphabets and unused bits that are not zero are all refused.

The reader treats the last group by rules of its own even when the group is complete. Both kinds
of group are therefore related to the same regrouping, and the induction over the groups needs
nothing else.
-/

namespace IssueTracker.Base64Url

/-! ## Symbols and their values -/

/-- A value of six bits is read back from its symbol. -/
theorem value_symbol {v : Nat} (small : v < 64) : value? (Bytes.ofAscii (symbol v)) = some v := by
  have every : ∀ v : Fin 64, value? (Bytes.ofAscii (symbol v)) = some v.val := by decide
  exact every ⟨v, small⟩

/-- Only the symbol of a value is read as that value. -/
theorem symbol_value {b : UInt8} {v : Nat} (read : value? b = some v) :
    v < 64 ∧ Bytes.ofAscii (symbol v) = b := by
  have every : ∀ b : Fin 256, ∀ v ∈ value? (UInt8.ofNat b),
      v < 64 ∧ Bytes.ofAscii (symbol v) = UInt8.ofNat b := by decide +kernel
  have found := every ⟨b.toNat, b.toNat_lt⟩ v
  simpa [read] using found

/-- Padding has no value. -/
theorem ne_pad {b : UInt8} {v : Nat} (read : value? b = some v) : b ≠ pad := by
  rintro rfl
  have padding : value? pad = none := by decide
  simp [padding] at read

/-- An octet whose value is asked for has it. -/
theorem value_of_valueAt {offset : Nat} {b : UInt8} {v : Nat} (read : valueAt offset b = .ok v) :
    value? b = some v := by
  rw [valueAt] at read
  split at read <;> simp_all

/-- The octets of symbols for values. -/
def symbols (values : List Nat) : Bytes := values.map fun v => Bytes.ofAscii (symbol v)

/-- Octets that have values are the symbols of these values. -/
theorem map_value_iff (text : Bytes) (values : List Nat) :
    text.map value? = values.map some ↔ (∀ v ∈ values, v < 64) ∧ text = symbols values := by
  induction text generalizing values with
  | nil => cases values <;> simp [symbols]
  | cons b rest inductionHypothesis =>
    cases values with
    | nil => simp [symbols]
    | cons v values =>
      simp only [List.map_cons, List.cons.injEq, inductionHypothesis, List.forall_mem_cons, symbols]
      constructor
      · rintro ⟨head, small, tail⟩
        obtain ⟨headSmall, same⟩ := symbol_value head
        exact ⟨⟨headSmall, small⟩, same.symm, tail⟩
      · rintro ⟨⟨headSmall, small⟩, rfl, tail⟩
        exact ⟨value_symbol headSmall, small, tail⟩

/-! ## Regrouping -/

/-- Octets as values of six bits; those of a rest are filled up with zero bits. -/
def sextets : Bytes → List Nat
  | a :: b :: c :: rest =>
    a.toNat / 4 :: (a.toNat % 4 * 16 + b.toNat / 16) :: (b.toNat % 16 * 4 + c.toNat / 64)
      :: c.toNat % 64 :: sextets rest
  | [a, b] => [a.toNat / 4, a.toNat % 4 * 16 + b.toNat / 16, b.toNat % 16 * 4]
  | [a] => [a.toNat / 4, a.toNat % 4 * 16]
  | [] => []

/-- Writing octets writes a symbol for each of their values. -/
theorem encodeChars_eq (bytes : Bytes) : encodeChars bytes = (sextets bytes).map symbol := by
  fun_induction encodeChars bytes <;> simp_all [sextets]

/-- All values have six bits. -/
theorem sextets_small (bytes : Bytes) : ∀ v ∈ sextets bytes, v < 64 := by
  fun_induction sextets bytes with
  | case1 a b c rest inductionHypothesis =>
    have aBound := a.toNat_lt
    have bBound := b.toNat_lt
    have cBound := c.toNat_lt
    simp only [List.forall_mem_cons]
    exact ⟨by omega, by omega, by omega, by omega, inductionHypothesis⟩
  | case2 a b =>
    have aBound := a.toNat_lt
    have bBound := b.toNat_lt
    simp
    omega
  | case3 a =>
    have aBound := a.toNat_lt
    simp
    omega
  | case4 => simp

/-- The octets of the written form of octets. -/
def written (bytes : Bytes) : Bytes := symbols (sextets bytes)

/-- The values of a written form are those of its octets. -/
theorem map_value_written (bytes : Bytes) : (written bytes).map value? = (sextets bytes).map some :=
  (map_value_iff _ _).mpr ⟨sextets_small bytes, rfl⟩

/-- Octets that are not empty have a written form that is not empty. -/
theorem written_cons (b : UInt8) (rest : Bytes) :
    ∃ first more, written (b :: rest) = first :: more := by
  match rest with
  | [] | [_] | _ :: _ :: _ => simp [written, sextets, symbols]

/-- A number below 256 is kept by an octet. -/
theorem toNat_ofNat {n : Nat} (small : n < 256) : (UInt8.ofNat n).toNat = n := by
  simpa using small

/-- The octet of a number that is an octet's. -/
theorem ofNat_eq {n : Nat} {a : UInt8} (same : n = a.toNat) : UInt8.ofNat n = a := by
  simp [same]

/-- Three octets are found again in their four values. -/
theorem regrouped (x y z : UInt8) :
    UInt8.ofNat (x.toNat / 4 * 4 + (x.toNat % 4 * 16 + y.toNat / 16) / 16) = x ∧
      UInt8.ofNat ((x.toNat % 4 * 16 + y.toNat / 16) % 16 * 16
        + (y.toNat % 16 * 4 + z.toNat / 64) / 4) = y ∧
      UInt8.ofNat ((y.toNat % 16 * 4 + z.toNat / 64) % 4 * 64 + z.toNat % 64) = z := by
  have xBound := x.toNat_lt
  have yBound := y.toNat_lt
  have zBound := z.toNat_lt
  exact ⟨ofNat_eq (by omega), ofNat_eq (by omega), ofNat_eq (by omega)⟩

/-! ## The last group -/

/-- Octets with values are gathered as they stand. -/
theorem readLast_values (offset place : Nat) (seen : LastGroup) (unpadded : seen.padding = none)
    (text : Bytes) (values : List Nat) (read : text.map value? = values.map some) :
    ∃ last, readLast offset place seen text =
      .ok ⟨values.reverse ++ seen.values, last, none⟩ := by
  induction text generalizing place seen values with
  | nil =>
    obtain rfl : values = [] := by simpa using read
    exact ⟨seen.last, by simp [readLast, ← unpadded]⟩
  | cons b rest inductionHypothesis =>
    cases values with
    | nil => simp at read
    | cons v values =>
      obtain ⟨head, tail⟩ : value? b = some v ∧ rest.map value? = values.map some := by
        simpa using read
      obtain ⟨last, result⟩ := inductionHypothesis (place + 1)
        { seen with values := v :: seen.values, last := b } unpadded values tail
      simp only [unpadded, List.reverse_cons, List.append_assoc, List.singleton_append]
        at result ⊢
      exact ⟨last, by simp [readLast, ne_pad head, unpadded, valueAt, head, result]⟩

/-- What is gathered without padding are the values of the octets, all of which have one. -/
theorem readLast_ok (offset place : Nat) (seen out : LastGroup) (text : Bytes)
    (read : readLast offset place seen text = .ok out) (unpadded : out.padding = none) :
    seen.padding = none ∧ ∃ values : List Nat,
      out.values = values.reverse ++ seen.values ∧ text.map value? = values.map some := by
  induction text generalizing place seen with
  | nil =>
    obtain rfl : seen = out := by simpa [readLast] using read
    exact ⟨unpadded, [], by simp⟩
  | cons b rest inductionHypothesis =>
    rw [readLast] at read
    split at read
    · -- Padding that was once seen is never forgotten.
      split at read
      · simp at read
      · obtain ⟨forgotten, _⟩ := inductionHypothesis _ _ read
        simp at forgotten
    · split at read
      · simp at read
      · rename_i first
        cases head : valueAt (offset + place) b with
        | error fault => simp [head] at read
        | ok v =>
          simp only [head] at read
          obtain ⟨_, values, gathered, tail⟩ := inductionHypothesis _ _ read
          exact ⟨first, v :: values, by simp [gathered], by simp [value_of_valueAt head, tail]⟩

/-- The values of one, two or three octets finish as these octets. -/
theorem finish_sextets (offset : Nat) (last : UInt8) (tail : Bytes) (nonempty : tail ≠ [])
    (few : tail.length ≤ 3) :
    finish offset ⟨(sextets tail).reverse, last, none⟩ = .ok tail := by
  match tail, nonempty, few with
  | [x], _, _ =>
    have first : UInt8.ofNat (x.toNat / 4 * 4 + x.toNat % 4 * 16 / 16) = x := ofNat_eq (by omega)
    have unused : x.toNat % 4 * 16 % 16 = 0 := by omega
    simp only [finish, sextets, List.reverse_reverse, Option.isSome_none, Bool.false_eq_true,
      if_false, unused, if_true, first]
  | [x, y], _, _ =>
    obtain ⟨first, second, _⟩ := regrouped x y 0
    have unused : y.toNat % 16 * 4 % 4 = 0 := by omega
    simp only [UInt8.toNat_zero, Nat.zero_div, Nat.add_zero] at second
    simp only [finish, sextets, List.reverse_reverse, Option.isSome_none, Bool.false_eq_true,
      if_false, unused, if_true, first, second]
  | [x, y, z], _, _ =>
    obtain ⟨first, second, third⟩ := regrouped x y z
    simp only [finish, sextets, List.reverse_reverse, Option.isSome_none, Bool.false_eq_true,
      if_false, first, second, third]

/-- Values of six bits that finish as octets are the values of these octets: unused bits are
refused unless they are zero. -/
theorem sextets_of_finish (offset : Nat) (values : List Nat) (last : UInt8) (tail : Bytes)
    (few : values.length ≤ 4) (small : ∀ v ∈ values, v < 64)
    (finished : finish offset ⟨values.reverse, last, none⟩ = .ok tail) :
    tail ≠ [] ∧ sextets tail = values := by
  simp only [finish, List.reverse_reverse, Option.isSome_none, Bool.false_eq_true, if_false]
    at finished
  match values, few with
  | [], _ => simp at finished
  | [_], _ => simp at finished
  | [a, b], _ =>
    simp only [List.forall_mem_cons] at small
    obtain ⟨aSmall, bSmall, -⟩ := small
    have first : (UInt8.ofNat (a * 4 + b / 16)).toNat = a * 4 + b / 16 := toNat_ofNat (by omega)
    dsimp only at finished
    split at finished
    · cases finished
      refine ⟨by simp, ?_⟩
      simp only [sextets, first, List.cons.injEq, and_true]
      omega
    · simp at finished
  | [a, b, c], _ =>
    simp only [List.forall_mem_cons] at small
    obtain ⟨aSmall, bSmall, cSmall, -⟩ := small
    have first : (UInt8.ofNat (a * 4 + b / 16)).toNat = a * 4 + b / 16 := toNat_ofNat (by omega)
    have second : (UInt8.ofNat (b % 16 * 16 + c / 4)).toNat = b % 16 * 16 + c / 4 :=
      toNat_ofNat (by omega)
    dsimp only at finished
    split at finished
    · cases finished
      refine ⟨by simp, ?_⟩
      simp only [sextets, first, second, List.cons.injEq, and_true]
      omega
    · simp at finished
  | [a, b, c, d], _ =>
    simp only [List.forall_mem_cons] at small
    obtain ⟨aSmall, bSmall, cSmall, dSmall, -⟩ := small
    have first : (UInt8.ofNat (a * 4 + b / 16)).toNat = a * 4 + b / 16 := toNat_ofNat (by omega)
    have second : (UInt8.ofNat (b % 16 * 16 + c / 4)).toNat = b % 16 * 16 + c / 4 :=
      toNat_ofNat (by omega)
    have third : (UInt8.ofNat (c % 4 * 64 + d)).toNat = c % 4 * 64 + d := toNat_ofNat (by omega)
    cases finished
    refine ⟨by simp, ?_⟩
    simp only [sextets, first, second, third, List.cons.injEq, and_true]
    omega

/-- A last group that is a written form is read as its octets. -/
theorem lastGroup_written (offset : Nat) (tail : Bytes) (nonempty : tail ≠ [])
    (few : tail.length ≤ 3) :
    (readLast offset 0 {} (written tail)).bind (finish offset) = .ok tail := by
  obtain ⟨last, read⟩ := readLast_values offset 0 {} rfl (written tail) (sextets tail)
    (map_value_written tail)
  rw [List.append_nil] at read
  rw [read]
  exact finish_sextets offset last tail nonempty few

/-- A last group that is read is the written form of what it is read as. -/
theorem written_of_lastGroup (offset : Nat) (group tail : Bytes) (few : group.length ≤ 4)
    (read : (readLast offset 0 {} group).bind (finish offset) = .ok tail) :
    tail ≠ [] ∧ group = written tail := by
  cases seen : readLast offset 0 {} group with
  | error fault => simp [seen, Except.bind] at read
  | ok out =>
    simp only [seen, Except.bind] at read
    have unpadded : out.padding = none := by
      rw [finish] at read
      split at read <;> simp_all
      split at read <;> simp_all
    obtain ⟨_, values, gathered, valued⟩ := readLast_ok offset 0 {} out group seen unpadded
    have count : values.length = group.length := by simpa using (congrArg List.length valued).symm
    obtain ⟨small, rfl⟩ := (map_value_iff group values).mp valued
    have shape : out = ⟨values.reverse, out.last, none⟩ := by
      rw [← unpadded, ← List.append_nil values.reverse, ← gathered]
    rw [shape] at read
    obtain ⟨nonempty, same⟩ := sextets_of_finish offset values out.last tail (by omega) small read
    exact ⟨nonempty, by rw [written, same]⟩

/-! ## Group by group -/

/-- A written form is read as its octets. The induction is on the octets three at a time: the
last three are read as a last group, all others as a group that more symbols follow. -/
theorem decodeFrom_written (offset : Nat) (done bytes : Bytes) :
    decodeFrom offset done (written bytes) = .ok (done.reverse ++ bytes) := by
  fun_induction sextets bytes generalizing offset done with
  | case1 x y z rest inductionHypothesis =>
    cases rest with
    | nil =>
      have read := lastGroup_written offset [x, y, z] (by simp) (by simp)
      simp only [written, sextets, symbols, List.map_cons, List.map_nil] at read ⊢
      rw [decodeFrom, read]
      rfl
    | cons w more =>
      obtain ⟨first, others, shape⟩ := written_cons w more
      have cut : written (x :: y :: z :: w :: more) =
          symbols (sextets [x, y, z]) ++ written (w :: more) := by
        simp [written, sextets, symbols]
      have small := sextets_small [x, y, z]
      simp only [sextets, List.forall_mem_cons] at small
      obtain ⟨one, two, three, four, -⟩ := small
      obtain ⟨sameFirst, sameSecond, sameThird⟩ := regrouped x y z
      have tail := inductionHypothesis (offset + 4) (z :: y :: x :: done)
      rw [shape] at cut tail
      rw [cut]
      simp only [symbols, sextets, List.map_cons, List.map_nil, List.cons_append, List.nil_append,
        decodeFrom, valueAt, value_symbol one, value_symbol two, value_symbol three,
        value_symbol four, sameFirst, sameSecond, sameThird, tail]
      simp
  | case2 x y =>
    have read := lastGroup_written offset [x, y] (by simp) (by simp)
    simp only [written, sextets, symbols, List.map_cons, List.map_nil] at read ⊢
    simp only [decodeFrom, read]
    rfl
  | case3 x =>
    have read := lastGroup_written offset [x] (by simp) (by simp)
    simp only [written, sextets, symbols, List.map_cons, List.map_nil] at read ⊢
    simp only [decodeFrom, read]
    rfl
  | case4 => simp [written, sextets, symbols, decodeFrom]

/-- Only written forms are read. The induction is on the groups as the reader takes them. -/
theorem written_of_decodeFrom (offset : Nat) (done text out : Bytes)
    (read : decodeFrom offset done text = .ok out) :
    ∃ bytes, out = done.reverse ++ bytes ∧ text = written bytes := by
  -- A last group, complete or not, is settled by the rules of last groups.
  have settled (offset : Nat) (done group : Bytes) (few : group.length ≤ 4)
      (read : ((readLast offset 0 {} group).bind (finish offset)).map (done.reverse ++ ·)
        = .ok out) :
      ∃ bytes, out = done.reverse ++ bytes ∧ group = written bytes := by
    cases tail : (readLast offset 0 {} group).bind (finish offset) with
    | error fault => simp [tail, Except.map] at read
    | ok bytes =>
      obtain ⟨_, shape⟩ := written_of_lastGroup offset group bytes few tail
      exact ⟨bytes, by simpa [tail, Except.map] using read.symm, shape⟩
  fun_induction decodeFrom offset done text with
  | case1 offset done a b c d => exact settled offset done [a, b, c, d] (by simp) read
  | case2 | case3 | case4 | case5 => simp at read
  | case6 offset done a b c d first more A B C D readD readC readB readA inductionHypothesis =>
    obtain ⟨bytes, collected, shape⟩ := inductionHypothesis read
    have values : [a, b, c, d].map value? = [A, B, C, D].map some := by
      simp [value_of_valueAt readA, value_of_valueAt readB, value_of_valueAt readC,
        value_of_valueAt readD]
    obtain ⟨small, group⟩ := (map_value_iff _ _).mp values
    obtain ⟨_, same⟩ := sextets_of_finish 0 [A, B, C, D] 0 _ (by simp) small rfl
    refine ⟨UInt8.ofNat (A * 4 + B / 16) :: UInt8.ofNat (B % 16 * 16 + C / 4)
      :: UInt8.ofNat (C % 4 * 64 + D) :: bytes, by simpa using collected, ?_⟩
    have cut : a :: b :: c :: d :: first :: more = [a, b, c, d] ++ written bytes := by
      rw [← shape]
      rfl
    rw [cut, group, ← same]
    simp [written, symbols, sextets]
  | case7 offset done => exact ⟨[], by simpa using read.symm, rfl⟩
  | case8 offset done last noQuad _ =>
    have few : last.length ≤ 4 := by
      by_contra long
      obtain ⟨a, b, c, d, rest, rfl⟩ : ∃ a b c d rest, last = a :: b :: c :: d :: rest := by
        match last with
        | a :: b :: c :: d :: rest => exact ⟨a, b, c, d, rest, rfl⟩
        | [] | [_] | [_, _] | [_, _, _] => simp at long
      exact noQuad a b c d rest rfl
    exact settled offset done last few read

/-- No symbol of a written form is out of place. -/
theorem straySymbol_written (bytes : Bytes) : straySymbol? (written bytes) = none := by
  rw [straySymbol?]
  cases ending : (written bytes).getLast? with
  | none => rfl
  | some last =>
    have member : value? last ∈ (written bytes).map value? :=
      List.mem_map_of_mem (List.mem_of_getLast? ending)
    rw [map_value_written] at member
    obtain ⟨v, _, read⟩ := List.mem_map.mp member
    simp [← read]

/-- Octets are read exactly if they are the written form of what they are read as. -/
theorem decodeBytes_ok_iff (text bytes : Bytes) :
    decodeBytes text = .ok bytes ↔ text = written bytes := by
  constructor
  · intro read
    rw [decodeBytes] at read
    split at read
    · simp at read
    · obtain ⟨found, rfl, shape⟩ := written_of_decodeFrom 0 [] text bytes read
      simpa using shape
  · rintro rfl
    rw [decodeBytes, straySymbol_written, decodeFrom_written]
    rfl

/-! ## Texts -/

/-- Every character of a written form is the symbol of a value. -/
theorem mem_encode {bytes : Bytes} {c : Char} (member : c ∈ (encode bytes).toList) :
    ∃ v < 64, c = symbol v := by
  rw [encode, String.toList_ofList, encodeChars_eq] at member
  obtain ⟨v, inside, rfl⟩ := List.mem_map.mp member
  exact ⟨v, sextets_small bytes v inside, rfl⟩

/-- What is true of all sixty-four symbols is true of every character of a written form. -/
theorem of_mem_encode (good : Char → Prop) (every : ∀ v : Fin 64, good (symbol v.val))
    {bytes : Bytes} {c : Char} (member : c ∈ (encode bytes).toList) :
    good c := by
  obtain ⟨v, small, rfl⟩ := mem_encode member
  exact every ⟨v, small⟩

/-- The octets of a written form are the octets of its symbols. -/
theorem encode_octets (bytes : Bytes) : Utf8.encode (encode bytes) = written bytes := by
  rw [Utf8.encode_ascii]
  · simp [encode, encodeChars_eq, written, symbols, Function.comp_def]
  · intro c member
    exact of_mem_encode (·.toNat < 0x80) (by decide) member

/-- A text is read exactly if it is the written form of what it is read as. So octets have one
written form, and a written form has one reading. -/
theorem decode_ok_iff (text : String) (bytes : Bytes) :
    decode text = .ok bytes ↔ text = encode bytes := by
  rw [decode, decodeBytes_ok_iff, ← encode_octets]
  exact ⟨Utf8.encode_injective, fun same => same ▸ rfl⟩

/-- The written form of octets is read as those octets. -/
theorem decode_encode (bytes : Bytes) : decode (encode bytes) = .ok bytes :=
  (decode_ok_iff _ _).mpr rfl

/-- Only no octets have an empty written form. -/
theorem encode_ne_empty {bytes : Bytes} (nonempty : bytes ≠ []) : encode bytes ≠ "" := by
  intro same
  have read : decode "" = .ok bytes := (decode_ok_iff "" bytes).mpr same.symm
  have nothing : decode "" = .ok [] := by decide
  exact nonempty (Except.ok.inj (read.symm.trans nothing))

end IssueTracker.Base64Url

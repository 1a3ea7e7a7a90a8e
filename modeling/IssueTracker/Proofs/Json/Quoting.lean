import IssueTracker.Json.Text
import IssueTracker.Proofs.Json.Ending
import IssueTracker.Proofs.Text.Utf8

/-!
# Reading back what is quoted

Whatever a text is, its written form ends at the quote that is put behind it and not before, and
names that text again. Both follow octet by octet: an octet that is written as an escape is found
to be one, and resolved to itself.
-/

namespace IssueTracker.Json

/-- Whether octets, put between quotes, are read up to the second quote. -/
def IsQuotable (written : Bytes) : Prop :=
  ∀ done rest, scanString done (written ++ 0x22 :: rest) = some (done.reverse ++ written, rest)

/-- Whether octets are what the grammar allows between quotes: octets that need no escape, short
escapes, and escapes with four hexadecimal digits. Which text they name, if any, is not asked. -/
inductive IsStringText : Bytes → Prop
  | nil : IsStringText []
  | plain {b : UInt8} {rest : Bytes} (quote : b ≠ 0x22) (escape : b ≠ 0x5C) (visible : ¬ b < 0x20)
      (more : IsStringText rest) : IsStringText (b :: rest)
  | short {e : UInt8} {rest : Bytes} (known : isShortEscape e = true) (more : IsStringText rest) :
      IsStringText (0x5C :: e :: rest)
  | long {h₁ h₂ h₃ h₄ : UInt8} {rest : Bytes}
      (digits : ∀ h ∈ [h₁, h₂, h₃, h₄], Bytes.isHex h = true) (more : IsStringText rest) :
      IsStringText (0x5C :: 0x75 :: h₁ :: h₂ :: h₃ :: h₄ :: rest)

/-- What the grammar allows between quotes is read up to the second quote. -/
theorem IsStringText.isQuotable {written : Bytes} (text : IsStringText written) :
    IsQuotable written := by
  induction text with
  | nil =>
    intro done rest
    simp [scanString.eq_def]
  | @plain b more quote escape visible _ inductionHypothesis =>
    intro done rest
    rw [List.cons_append, scanString.eq_def]
    simp [quote, escape, visible, inductionHypothesis (b :: done) rest]
  | @short e more known _ inductionHypothesis =>
    intro done rest
    rw [List.cons_append, List.cons_append, scanString.eq_def]
    simp [known, inductionHypothesis (e :: 0x5C :: done) rest]
  | @long h₁ h₂ h₃ h₄ more digits _ inductionHypothesis =>
    intro done rest
    have unknown : isShortEscape 0x75 = false := by decide
    simp only [List.mem_cons, List.not_mem_nil, or_false, forall_eq_or_imp, forall_eq] at digits
    simp only [List.cons_append]
    rw [scanString.eq_def]
    simp [unknown, digits, inductionHypothesis (h₄ :: h₃ :: h₂ :: h₁ :: 0x75 :: 0x5C :: done) rest]

/-- What is read up to the second quote is what the grammar allows there. -/
theorem isStringText_of_scanString {done text written rest : Bytes}
    (found : scanString done text = some (written, rest)) :
    ∃ own, text = own ++ 0x22 :: rest ∧ written = done.reverse ++ own ∧ IsStringText own := by
  fun_induction scanString done text with
  | case1 | case3 | case6 | case7 | case8 | case9 => cases found
  | case2 =>
    cases found
    exact ⟨[], rfl, by simp, .nil⟩
  | case4 done e more known _ inductionHypothesis =>
    obtain ⟨own, rfl, rfl, text⟩ := inductionHypothesis found
    exact ⟨0x5C :: e :: own, rfl, by simp, .short known text⟩
  | case5 done h₁ h₂ h₃ h₄ more digits _ _ inductionHypothesis =>
    obtain ⟨own, rfl, rfl, text⟩ := inductionHypothesis found
    refine ⟨0x5C :: 0x75 :: h₁ :: h₂ :: h₃ :: h₄ :: own, rfl, by simp, .long ?_ text⟩
    simpa [and_assoc] using digits
  | case10 done b rest quote escape visible inductionHypothesis =>
    obtain ⟨own, rfl, rfl, text⟩ := inductionHypothesis found
    exact ⟨b :: own, rfl, by simp, .plain quote escape visible text⟩

/-- The grammar allows between quotes exactly what is read up to the second quote. -/
theorem isQuotable_iff {written : Bytes} : IsQuotable written ↔ IsStringText written := by
  constructor
  · intro quotable
    obtain ⟨own, shape, same, text⟩ := isStringText_of_scanString (quotable [] [])
    rw [List.reverse_nil, List.nil_append, List.nil_append] at same
    exact same ▸ text
  · exact IsStringText.isQuotable

section Octets

variable {done rest : Bytes} {v : Nat}

/-- A digit below 16 is written as a hexadecimal digit, which has its value. -/
theorem hexValue?_hexDigit (small : v < 16) : Bytes.hexValue? (hexDigit v) = some v := by
  revert v
  decide

theorem isHex_hexDigit (small : v < 16) : Bytes.isHex (hexDigit v) = true := by
  rw [Bytes.isHex, hexValue?_hexDigit small, Option.isSome_some]

/-- A control character is escaped with four digits that say its number. -/
theorem hexValue_control (b : UInt8) (control : b < 0x20) :
    hexValue 0x30 0x30 (hexDigit (b.toNat / 16)) (hexDigit (b.toNat % 16)) = b.toNat := by
  have small : b.toNat < 0x20 := UInt8.lt_iff_toNat_lt.mp control
  have zero : Bytes.hexValue? 0x30 = some 0 := by decide
  have high := hexValue?_hexDigit (show b.toNat / 16 < 16 by omega)
  have low := hexValue?_hexDigit (show b.toNat % 16 < 16 by omega)
  simp only [hexValue, List.map_cons, List.map_nil, zero, high, low, Option.getD_some,
    List.foldl_cons, List.foldl_nil]
  omega

/-- An octet is written as itself, as a short escape, or by its number if it is a control
character. -/
theorem escapeOctet_cases (b : UInt8) :
    (escapeOctet b = [b] ∧ b ≠ 0x22 ∧ b ≠ 0x5C ∧ ¬ b < 0x20) ∨
      (∃ e, escapeOctet b = [0x5C, e] ∧ isShortEscape e = true ∧ e ≠ 0x75 ∧ shortEscape e = b) ∨
      (escapeOctet b =
          [0x5C, 0x75, 0x30, 0x30, hexDigit (b.toNat / 16), hexDigit (b.toNat % 16)] ∧
        b < 0x20) := by
  by_cases marked : (b = 0x22 || b = 0x5C) = true
  · refine .inr (.inl ⟨b, by rw [escapeOctet, if_pos marked], ?_⟩)
    rw [Bool.or_eq_true, decide_eq_true_eq, decide_eq_true_eq] at marked
    rcases marked with rfl | rfl <;> decide
  by_cases backspace : b = 0x08
  · subst backspace
    exact .inr (.inl ⟨0x62, rfl, by decide, by decide, rfl⟩)
  by_cases feed : b = 0x0C
  · subst feed
    exact .inr (.inl ⟨0x66, rfl, by decide, by decide, rfl⟩)
  by_cases line : b = 0x0A
  · subst line
    exact .inr (.inl ⟨0x6E, rfl, by decide, by decide, rfl⟩)
  by_cases back : b = 0x0D
  · subst back
    exact .inr (.inl ⟨0x72, rfl, by decide, by decide, rfl⟩)
  by_cases tab : b = 0x09
  · subst tab
    exact .inr (.inl ⟨0x74, rfl, by decide, by decide, rfl⟩)
  have other : escapeOctet b =
      if b < 0x20 then [0x5C, 0x75, 0x30, 0x30, hexDigit (b.toNat / 16), hexDigit (b.toNat % 16)]
      else [b] := by
    rw [escapeOctet, if_neg marked, if_neg backspace, if_neg feed, if_neg line, if_neg back,
      if_neg tab]
  by_cases control : b < 0x20
  · exact .inr (.inr ⟨by rw [other, if_pos control], control⟩)
  · have unmarked : b ≠ 0x22 ∧ b ≠ 0x5C := by simpa using marked
    exact .inl ⟨by rw [other, if_neg control], unmarked.1, unmarked.2, control⟩

/-- How an octet is written is passed over as a whole. -/
theorem scanString_escapeOctet (b : UInt8) :
    scanString done (escapeOctet b ++ rest) =
      scanString ((escapeOctet b).reverse ++ done) rest := by
  rcases escapeOctet_cases b with ⟨same, quote, escape, visible⟩ | ⟨e, same, short, -, -⟩ |
    ⟨same, -⟩
  · rw [same, List.singleton_append, scanString.eq_def]
    simp [quote, escape, visible]
  · rw [same, List.cons_append, List.singleton_append, scanString.eq_def]
    simp [short]
  · have long : isShortEscape 0x75 = false := by decide
    have zero : Bytes.isHex 0x30 = true := by decide
    have small : b.toNat < 256 := b.toNat_lt
    have high := isHex_hexDigit (show b.toNat / 16 < 16 by omega)
    have low := isHex_hexDigit (show b.toNat % 16 < 16 by omega)
    simp only [same, List.cons_append, List.nil_append]
    rw [scanString.eq_def]
    simp [long, zero, high, low]

/-- What an octet is written as is resolved to that octet. -/
theorem unescapeFrom_escapeOctet (b : UInt8) :
    unescapeFrom done (escapeOctet b ++ rest) = unescapeFrom (b :: done) rest := by
  rcases escapeOctet_cases b with ⟨same, -, escape, -⟩ | ⟨e, same, -, plain, resolved⟩ |
    ⟨same, control⟩
  · rw [same, List.singleton_append, unescapeFrom.eq_def]
    simp [escape]
  · rw [same, List.cons_append, List.singleton_append, unescapeFrom.eq_def]
    simp [plain, resolved]
  · have small : b.toNat < 0x20 := UInt8.lt_iff_toNat_lt.mp control
    have single : isTrailing b.toNat = false ∧ isLeading b.toNat = false := by
      simp only [isTrailing, isLeading, Bool.and_eq_false_iff, decide_eq_false_iff_not]
      omega
    have character : pushChar b.toNat done = b :: done := by
      have ascii : (Char.ofNat b.toNat).toNat = b.toNat := by
        rw [Char.ofNat, dif_pos (.inl (by omega))]
        rfl
      rw [pushChar, Utf8.encodeChar_ascii (by omega), Bytes.ofAscii, ascii]
      simp
    simp only [same, List.cons_append, List.nil_append]
    rw [unescapeFrom.eq_def]
    simp [hexValue_control b control, single, character]

end Octets

/-- The written form of a text can be put between quotes. -/
theorem isQuotable_written (s : String) : IsQuotable (written s) := by
  intro done rest
  have passed (octets done : Bytes) :
      scanString done (octets.flatMap escapeOctet ++ 0x22 :: rest) =
        some (done.reverse ++ octets.flatMap escapeOctet, rest) := by
    induction octets generalizing done with
    | nil => simp [scanString.eq_def]
    | cons b octets inductionHypothesis =>
      rw [List.flatMap_cons, List.append_assoc, scanString_escapeOctet, inductionHypothesis]
      simp
  exact passed (Utf8.encode s) done

/-- The written form of a text names that text. -/
theorem text?_written (s : String) : text? (written s) = some s := by
  have resolved (octets done : Bytes) :
      unescapeFrom done (octets.flatMap escapeOctet) = some (done.reverse ++ octets) := by
    induction octets generalizing done with
    | nil => simp [unescapeFrom]
    | cons b octets inductionHypothesis =>
      rw [List.flatMap_cons, unescapeFrom_escapeOctet, inductionHypothesis]
      simp
  have octets : unescapeFrom [] (written s) = some (Utf8.encode s) := by
    simpa [written] using resolved (Utf8.encode s) []
  rw [text?, octets]
  exact Utf8.decode?_encode s

end IssueTracker.Json

import IssueTracker.Json.Reader
import Mathlib.Data.List.TakeDrop

/-!
# How the text of a container ends

A text that is read in full as an array or an object ends with a closing bracket or brace; behind
it there is nothing but white space. The reader finishes such a value only on a closing token, and
whatever a token is read from, the next one is read from what remains.
-/

namespace IssueTracker.Json

/-- The tokens that close a container. -/
def Token.IsClosing (token : Token) : Prop := token = .closeArray ∨ token = .closeObject

/-- The octets of a closing bracket and a closing brace. -/
def isCloser (b : UInt8) : Bool := b = 0x5D || b = 0x7D

/-- Whether a text ends with a closing octet, white space aside. -/
def EndsClosed (text : Bytes) : Prop :=
  ∃ front closer spaces, text = front ++ closer :: spaces ∧ isCloser closer = true ∧
    ∀ b ∈ spaces, isSpace b = true

/-- What is put in front of a text leaves its end as it is. -/
theorem EndsClosed.of_suffix {text whole : Bytes} (ends : EndsClosed text)
    (suffix : text <:+ whole) :
    EndsClosed whole := by
  obtain ⟨front, closer, spaces, rfl, closing, blank⟩ := ends
  obtain ⟨more, rfl⟩ := suffix
  exact ⟨more ++ front, closer, spaces, by simp, closing, blank⟩

section Scanning

/-- What remains behind a string is the end of the text. -/
theorem scanString_suffix {done text written rest : Bytes}
    (found : scanString done text = some (written, rest)) :
    rest <:+ text := by
  fun_induction scanString done text with
  | case1 | case3 | case6 | case7 | case8 | case9 => cases found
  | case2 =>
    cases found
    exact List.suffix_cons _ _
  | case4 _ _ _ _ _ inductionHypothesis =>
    exact (inductionHypothesis found).trans ⟨[_, _], rfl⟩
  | case5 _ _ _ _ _ _ _ _ _ inductionHypothesis =>
    exact (inductionHypothesis found).trans ⟨[_, _, _, _, _, _], rfl⟩
  | case10 _ _ _ _ _ _ inductionHypothesis =>
    exact (inductionHypothesis found).trans (List.suffix_cons _ _)

/-- What remains behind digits is the end of the text. -/
theorem spanDigits_suffix {text digits rest : Bytes} (found : spanDigits text = (digits, rest)) :
    rest <:+ text := by
  rw [spanDigits, List.span_eq_takeWhile_dropWhile] at found
  cases found
  exact List.dropWhile_suffix _

/-- What remains behind the digits before a point is shorter than the text. -/
theorem scanWhole_suffix {text whole rest : Bytes} (found : scanWhole text = some (whole, rest)) :
    ∃ first body, text = first :: body ∧ rest <:+ body := by
  unfold scanWhole at found
  split at found
  · cases found
  · next digits first more behind spanned =>
    split at found
    · cases found
    · cases found
      rw [spanDigits, List.span_eq_takeWhile_dropWhile] at spanned
      cases text with
      | nil => simp at spanned
      | cons c body =>
        refine ⟨c, body, rfl, ?_⟩
        by_cases digit : Bytes.isDigit c = true
        · simp only [List.dropWhile_cons_of_pos digit, Prod.mk.injEq] at spanned
          rw [← spanned.2]
          exact List.dropWhile_suffix _
        · simp [List.takeWhile_cons_of_neg digit] at spanned

/-- What remains behind a fraction is the end of the text. -/
theorem scanFraction_suffix {text fraction rest : Bytes}
    (found : scanFraction text = some (fraction, rest)) :
    rest <:+ text := by
  unfold scanFraction at found
  split at found
  · split at found
    · cases found
    · next behind _ _ =>
      have spanned : spanDigits behind = (fraction, rest) := Option.some.inj found
      exact (spanDigits_suffix spanned).trans (List.suffix_cons _ _)
  · cases found
    exact List.suffix_refl _

/-- What remains behind a sign is the end of the text. -/
theorem scanSign_suffix (text : Bytes) : (scanSign text).2 <:+ text := by
  unfold scanSign
  split
  · exact List.suffix_cons _ _
  · exact List.suffix_cons _ _
  · exact List.suffix_refl _

/-- What remains behind an exponent is the end of the text. -/
theorem scanExponent_suffix {text rest : Bytes} {exponent : Option Exponent}
    (found : scanExponent text = some (exponent, rest)) :
    rest <:+ text := by
  unfold scanExponent at found
  split at found
  · cases found
    exact List.suffix_refl _
  · next b behind =>
    split at found
    · simp only at found
      split at found
      · cases found
      · next spanned =>
        cases found
        have signed := spanDigits_suffix spanned
        exact (signed.trans (scanSign_suffix behind)).trans (List.suffix_cons _ _)
    · cases found
      exact List.suffix_refl _

/-- A number takes at least one octet, and what remains behind it is the end of the text. -/
theorem scanNumber_suffix {negative : Bool} {text rest : Bytes} {token : Token}
    (found : scanNumber negative text = some (token, rest)) :
    ¬ token.IsClosing ∧ ∃ first body, text = first :: body ∧ rest <:+ body := by
  simp only [scanNumber, Option.bind_eq_bind, Option.bind_eq_some_iff] at found
  obtain ⟨⟨whole, afterWhole⟩, wholeFound, ⟨fraction, afterFraction⟩, fractionFound,
    ⟨exponent, behind⟩, exponentFound, returned⟩ := found
  cases returned
  obtain ⟨first, body, rfl, begun⟩ := scanWhole_suffix wholeFound
  have middle := scanFraction_suffix fractionFound
  have ending := scanExponent_suffix exponentFound
  exact ⟨by simp [Token.IsClosing], first, body, rfl, (ending.trans middle).trans begun⟩

/-- What remains behind a word is the end of the text. -/
theorem dropWord_suffix {word text rest : Bytes} (found : dropWord word text = some rest) :
    rest <:+ text := by
  fun_induction dropWord word text with
  | case1 =>
    cases found
    exact List.suffix_refl _
  | case2 => cases found
  | case3 _ _ _ inductionHypothesis =>
    exact (inductionHypothesis found).trans (List.suffix_cons _ _)
  | case4 => cases found

/-- What remains behind a token is the end of what follows its first octet; and only a closing
octet, by itself, is a closing token. -/
theorem scanToken_suffix {b : UInt8} {rest behind : Bytes} {token : Token}
    (found : scanToken b rest = some (token, behind)) :
    behind <:+ rest ∧ (token.IsClosing → isCloser b = true ∧ behind = rest) := by
  have other (unclosing : ¬ token.IsClosing) (suffix : behind <:+ rest) :
      behind <:+ rest ∧ (token.IsClosing → isCloser b = true ∧ behind = rest) :=
    ⟨suffix, fun closing => absurd closing unclosing⟩
  unfold scanToken at found
  by_cases opensArray : b = 0x5B
  · rw [if_pos opensArray] at found
    cases found
    exact other (by simp [Token.IsClosing]) (List.suffix_refl _)
  rw [if_neg opensArray] at found
  by_cases closesArray : b = 0x5D
  · rw [if_pos closesArray] at found
    cases found
    exact ⟨List.suffix_refl _, fun _ => ⟨by simp [isCloser, closesArray], rfl⟩⟩
  rw [if_neg closesArray] at found
  by_cases opensObject : b = 0x7B
  · rw [if_pos opensObject] at found
    cases found
    exact other (by simp [Token.IsClosing]) (List.suffix_refl _)
  rw [if_neg opensObject] at found
  by_cases closesObject : b = 0x7D
  · rw [if_pos closesObject] at found
    cases found
    exact ⟨List.suffix_refl _, fun _ => ⟨by simp [isCloser, closesObject], rfl⟩⟩
  rw [if_neg closesObject] at found
  by_cases comma : b = 0x2C
  · rw [if_pos comma] at found
    cases found
    exact other (by simp [Token.IsClosing]) (List.suffix_refl _)
  rw [if_neg comma] at found
  by_cases colon : b = 0x3A
  · rw [if_pos colon] at found
    cases found
    exact other (by simp [Token.IsClosing]) (List.suffix_refl _)
  rw [if_neg colon] at found
  by_cases quote : b = 0x22
  · rw [if_pos quote] at found
    obtain ⟨⟨written, after⟩, scanned, returned⟩ := Option.map_eq_some_iff.mp found
    cases returned
    exact other (by simp [Token.IsClosing]) (scanString_suffix scanned)
  rw [if_neg quote] at found
  by_cases minus : b = 0x2D
  · rw [if_pos minus] at found
    obtain ⟨unclosing, first, body, rfl, suffix⟩ := scanNumber_suffix found
    exact other unclosing (suffix.trans (List.suffix_cons _ _))
  rw [if_neg minus] at found
  by_cases digit : Bytes.isDigit b = true
  · rw [if_pos digit] at found
    obtain ⟨unclosing, first, body, same, suffix⟩ := scanNumber_suffix found
    cases same
    exact other unclosing suffix
  rw [if_neg digit] at found
  by_cases null : b = 0x6E
  · rw [if_pos null] at found
    obtain ⟨after, dropped, returned⟩ := Option.map_eq_some_iff.mp found
    cases returned
    exact other (by simp [Token.IsClosing]) (dropWord_suffix dropped)
  rw [if_neg null] at found
  by_cases affirmed : b = 0x74
  · rw [if_pos affirmed] at found
    obtain ⟨after, dropped, returned⟩ := Option.map_eq_some_iff.mp found
    cases returned
    exact other (by simp [Token.IsClosing]) (dropWord_suffix dropped)
  rw [if_neg affirmed] at found
  by_cases denied : b = 0x66
  · rw [if_pos denied] at found
    obtain ⟨after, dropped, returned⟩ := Option.map_eq_some_iff.mp found
    cases returned
    exact other (by simp [Token.IsClosing]) (dropWord_suffix dropped)
  rw [if_neg denied] at found
  cases found

end Scanning

section Tokens

/-- Tokens cut before come before the others. -/
theorem tokensWithin_eq (rounds : Nat) (done : List Token) (text : Bytes) :
    tokensWithin rounds done text = done.reverse ++ tokensWithin rounds [] text := by
  induction rounds generalizing done text with
  | zero => simp [tokensWithin]
  | succ rounds inductionHypothesis =>
    cases text with
    | nil => simp [tokensWithin]
    | cons b rest =>
      by_cases blank : isSpace b = true
      · simp only [tokensWithin, blank, if_true]
        exact inductionHypothesis done rest
      · cases scanned : scanToken b rest with
        | none => simp [tokensWithin, blank, scanned]
        | some found =>
          simp only [tokensWithin, blank, scanned, if_false, Bool.false_eq_true]
          rw [inductionHypothesis (found.1 :: done), inductionHypothesis [found.1]]
          simp

/-- A text without tokens is white space. -/
theorem blank_of_tokensWithin {rounds : Nat} {text : Bytes} (enough : text.length ≤ rounds)
    (none : tokensWithin rounds [] text = []) :
    ∀ b ∈ text, isSpace b = true := by
  induction rounds generalizing text with
  | zero => simp [List.length_eq_zero_iff.mp (Nat.le_zero.mp enough)]
  | succ rounds inductionHypothesis =>
    cases text with
    | nil => simp
    | cons b rest =>
      by_cases blank : isSpace b = true
      · simp only [tokensWithin, blank, if_true] at none
        have others := inductionHypothesis (Nat.le_of_succ_le_succ enough) none
        simpa [blank] using others
      · cases scanned : scanToken b rest with
        | none => simp [tokensWithin, blank, scanned] at none
        | some found =>
          simp only [tokensWithin, blank, scanned, if_false, Bool.false_eq_true] at none
          rw [tokensWithin_eq] at none
          simp at none

/-- A text whose last token closes a container ends with a closing octet. -/
theorem endsClosed_of_tokensWithin {rounds : Nat} {text : Bytes} {before : List Token}
    {last : Token} (enough : text.length ≤ rounds)
    (cut : tokensWithin rounds [] text = before ++ [last]) (closing : last.IsClosing) :
    EndsClosed text := by
  induction rounds generalizing text before with
  | zero => simp [tokensWithin] at cut
  | succ rounds inductionHypothesis =>
    cases text with
    | nil => simp [tokensWithin] at cut
    | cons b rest =>
      have fewer : rest.length ≤ rounds := Nat.le_of_succ_le_succ enough
      by_cases blank : isSpace b = true
      · simp only [tokensWithin, blank, if_true] at cut
        exact (inductionHypothesis fewer cut).of_suffix (List.suffix_cons _ _)
      · cases scanned : scanToken b rest with
        | none =>
          have fault : last ∈ [Token.fault] := by
            rw [tokensWithin, if_neg blank, scanned] at cut
            have whole : [Token.fault] = before ++ [last] := cut
            rw [whole]
            exact List.mem_append_right before (List.mem_singleton_self last)
          rw [List.mem_singleton.mp fault] at closing
          simp [Token.IsClosing] at closing
        | some found =>
          obtain ⟨token, behind⟩ := found
          obtain ⟨suffix, closer⟩ := scanToken_suffix scanned
          simp only [tokensWithin, blank, scanned, if_false, Bool.false_eq_true] at cut
          rw [tokensWithin_eq] at cut
          cases before with
          | nil =>
            -- The closing token is the only one, so only white space follows it.
            have only : token = last ∧ tokensWithin rounds [] behind = [] := by simpa using cut
            obtain ⟨closes, rfl⟩ := closer (only.1 ▸ closing)
            exact ⟨[], b, behind, rfl, closes, blank_of_tokensWithin fewer only.2⟩
          | cons first before =>
            have later : tokensWithin rounds [] behind = before ++ [last] := by
              simp only [List.reverse_cons, List.reverse_nil, List.nil_append, List.cons_append,
                List.cons.injEq] at cut
              exact cut.2
            have shorter : behind.length ≤ rounds := Nat.le_trans suffix.length_le fewer
            have ends := inductionHypothesis shorter later
            exact ends.of_suffix (suffix.trans (List.suffix_cons _ _))

end Tokens

section Reading

/-- A reading that ends with a value took a last token that completed it, unless it was complete
before. -/
theorem last_of_run {awaiting : Awaiting} {tokens : List Token} {value : Json}
    (done : awaiting.run tokens = ⟨value, true⟩) :
    (tokens = [] ∧ awaiting = .behind value []) ∨
      ∃ before last previous, tokens = before ++ [last] ∧
        Awaiting.take previous last = some (.behind value []) := by
  induction tokens generalizing awaiting with
  | nil =>
    simp only [Awaiting.run] at done
    split at done
    · cases done
      exact .inl ⟨rfl, rfl⟩
    · cases done
  | cons token rest inductionHypothesis =>
    simp only [Awaiting.run] at done
    split at done
    · next following taken =>
      rcases inductionHypothesis done with ⟨rfl, rfl⟩ | ⟨before, last, previous, rfl, completed⟩
      · exact .inr ⟨[], token, awaiting, rfl, taken⟩
      · exact .inr ⟨token :: before, last, previous, rfl, completed⟩
    · cases done

/-- Whether a value is an array or an object. -/
def IsContainer (value : Json) : Prop :=
  (∃ items closed, value = .array items closed) ∨ ∃ members closed, value = .object members closed

/-- A token that begins a value completes no container. -/
theorem starting_completes_none {token : Token} {value : Json} {stack around : List Frame}
    (container : value.IsContainer) :
    token.starting stack ≠ some (.behind value around) := by
  intro begun
  unfold Token.starting at begun
  split at begun <;> cases begun <;> simp [IsContainer] at container

/-- A container is completed by a closing token only. -/
theorem closing_of_take {awaiting : Awaiting} {token : Token} {value : Json} {stack : List Frame}
    (container : value.IsContainer) (taken : awaiting.take token = some (.behind value stack)) :
    token.IsClosing := by
  unfold Awaiting.take at taken
  split at taken
  · exact absurd taken (starting_completes_none container)
  · exact .inl rfl
  · exact absurd taken (starting_completes_none container)
  · exact .inr rfl
  · cases taken
  · cases taken
  · cases taken
  · cases taken
  · exact .inl rfl
  · cases taken
  · exact .inr rfl
  · cases taken

/-- A text that is read in full as a container ends with a closing octet. -/
theorem endsClosed_of_read {text : Bytes} {value : Json} (container : value.IsContainer)
    (whole : read text = ⟨value, true⟩) :
    EndsClosed text := by
  rcases last_of_run whole with ⟨_, waiting⟩ | ⟨before, last, previous, cut, completed⟩
  · cases waiting
  · exact endsClosed_of_tokensWithin (Nat.le_refl _) cut (closing_of_take container completed)

end Reading

end IssueTracker.Json

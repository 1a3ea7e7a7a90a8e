import IssueTracker.Proofs.Json.Ending
import IssueTracker.Proofs.Json.Numerals
import IssueTracker.Proofs.Json.Quoting

/-!
# The texts of a value

Which texts the grammar has for a value: white space may stand around every token, the members of an
object keep their order, and neither a string nor a number has to be one that names something. Each
of these texts is read as its value.

The reader takes the tokens of such a text in any place where a value may stand, and is then behind
that value with all that was open still open. A number needs a comma, a closing bracket, white space
or the end of the text behind it, and what may be written around a value never puts anything else
there.
-/

namespace IssueTracker.Json

/-- Whether octets are white space. -/
def IsBlank (octets : Bytes) : Prop := ∀ b ∈ octets, isSpace b = true

/-- A member of an object with what is written of it. -/
structure MemberText where
  /-- What stands in front of the key. -/
  before : Bytes
  key : Bytes
  /-- What stands between the key and the colon. -/
  between : Bytes
  value : Json
  /-- What stands behind the colon. -/
  text : Bytes

namespace MemberText

/-- The member. -/
def member (piece : MemberText) : Bytes × Json := (piece.key, piece.value)

/-- The text of the member. -/
def octets (piece : MemberText) : Bytes :=
  piece.before ++ 0x22 :: (piece.key ++ 0x22 :: (piece.between ++ 0x3A :: piece.text))

/-- Whether the text is as the grammar has it up to the colon. -/
structure IsKeyed (piece : MemberText) : Prop where
  before : IsBlank piece.before
  key : IsStringText piece.key
  between : IsBlank piece.between

end MemberText

/-- Whether a text is that of a value. -/
inductive IsText : Json → Bytes → Prop
  | spaced {value : Json} {before text behind : Bytes} (front : IsBlank before)
      (spelled : IsText value text) (back : IsBlank behind) :
      IsText value (before ++ (text ++ behind))
  | null : IsText .null [0x6E, 0x75, 0x6C, 0x6C]
  | true : IsText (.bool true) [0x74, 0x72, 0x75, 0x65]
  | false : IsText (.bool false) [0x66, 0x61, 0x6C, 0x73, 0x65]
  | number {numeral : Numeral} {text : Bytes} (spelled : numeral.IsText text) :
      IsText (.number numeral) text
  | string {written : Bytes} (spelled : IsStringText written) :
      IsText (.string written) (0x22 :: (written ++ [0x22]))
  | emptyArray {blank : Bytes} (spaces : IsBlank blank) :
      IsText (.array [] true) (0x5B :: (blank ++ [0x5D]))
  | array {pieces : List (Json × Bytes)} (each : ∀ piece ∈ pieces, IsText piece.1 piece.2) :
      IsText (.array (pieces.map Prod.fst) true) (0x5B :: (joined (pieces.map Prod.snd) ++ [0x5D]))
  | emptyObject {blank : Bytes} (spaces : IsBlank blank) :
      IsText (.object [] true) (0x7B :: (blank ++ [0x7D]))
  | object {pieces : List MemberText} (keyed : ∀ piece ∈ pieces, piece.IsKeyed)
      (each : ∀ piece ∈ pieces, IsText piece.value piece.text) :
      IsText (.object (pieces.map MemberText.member) true)
        (0x7B :: (joined (pieces.map MemberText.octets) ++ [0x7D]))

section Tokens

/-- More rounds than octets make no difference. -/
theorem tokensWithin_enough {rounds more : Nat} {text : Bytes} (enough : text.length ≤ rounds)
    (plenty : text.length ≤ more) :
    tokensWithin rounds [] text = tokensWithin more [] text := by
  induction rounds generalizing more text with
  | zero =>
    rw [List.length_eq_zero_iff.mp (Nat.le_zero.mp enough)]
    cases more <;> rfl
  | succ rounds inductionHypothesis =>
    cases text with
    | nil => cases more <;> rfl
    | cons b rest =>
      rw [List.length_cons] at plenty
      obtain ⟨more, rfl⟩ : ∃ others, more = others + 1 := Nat.exists_eq_add_one.mpr (by omega)
      have fewer : rest.length ≤ rounds := Nat.le_of_succ_le_succ enough
      have fewerMore : rest.length ≤ more := Nat.le_of_succ_le_succ plenty
      by_cases blank : isSpace b = true
      · simp only [tokensWithin, blank, if_true]
        exact inductionHypothesis fewer fewerMore
      · cases scanned : scanToken b rest with
        | none => simp [tokensWithin, blank, scanned]
        | some found =>
          have shorter := (scanToken_suffix scanned).1.length_le
          simp only [tokensWithin, blank, scanned, if_false, Bool.false_eq_true]
          rw [tokensWithin_eq rounds, tokensWithin_eq more,
            inductionHypothesis (shorter.trans fewer) (shorter.trans fewerMore)]

/-- The tokens of a text are the first one and those of what remains behind it. -/
theorem tokens_cons {b : UInt8} {rest behind : Bytes} {token : Token}
    (visible : isSpace b = false) (scanned : scanToken b rest = some (token, behind)) :
    tokens (b :: rest) = token :: tokens behind := by
  have shorter := (scanToken_suffix scanned).1.length_le
  rw [tokens, List.length_cons, tokensWithin]
  simp only [visible, scanned, Bool.false_eq_true, if_false]
  rw [tokensWithin_eq, tokensWithin_enough shorter (Nat.le_refl _)]
  rfl

/-- White space holds no token. -/
theorem tokens_blank {blank : Bytes} (spaces : IsBlank blank) (text : Bytes) :
    tokens (blank ++ text) = tokens text := by
  induction blank with
  | nil => rfl
  | cons b rest inductionHypothesis =>
    obtain ⟨space, more⟩ := List.forall_mem_cons.mp spaces
    rw [← inductionHypothesis more]
    simp [tokens, tokensWithin, space]

/-- What can be put between quotes is one token with them. -/
theorem tokens_quoted {written : Bytes} (quotable : IsQuotable written) (rest : Bytes) :
    tokens (0x22 :: (written ++ 0x22 :: rest)) = .string written :: tokens rest := by
  apply tokens_cons rfl
  have scanned := quotable [] rest
  simp [scanToken, scanned]

/-- The text of a number is one token, if it ends there. -/
theorem tokens_numeral {n : Numeral} {text tail : Bytes} (spelled : n.IsText text)
    (ends : EndsNumber tail) :
    tokens (text ++ tail) = .number n :: tokens tail := by
  obtain ⟨b, rest, shape, visible, scanned⟩ := scanToken_numeral spelled ends
  rw [shape]
  exact tokens_cons visible scanned

end Tokens

section Reading

variable {awaiting next : Awaiting} {stack : List Frame} {token : Token} {text tail : Bytes}
  {value : Json}

/-- Whether a value may come next, in a stack of containers. -/
def AwaitsValue (awaiting : Awaiting) (stack : List Frame) : Prop :=
  ∀ token, token ≠ .closeArray → awaiting.take token = token.starting stack

/-- Whether a text is taken as a value wherever one may come. -/
def ReadsAs (value : Json) (text : Bytes) : Prop :=
  ∀ awaiting stack tail, AwaitsValue awaiting stack → EndsNumber tail →
    awaiting.run (tokens (text ++ tail)) = (Awaiting.behind value stack).run (tokens tail)

/-- A value may come where one is due, and as the first item. -/
theorem awaitsValue_due (stack : List Frame) : AwaitsValue (.due stack) stack := by
  intro token _
  cases token <;> rfl

theorem awaitsValue_firstItem (stack : List Frame) :
    AwaitsValue (.firstItem stack) (.array [] :: stack) := by
  intro token other
  cases token <;> first | rfl | exact absurd rfl other

/-- A token that fits is taken. -/
theorem run_cons {tokens : List Token} (taken : awaiting.take token = some next) :
    awaiting.run (token :: tokens) = next.run tokens := by
  simp [Awaiting.run, taken]

/-- A value of one token is taken at once. -/
theorem run_starting {tokens : List Token} (awaits : AwaitsValue awaiting stack)
    (other : token ≠ .closeArray) (starting : token.starting stack = some next) :
    awaiting.run (token :: tokens) = next.run tokens :=
  run_cons ((awaits token other).trans starting)

/-- A text that is one token is read as the value that the token starts. -/
theorem readsAs_token (single : ∀ tail, EndsNumber tail → tokens (text ++ tail) =
    token :: tokens tail) (other : token ≠ .closeArray)
    (starting : ∀ stack, token.starting stack = some (.behind value stack)) :
    ReadsAs value text := by
  intro awaiting stack tail awaits ends
  rw [single tail ends]
  exact run_starting awaits other (starting stack)

/-- A mark that can begin no number ends one. -/
theorem endsNumber_cons {b : UInt8} (digitless : Bytes.isDigit b = false)
    (other : b ≠ 0x2E ∧ b ≠ 0x65 ∧ b ≠ 0x45) (rest : Bytes) : EndsNumber (b :: rest) := by
  intro first same
  obtain rfl : b = first := by simpa using same
  exact ⟨digitless, other⟩

/-- White space ends a number. -/
theorem endsNumber_blank {blank : Bytes} (spaces : IsBlank blank) (ends : EndsNumber tail) :
    EndsNumber (blank ++ tail) := by
  cases blank with
  | nil => exact ends
  | cons b rest =>
    have space := spaces b (by simp)
    simp only [isSpace, Bool.or_eq_true, decide_eq_true_eq] at space
    rcases space with ((rfl | rfl) | rfl) | rfl <;> exact endsNumber_cons rfl (by decide) _

/-- Pieces are joined by a comma in front of each but the first. -/
theorem joined_cons (first : Bytes) (others : List Bytes) :
    joined (first :: others) = first ++ others.flatMap (0x2C :: ·) := by
  induction others generalizing first with
  | nil => simp [joined]
  | cons second others inductionHypothesis =>
    rw [joined, inductionHypothesis]
    · simp
    · simp

/-- What follows an item ends a number: a comma or a bracket. -/
theorem endsNumber_further {pieces : List Bytes} {closer : UInt8} (tail : Bytes)
    (closes : closer = 0x5D ∨ closer = 0x7D) :
    EndsNumber (pieces.flatMap (0x2C :: ·) ++ closer :: tail) := by
  cases pieces with
  | nil => rcases closes with rfl | rfl <;> exact endsNumber_cons rfl (by decide) _
  | cons first others => exact endsNumber_cons rfl (by decide) _

/-- Behind an item, the others are taken up to the bracket that closes the array. -/
theorem run_items {pieces : List (Json × Bytes)} {done : List Json}
    (each : ∀ piece ∈ pieces, ReadsAs piece.1 piece.2) :
    (Awaiting.behind value (.array done :: stack)).run
        (tokens ((pieces.map Prod.snd).flatMap (0x2C :: ·) ++ 0x5D :: tail)) =
      (Awaiting.behind (.array ((value :: done).reverse ++ pieces.map Prod.fst) true) stack).run
        (tokens tail) := by
  induction pieces generalizing value done with
  | nil =>
    have closing : tokens (0x5D :: tail) = .closeArray :: tokens tail := tokens_cons rfl rfl
    simp only [List.map_nil, List.flatMap_nil, List.nil_append, List.append_nil, closing]
    exact run_cons rfl
  | cons piece others inductionHypothesis =>
    have following (text : Bytes) : tokens (0x2C :: text) = .comma :: tokens text :=
      tokens_cons rfl rfl
    have back : ∀ other ∈ others, ReadsAs other.1 other.2 := fun other inside =>
      each other (by simp [inside])
    simp only [List.map_cons, List.flatMap_cons, List.cons_append, List.append_assoc, following]
    calc (Awaiting.behind value (.array done :: stack)).run (.comma :: tokens (piece.2 ++
          ((others.map Prod.snd).flatMap (0x2C :: ·) ++ 0x5D :: tail)))
        = (Awaiting.due (.array (value :: done) :: stack)).run (tokens (piece.2 ++
          ((others.map Prod.snd).flatMap (0x2C :: ·) ++ 0x5D :: tail))) := run_cons rfl
      _ = (Awaiting.behind piece.1 (.array (value :: done) :: stack)).run
          (tokens ((others.map Prod.snd).flatMap (0x2C :: ·) ++ 0x5D :: tail)) :=
        each piece (by simp) _ _ _ (awaitsValue_due _) (endsNumber_further tail (.inl rfl))
      _ = (Awaiting.behind (.array ((piece.1 :: value :: done).reverse ++ others.map Prod.fst) true)
          stack).run (tokens tail) := inductionHypothesis back
      _ = _ := by simp

/-- A member is taken where a key is awaited, as the key and the value that it is. -/
theorem run_member {piece : MemberText} {members : List (Bytes × Json)} (keyed : piece.IsKeyed)
    (back : ReadsAs piece.value piece.text)
    (awaited : awaiting.take (.string piece.key) = some (.colonAfter members piece.key stack))
    (ends : EndsNumber tail) :
    awaiting.run (tokens (piece.octets ++ tail)) =
      (Awaiting.behind piece.value (.object members piece.key :: stack)).run (tokens tail) := by
  have colon (text : Bytes) : tokens (0x3A :: text) = .colon :: tokens text := tokens_cons rfl rfl
  simp only [MemberText.octets, List.cons_append, List.append_assoc, tokens_blank keyed.before,
    tokens_quoted keyed.key.isQuotable, tokens_blank keyed.between, colon]
  calc awaiting.run (.string piece.key :: .colon :: tokens (piece.text ++ tail))
      = (Awaiting.colonAfter members piece.key stack).run
          (.colon :: tokens (piece.text ++ tail)) := run_cons awaited
    _ = (Awaiting.due (.object members piece.key :: stack)).run
          (tokens (piece.text ++ tail)) := run_cons rfl
    _ = _ := back _ _ _ (awaitsValue_due _) ends

/-- Behind the value of a member, the others are taken up to the brace that closes the object. -/
theorem run_members {pieces : List MemberText} {done : List (Bytes × Json)} {key : Bytes}
    (keyed : ∀ piece ∈ pieces, piece.IsKeyed)
    (each : ∀ piece ∈ pieces, ReadsAs piece.value piece.text) :
    (Awaiting.behind value (.object done key :: stack)).run
        (tokens ((pieces.map MemberText.octets).flatMap (0x2C :: ·) ++ 0x7D :: tail)) =
      (Awaiting.behind (.object (((key, value) :: done).reverse ++ pieces.map MemberText.member)
        true) stack).run (tokens tail) := by
  induction pieces generalizing key value done with
  | nil =>
    have closing : tokens (0x7D :: tail) = .closeObject :: tokens tail := tokens_cons rfl rfl
    simp only [List.map_nil, List.flatMap_nil, List.nil_append, List.append_nil, closing]
    exact run_cons rfl
  | cons piece others inductionHypothesis =>
    have following (text : Bytes) : tokens (0x2C :: text) = .comma :: tokens text :=
      tokens_cons rfl rfl
    have keys : ∀ other ∈ others, other.IsKeyed := fun other inside =>
      keyed other (by simp [inside])
    have back : ∀ other ∈ others, ReadsAs other.value other.text := fun other inside =>
      each other (by simp [inside])
    simp only [List.map_cons, List.flatMap_cons, List.cons_append, List.append_assoc, following]
    calc (Awaiting.behind value (.object done key :: stack)).run (.comma ::
          tokens (piece.octets ++
            ((others.map MemberText.octets).flatMap (0x2C :: ·) ++ 0x7D :: tail)))
        = (Awaiting.furtherKey ((key, value) :: done) stack).run (tokens (piece.octets ++
            ((others.map MemberText.octets).flatMap (0x2C :: ·) ++ 0x7D :: tail))) := run_cons rfl
      _ = (Awaiting.behind piece.value (.object ((key, value) :: done) piece.key :: stack)).run
          (tokens ((others.map MemberText.octets).flatMap (0x2C :: ·) ++ 0x7D :: tail)) :=
        run_member (keyed piece (by simp)) (each piece (by simp)) rfl
          (endsNumber_further tail (.inr rfl))
      _ = (Awaiting.behind (.object ((piece.member :: (key, value) :: done).reverse ++
            others.map MemberText.member) true) stack).run (tokens tail) :=
        inductionHypothesis keys back
      _ = _ := by simp

/-- An opening mark is taken where a value may come. -/
theorem run_opening {opener : UInt8} (awaits : AwaitsValue awaiting stack)
    (visible : isSpace opener = false)
    (scanned : ∀ rest, scanToken opener rest = some (token, rest)) (other : token ≠ .closeArray)
    (starting : token.starting stack = some next) :
    awaiting.run (tokens (opener :: text)) = next.run (tokens text) := by
  rw [tokens_cons visible (scanned text)]
  exact run_starting awaits other starting

/-- What the grammar has for a value is taken as that value. -/
theorem readsAs_of_isText (spelled : IsText value text) : ReadsAs value text := by
  induction spelled with
  | @spaced value before text behind front _ back inductionHypothesis =>
    intro awaiting stack tail awaits ends
    simp only [List.append_assoc]
    rw [tokens_blank front,
      inductionHypothesis awaiting stack (behind ++ tail) awaits (endsNumber_blank back ends),
      tokens_blank back]
  | null => exact readsAs_token (fun _ _ => tokens_cons rfl rfl) (by simp) fun _ => rfl
  | true => exact readsAs_token (fun _ _ => tokens_cons rfl rfl) (by simp) fun _ => rfl
  | false => exact readsAs_token (fun _ _ => tokens_cons rfl rfl) (by simp) fun _ => rfl
  | number spelled =>
    exact readsAs_token (fun _ ends => tokens_numeral spelled ends) (by simp) fun _ => rfl
  | @string written spelled =>
    have single (tail : Bytes) :
        tokens (0x22 :: (written ++ [0x22]) ++ tail) = .string written :: tokens tail := by
      simpa using tokens_quoted spelled.isQuotable tail
    exact readsAs_token (fun tail _ => single tail) (by simp) fun _ => rfl
  | @emptyArray blank spaces =>
    intro awaiting stack tail awaits _
    have closing : tokens (0x5D :: tail) = .closeArray :: tokens tail := tokens_cons rfl rfl
    simp only [List.cons_append, List.append_assoc, List.nil_append]
    rw [run_opening awaits rfl (fun _ => rfl) (by simp) rfl, tokens_blank spaces, closing]
    exact run_cons rfl
  | @array pieces each back =>
    intro awaiting stack tail awaits _
    simp only [List.cons_append, List.append_assoc, List.nil_append]
    rw [run_opening awaits rfl (fun _ => rfl) (by simp) rfl]
    cases pieces with
    | nil =>
      have closing : tokens (0x5D :: tail) = .closeArray :: tokens tail := tokens_cons rfl rfl
      simp only [List.map_nil, joined, List.nil_append, closing]
      exact run_cons rfl
    | cons piece others =>
      simp only [List.map_cons, joined_cons, List.append_assoc]
      rw [back piece (by simp) _ _ _ (awaitsValue_firstItem stack)
          (endsNumber_further tail (.inl rfl)),
        run_items fun other inside => back other (by simp [inside])]
      simp
  | @emptyObject blank spaces =>
    intro awaiting stack tail awaits _
    have closing : tokens (0x7D :: tail) = .closeObject :: tokens tail := tokens_cons rfl rfl
    simp only [List.cons_append, List.append_assoc, List.nil_append]
    rw [run_opening awaits rfl (fun _ => rfl) (by simp) rfl, tokens_blank spaces, closing]
    exact run_cons rfl
  | @object pieces keyed each back =>
    intro awaiting stack tail awaits _
    simp only [List.cons_append, List.append_assoc, List.nil_append]
    rw [run_opening awaits rfl (fun _ => rfl) (by simp) rfl]
    cases pieces with
    | nil =>
      have closing : tokens (0x7D :: tail) = .closeObject :: tokens tail := tokens_cons rfl rfl
      simp only [List.map_nil, joined, List.nil_append, closing]
      exact run_cons rfl
    | cons piece others =>
      simp only [List.map_cons, joined_cons, List.append_assoc]
      rw [run_member (keyed piece (by simp)) (back piece (by simp)) rfl
          (endsNumber_further tail (.inr rfl)),
        run_members (fun other inside => keyed other (by simp [inside]))
          fun other inside => back other (by simp [inside])]
      simp [MemberText.member]

/-- Each text of a value is read as that value. -/
theorem read_of_isText (spelled : IsText value text) : read text = ⟨value, true⟩ := by
  have ends : EndsNumber [] := by simp [EndsNumber]
  have back := readsAs_of_isText spelled (.due []) [] [] (awaitsValue_due []) ends
  rw [List.append_nil] at back
  rw [read, back]
  rfl

/-- The text of an object begins with its brace, white space in front aside. -/
theorem begins_of_isText_object {members : List (Bytes × Json)} {closed : Bool}
    (spelled : IsText (.object members closed) text) :
    ∃ blank rest, IsBlank blank ∧ text = blank ++ 0x7B :: rest := by
  generalize shape : Json.object members closed = value at spelled
  induction spelled with
  | null | true | false | number | string | emptyArray | array => cases shape
  | emptyObject | object => exact ⟨[], _, by simp [IsBlank], rfl⟩
  | @spaced value before text behind front _ _ inductionHypothesis =>
    obtain ⟨blank, rest, spaces, rfl⟩ := inductionHypothesis shape
    refine ⟨before ++ blank, rest ++ behind, ?_, by simp⟩
    intro b inside
    rcases List.mem_append.mp inside with inside | inside
    · exact front b inside
    · exact spaces b inside

end Reading

end IssueTracker.Json

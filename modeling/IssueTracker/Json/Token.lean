import IssueTracker.Json.Basic

/-!
# The tokens of a JSON text

A text is cut into tokens without regard to their order. The first octet that can begin no token,
or that spoils the one begun, ends the sequence with a `fault`; nothing behind it is looked at.
A token ends where it can end: `12x` is a number followed by a fault.
-/

namespace IssueTracker.Json

/-- The pieces of a JSON text. -/
inductive Token
  | openArray
  | closeArray
  | openObject
  | closeObject
  | comma
  | colon
  | null
  | bool (value : Bool)
  | number (numeral : Numeral)
  | string (written : Bytes)
  /-- Reading stops here. -/
  | fault
deriving Repr, DecidableEq

/-- The four characters that may stand between tokens. -/
def isSpace (b : UInt8) : Bool := b = 0x20 || b = 0x09 || b = 0x0A || b = 0x0D

/-- The characters that stand for themselves or for a control after a reverse solidus. -/
def isShortEscape (b : UInt8) : Bool :=
  b = 0x22 || b = 0x5C || b = 0x2F || b = 0x62 || b = 0x66 || b = 0x6E || b = 0x72 || b = 0x74

/-- Read up to the closing quote. Control characters must be escaped, and an escape must be one
of the known ones or have four hexadecimal digits; which text results is not asked. -/
def scanString (done : Bytes) : Bytes → Option (Bytes × Bytes)
  | [] => none
  | b :: rest =>
    if b = 0x22 then some (done.reverse, rest)
    else if b = 0x5C then
      match rest with
      | [] => none
      | e :: rest' =>
        if isShortEscape e then scanString (e :: b :: done) rest'
        else if e = 0x75 then
          match rest' with
          | h₁ :: h₂ :: h₃ :: h₄ :: rest'' =>
            if Bytes.isHex h₁ && Bytes.isHex h₂ && Bytes.isHex h₃ && Bytes.isHex h₄ then
              scanString (h₄ :: h₃ :: h₂ :: h₁ :: e :: b :: done) rest''
            else none
          | _ => none
        else none
    else if b < 0x20 then none
    else scanString (b :: done) rest

/-- The digits at the front and what follows them. -/
def spanDigits (text : Bytes) : Bytes × Bytes := text.span Bytes.isDigit

/-- The digits before the point. A zero stands alone. -/
def scanWhole (text : Bytes) : Option (Bytes × Bytes) :=
  match spanDigits text with
  | ([], _) => none
  | (digits@(first :: more), rest) =>
    if first = 0x30 && !more.isEmpty then none else some (digits, rest)

/-- The digits after a point, if there is one; a point needs at least one digit. -/
def scanFraction : Bytes → Option (Bytes × Bytes)
  | 0x2E :: rest =>
    match spanDigits rest with
    | ([], _) => none
    | found => some found
  | rest => some ([], rest)

/-- The sign of an exponent, which may be left out. -/
def scanSign : Bytes → Bool × Bytes
  | 0x2B :: rest => (false, rest)
  | 0x2D :: rest => (true, rest)
  | rest => (false, rest)

/-- The exponent, if a mark for one follows; a mark needs at least one digit. -/
def scanExponent : Bytes → Option (Option Exponent × Bytes)
  | [] => some (none, [])
  | b :: rest =>
    if b = 0x65 || b = 0x45 then
      let (negative, rest) := scanSign rest
      match spanDigits rest with
      | ([], _) => none
      | (digits, rest) => some (some ⟨negative, digits⟩, rest)
    else some (none, b :: rest)

/-- A number after its sign. -/
def scanNumber (negative : Bool) (text : Bytes) : Option (Token × Bytes) := do
  let (whole, text) ← scanWhole text
  let (fraction, text) ← scanFraction text
  let (exponent, text) ← scanExponent text
  return (.number ⟨negative, whole, fraction, exponent⟩, text)

/-- What is left of a text that begins with a word. -/
def dropWord : List UInt8 → Bytes → Option Bytes
  | [], text => some text
  | _ :: _, [] => none
  | w :: word, b :: text => if w = b then dropWord word text else none

/-- The token that begins with an octet, and the octets behind it. -/
def scanToken (b : UInt8) (rest : Bytes) : Option (Token × Bytes) :=
  if b = 0x5B then some (.openArray, rest)
  else if b = 0x5D then some (.closeArray, rest)
  else if b = 0x7B then some (.openObject, rest)
  else if b = 0x7D then some (.closeObject, rest)
  else if b = 0x2C then some (.comma, rest)
  else if b = 0x3A then some (.colon, rest)
  else if b = 0x22 then (scanString [] rest).map fun (written, rest) => (.string written, rest)
  else if b = 0x2D then scanNumber true rest
  else if Bytes.isDigit b then scanNumber false (b :: rest)
  else if b = 0x6E then (dropWord [0x75, 0x6C, 0x6C] rest).map (.null, ·)
  else if b = 0x74 then (dropWord [0x72, 0x75, 0x65] rest).map (.bool true, ·)
  else if b = 0x66 then (dropWord [0x61, 0x6C, 0x73, 0x65] rest).map (.bool false, ·)
  else none

/-- Cut a text, collecting tokens last first. Each round takes at least one octet, so as many
rounds as there are octets are enough. -/
def tokensWithin : (rounds : Nat) → (done : List Token) → Bytes → List Token
  | 0, done, _ => done.reverse
  | _ + 1, done, [] => done.reverse
  | rounds + 1, done, b :: rest =>
    if isSpace b then tokensWithin rounds done rest
    else
      match scanToken b rest with
      | some (token, rest) => tokensWithin rounds (token :: done) rest
      | none => (Token.fault :: done).reverse

/-- The tokens of a text. -/
def tokens (text : Bytes) : List Token := tokensWithin text.length [] text

end IssueTracker.Json

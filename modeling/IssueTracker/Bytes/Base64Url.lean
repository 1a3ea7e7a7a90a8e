import IssueTracker.Text.Utf8

/-!
# Base64 with the URL alphabet and no padding

Three octets are written as four symbols of six bits; a rest of one or two octets takes two or
three symbols, with the unused low bits zero. Reading is strict: each octet sequence has exactly
one written form. A refusal names the first offence in the order in which the groups are read,
except that a stray symbol in a lone fifth position is reported before anything else.
-/

namespace IssueTracker.Base64Url

/-- The symbol of a six-bit value; only values below 64 are passed. -/
def symbol (v : Nat) : Char :=
  if v < 26 then Char.ofNat (0x41 + v)
  else if v < 52 then Char.ofNat (0x61 + (v - 26))
  else if v < 62 then Char.ofNat (0x30 + (v - 52))
  else if v = 62 then '-' else '_'

/-- The six-bit value of a symbol. -/
def value? (b : UInt8) : Option Nat :=
  if 0x41 ≤ b && b ≤ 0x5A then some (b.toNat - 0x41)
  else if 0x61 ≤ b && b ≤ 0x7A then some (b.toNat - 0x61 + 26)
  else if 0x30 ≤ b && b ≤ 0x39 then some (b.toNat - 0x30 + 52)
  else if b = 0x2D then some 62
  else if b = 0x5F then some 63
  else none

/-- The padding symbol of the padded forms. It is never accepted here. -/
def pad : UInt8 := 0x3D

/-- Write octets, three at a time. -/
def encodeChars : Bytes → List Char
  | a :: b :: c :: rest =>
    symbol (a.toNat / 4) :: symbol (a.toNat % 4 * 16 + b.toNat / 16)
      :: symbol (b.toNat % 16 * 4 + c.toNat / 64) :: symbol (c.toNat % 64) :: encodeChars rest
  | [a, b] =>
    [symbol (a.toNat / 4), symbol (a.toNat % 4 * 16 + b.toNat / 16), symbol (b.toNat % 16 * 4)]
  | [a] => [symbol (a.toNat / 4), symbol (a.toNat % 4 * 16)]
  | [] => []

/-- The written form of an octet sequence. -/
def encode (bytes : Bytes) : String := String.ofList (encodeChars bytes)

/-- Why a text is not a written form. Offsets count octets from the start of the text. -/
inductive Fault
  /-- An octet that is no symbol, or padding where none may stand. -/
  | invalidSymbol (octet : UInt8) (offset : Nat)
  /-- A last group of a single symbol. -/
  | invalidLength (length : Nat)
  /-- A last symbol whose unused bits are not zero. -/
  | invalidLastSymbol (octet : UInt8) (offset : Nat)
  /-- A last group that would be right if padding were in use. -/
  | invalidPadding
deriving Repr, DecidableEq

/-- The wording of a refusal. -/
def Fault.message : Fault → String
  | .invalidSymbol octet offset => s!"Invalid symbol {octet.toNat}, offset {offset}."
  | .invalidLength length => s!"Invalid input length: {length}"
  | .invalidLastSymbol octet offset => s!"Invalid last symbol {octet.toNat}, offset {offset}."
  | .invalidPadding => "Invalid padding"

/-- The value of the symbol at an offset, or its refusal. -/
def valueAt (offset : Nat) (b : UInt8) : Except Fault Nat :=
  match value? b with
  | some v => .ok v
  | none => .error (.invalidSymbol b offset)

/-- What the last group held: its values in order, its last symbol, and where padding began. -/
structure LastGroup where
  /-- The symbol values, last first. -/
  values : List Nat := []
  /-- The last symbol that was no padding. -/
  last : UInt8 := 0
  /-- The place in the group of the first padding symbol. -/
  padding : Option Nat := none

/-- Read the last group symbol by symbol. Padding may only end it, and not before its third
symbol; padding that something follows is reported where it began. -/
def readLast (offset : Nat) (place : Nat) (seen : LastGroup) : Bytes → Except Fault LastGroup
  | [] => .ok seen
  | b :: rest =>
    if b = pad then
      if place < 2 then .error (.invalidSymbol b (offset + place))
      else
        readLast offset (place + 1)
          { seen with padding := some (seen.padding.getD place) } rest
    else
      match seen.padding with
      | some first => .error (.invalidSymbol pad (offset + first))
      | none =>
        match valueAt (offset + place) b with
        | .error fault => .error fault
        | .ok v =>
          readLast offset (place + 1) { seen with values := v :: seen.values, last := b } rest

/-- The octets of a last group of two, three or four symbols. -/
def finish (offset : Nat) (seen : LastGroup) : Except Fault Bytes :=
  match seen.values.reverse with
  | [] => .error (.invalidLength offset)
  | [_] => .error (.invalidLength (offset + 1))
  | a :: b :: more =>
    if seen.padding.isSome then .error .invalidPadding
    else
      match more with
      | [] =>
        if b % 16 = 0 then .ok [UInt8.ofNat (a * 4 + b / 16)]
        else .error (.invalidLastSymbol seen.last (offset + 1))
      | [c] =>
        if c % 4 = 0 then .ok [UInt8.ofNat (a * 4 + b / 16), UInt8.ofNat (b % 16 * 16 + c / 4)]
        else .error (.invalidLastSymbol seen.last (offset + 2))
      | c :: d :: _ =>
        .ok [UInt8.ofNat (a * 4 + b / 16), UInt8.ofNat (b % 16 * 16 + c / 4),
          UInt8.ofNat (c % 4 * 64 + d)]

/-- Read group by group, collecting octets last first. The final group, complete or not, is read
by its own rules. -/
def decodeFrom (offset : Nat) (done : Bytes) : Bytes → Except Fault Bytes
  | a :: b :: c :: d :: rest =>
    match rest with
    | [] => (readLast offset 0 {} [a, b, c, d]).bind (finish offset) |>.map (done.reverse ++ ·)
    | _ :: _ =>
      match valueAt offset a, valueAt (offset + 1) b, valueAt (offset + 2) c,
        valueAt (offset + 3) d with
      | .error fault, _, _, _ => .error fault
      | _, .error fault, _, _ => .error fault
      | _, _, .error fault, _ => .error fault
      | _, _, _, .error fault => .error fault
      | .ok a, .ok b, .ok c, .ok d =>
        decodeFrom (offset + 4)
          (UInt8.ofNat (c % 4 * 64 + d) :: UInt8.ofNat (b % 16 * 16 + c / 4)
            :: UInt8.ofNat (a * 4 + b / 16) :: done) rest
  | [] => .ok done.reverse
  | last => (readLast offset 0 {} last).bind (finish offset) |>.map (done.reverse ++ ·)

/-- A symbol that is out of place because it starts a group it cannot finish: when the count of
octets is one above a multiple of four, a last octet outside the alphabet is reported first. -/
def straySymbol? (text : Bytes) : Option Fault :=
  match text.getLast? with
  | none => none
  | some last =>
    if text.length % 4 = 1 && last != pad && (value? last).isNone then
      some (.invalidSymbol last (text.length - 1))
    else none

/-- Read the octets of a written form. -/
def decodeBytes (text : Bytes) : Except Fault Bytes :=
  match straySymbol? text with
  | some fault => .error fault
  | none => decodeFrom 0 [] text

/-- Read a text; its octets are judged, so a character beyond ASCII is reported by its first. -/
def decode (text : String) : Except Fault Bytes := decodeBytes (Utf8.encode text)

end IssueTracker.Base64Url

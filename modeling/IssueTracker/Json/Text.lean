import IssueTracker.Json.Basic
import IssueTracker.Text.Utf8

/-!
# What a JSON string says

The text that a string as written stands for, and the written form of a text. Reading resolves
escapes; it refuses octets that are not UTF-8 and escaped surrogates that do not pair up. Writing
escapes the quote, the reverse solidus and the control characters, and nothing else, so reading
a written text gives it back.
-/

namespace IssueTracker.Json

/-- The value of four hexadecimal digits. -/
def hexValue (h₁ h₂ h₃ h₄ : UInt8) : Nat :=
  ([h₁, h₂, h₃, h₄].map fun h => (Bytes.hexValue? h).getD 0).foldl (16 * · + ·) 0

/-- The octet that a short escape stands for. -/
def shortEscape (b : UInt8) : UInt8 :=
  if b = 0x62 then 0x08 else if b = 0x66 then 0x0C else if b = 0x6E then 0x0A
  else if b = 0x72 then 0x0D else if b = 0x74 then 0x09 else b

/-- Whether a number is the first half of a surrogate pair. -/
def isLeading (n : Nat) : Bool := 0xD800 ≤ n && n ≤ 0xDBFF

/-- Whether a number is the second half of a surrogate pair. -/
def isTrailing (n : Nat) : Bool := 0xDC00 ≤ n && n ≤ 0xDFFF

/-- Put the octets of a character in front of a list kept last first. -/
def pushChar (code : Nat) (done : Bytes) : Bytes :=
  (String.utf8EncodeChar (Char.ofNat code)).reverse ++ done

/-- Resolve the escapes of a written string, collecting octets last first. -/
def unescapeFrom (done : Bytes) : Bytes → Option Bytes
  | [] => some done.reverse
  | b :: rest =>
    if b = 0x5C then
      match rest with
      | [] => none
      | e :: rest' =>
        if e = 0x75 then
          match rest' with
          | h₁ :: h₂ :: h₃ :: h₄ :: rest'' =>
            let code := hexValue h₁ h₂ h₃ h₄
            if isTrailing code then none
            else if isLeading code then
              match rest'' with
              | 0x5C :: 0x75 :: t₁ :: t₂ :: t₃ :: t₄ :: rest''' =>
                let low := hexValue t₁ t₂ t₃ t₄
                if isTrailing low then
                  unescapeFrom (pushChar (0x10000 + (code - 0xD800) * 1024 + (low - 0xDC00)) done)
                    rest'''
                else none
              | _ => none
            else unescapeFrom (pushChar code done) rest''
          | _ => none
        else unescapeFrom (shortEscape e :: done) rest'
    else unescapeFrom (b :: done) rest

/-- The text of a string as written, if it names one. -/
def text? (written : Bytes) : Option String := (unescapeFrom [] written).bind Utf8.decode?

/-- A small hexadecimal digit; only values below 16 are passed. -/
def hexDigit (v : Nat) : UInt8 := if v < 10 then (0x30 + v).toUInt8 else (0x61 + (v - 10)).toUInt8

/-- How an octet of a text is written. Octets of characters beyond ASCII stand for themselves. -/
def escapeOctet (b : UInt8) : Bytes :=
  if b = 0x22 || b = 0x5C then [0x5C, b]
  else if b = 0x08 then [0x5C, 0x62]
  else if b = 0x0C then [0x5C, 0x66]
  else if b = 0x0A then [0x5C, 0x6E]
  else if b = 0x0D then [0x5C, 0x72]
  else if b = 0x09 then [0x5C, 0x74]
  else if b < 0x20 then [0x5C, 0x75, 0x30, 0x30, hexDigit (b.toNat / 16), hexDigit (b.toNat % 16)]
  else [b]

/-- The written form of a text. -/
def written (s : String) : Bytes := (Utf8.encode s).flatMap escapeOctet

/-- A string value that says a text. -/
def ofText (s : String) : Json := .string (written s)

end IssueTracker.Json

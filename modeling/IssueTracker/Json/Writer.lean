import IssueTracker.Json.Basic
import IssueTracker.Json.Text

/-!
# Writing a JSON tree

The shortest text of a tree: no white space, members in their order. Only trees without broken
parts have a text; a part that is broken or unclosed is written as far as it goes.
-/

namespace IssueTracker.Json

/-- A number in its written form. -/
def Numeral.write (n : Numeral) : Bytes :=
  (if n.negative then [0x2D] else []) ++ n.whole
    ++ (if n.fraction.isEmpty then [] else 0x2E :: n.fraction)
    ++ (match n.exponent with
      | none => []
      | some e => 0x65 :: (if e.negative then [0x2D] else []) ++ e.digits)

/-- Pieces with a comma between them. -/
def joined : List Bytes → Bytes
  | [] => []
  | [last] => last
  | first :: rest => first ++ 0x2C :: joined rest

mutual

/-- The text of a value. -/
def write : Json → Bytes
  | .null => [0x6E, 0x75, 0x6C, 0x6C]
  | .bool true => [0x74, 0x72, 0x75, 0x65]
  | .bool false => [0x66, 0x61, 0x6C, 0x73, 0x65]
  | .number numeral => numeral.write
  | .string written => 0x22 :: written ++ [0x22]
  | .array items closed => 0x5B :: joined (writeItems items) ++ (if closed then [0x5D] else [])
  | .object members closed =>
    0x7B :: joined (writeMembers members) ++ (if closed then [0x7D] else [])
  | .broken => []

/-- The texts of items. -/
def writeItems : List Json → List Bytes
  | [] => []
  | item :: rest => item.write :: writeItems rest

/-- The texts of members. -/
def writeMembers : List (Bytes × Json) → List Bytes
  | [] => []
  | (key, value) :: rest => (0x22 :: key ++ 0x22 :: 0x3A :: value.write) :: writeMembers rest

end

/-- An array value. -/
def ofList (items : List Json) : Json := .array items true

/-- An object value with the given keys. -/
def ofMembers (members : List (String × Json)) : Json :=
  .object (members.map fun (key, value) => (written key, value)) true

/-- An array of strings. -/
def ofTexts (texts : List String) : Json := ofList (texts.map ofText)

end IssueTracker.Json

import IssueTracker.Bytes

/-!
# JSON texts as they read

A JSON text is read from left to right and may go wrong at any point, so the tree kept for it
records how far reading got: a container says whether its closing bracket was reached, and a
value that could not be read is `broken`. A reader of the tree that walks it in order meets a
fault of the text exactly where a reader of the octets would.

Strings and numbers stay as written. A string that nobody asks for is never decoded, and may
hold escapes or octets that name no text; what it does name is `Json.Text`, and what a number
amounts to is `Json.Number`.
-/

namespace IssueTracker

/-- The exponent of a number as written. -/
structure Json.Exponent where
  /-- Whether a minus sign was written. -/
  negative : Bool
  /-- Its digits, at least one. -/
  digits : Bytes
deriving Repr, DecidableEq

/-- A number as written. -/
structure Json.Numeral where
  /-- Whether a minus sign was written. -/
  negative : Bool
  /-- The digits before the point: a single zero, or no zero in front. -/
  whole : Bytes
  /-- The digits after the point; none when there is no point. -/
  fraction : Bytes := []
  /-- The exponent, if one was written. -/
  exponent : Option Json.Exponent := none
deriving Repr, DecidableEq

/-- A JSON value as far as it could be read. -/
inductive Json
  /-- The word `null`. -/
  | null
  /-- One of the words `true` and `false`. -/
  | bool (value : Bool)
  /-- A number as written. -/
  | number (numeral : Json.Numeral)
  /-- A string as written between its quotes. -/
  | string (written : Bytes)
  /-- The items read, and whether the closing bracket followed them. -/
  | array (items : List Json) (closed : Bool)
  /-- The members read, keys as written, and whether the closing brace followed them. -/
  | object (members : List (Bytes × Json)) (closed : Bool)
  /-- No value could be read here. -/
  | broken
deriving Repr

/-- A text read as one value. -/
structure Json.Document where
  /-- The value. -/
  root : Json
  /-- Whether nothing but white space surrounds the value. -/
  complete : Bool
deriving Repr

end IssueTracker

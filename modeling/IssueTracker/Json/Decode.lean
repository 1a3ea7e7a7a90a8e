import IssueTracker.Json.Reader
import IssueTracker.Json.Number
import IssueTracker.Json.Text

/-!
# Values with a known shape

Readers for the shapes this library expects of a JSON value. A reader walks the tree in the order
of the text and reports the first thing it cannot accept, whether the text is at fault or its
shape. What a value of an unexpected kind is reported as depends on that value being a proper one
of its own kind: a scalar is looked at in full, a container only by its opening bracket.

Records have named fields. They may be written as an object, where members of other names are
passed over unread, or as an array with the fields in their declared order.
-/

namespace IssueTracker.Json

/-- Why a text does not yield a value of the expected shape. -/
inductive Fault
  /-- The text is not JSON, or a string or number in it names nothing. -/
  | malformed
  /-- A value of another kind, or outside the accepted range. -/
  | shape
  /-- A required field is missing. -/
  | missing (field : String)
  /-- A field occurs twice. -/
  | duplicate (field : String)
  /-- A point in time that cannot be represented. -/
  | instant (n : Number)
deriving Repr, DecidableEq

namespace Fault

/-- The wording of a fault, where one is fixed; otherwise the words are left open. -/
def message : Fault → String
  | .malformed | .shape => "*"
  | .missing field => s!"missing field `{field}`"
  | .duplicate field => s!"duplicate field `{field}`"
  | .instant n => s!"epoch timestamp out of range {n.render}"

end Fault

/-- What is wrong with a value that is not of the expected kind. -/
def unexpected : Json → Fault
  | .broken => .malformed
  | .string written => if (text? written).isSome then .shape else .malformed
  | .number numeral => if numeral.value?.isSome then .shape else .malformed
  | _ => .shape

/-- A reader of values. -/
abbrev Reader (α : Type) := Json → Except Fault α

/-- Read a string. -/
def asText : Reader String
  | .string written => match text? written with
    | some text => .ok text
    | none => .error .malformed
  | other => .error (unexpected other)

/-- Read a number. -/
def asNumber : Reader Number
  | .number numeral => match numeral.value? with
    | some n => .ok n
    | none => .error .malformed
  | other => .error (unexpected other)

/-- Read an integer between two bounds. -/
def asInteger (low high : Int) (json : Json) : Except Fault Int :=
  match asNumber json with
  | .error fault => .error fault
  | .ok (.integer value) => if low ≤ value ∧ value ≤ high then .ok value else .error .shape
  | .ok (.binary _) => .error .shape

/-- Read a natural number that fits 64 bits. -/
def asNatural (json : Json) : Except Fault Nat := (asInteger 0 maxUnsigned json).map Int.toNat

/-- Read a value that may be `null`. -/
def asOptional (reader : Reader α) : Reader (Option α)
  | .null => .ok none
  | other => (reader other).map some

/-- Read the items of an array in order. -/
def asList (reader : Reader α) : Reader (List α)
  | .array items closed => do
    let values ← items.mapM reader
    if closed then return values else throw .malformed
  | other => .error (unexpected other)

/-- What a record does without one of its fields. -/
inductive Absence
  /-- The field is required. -/
  | refused
  /-- An object may leave it out, an array may not. -/
  | emptyInObject
  /-- It has a default in both forms. -/
  | defaulted
deriving Repr, DecidableEq

/-- A field of a record. -/
structure Field where
  /-- Its name in an object. -/
  name : String
  /-- What is wrong with a value given for it. -/
  fault? : Json → Option Fault
  /-- What happens without it. -/
  absence : Absence

/-- A field whose values a reader accepts. -/
def Field.of (name : String) (reader : Reader α) (absence : Absence) : Field where
  name := name
  fault? json := match reader json with
    | .ok _ => none
    | .error fault => some fault
  absence := absence

/-- The values given for the fields of a record, by name. -/
abbrev Given := List (String × Json)

/-- Collect the members that are fields, last first. The first fault in the order of the text
ends the collecting: a key that names no text, a field given twice, a value it does not take, or
what `other?` finds wrong with the value of a member that is no field. -/
def collectMembers (fields : List Field) (other? : Json → Option Fault) (given : Given) :
    List (Bytes × Json) → Except Fault Given
  | [] => .ok given
  | (key, value) :: rest =>
    match text? key with
    | none => .error .malformed
    | some name =>
      match fields.find? (·.name = name) with
      | none =>
        match other? value with
        | some fault => .error fault
        | none => collectMembers fields other? given rest
      | some field =>
        if given.any (·.1 = name) then .error (.duplicate name)
        else
          match field.fault? value with
          | some fault => .error fault
          | none => collectMembers fields other? ((name, value) :: given) rest

/-- Members that are no fields are passed over. -/
def passedOver : Json → Option Fault := fun _ => none

/-- Pair items with fields, last first. An array too long is no JSON for this purpose, one too
short has the wrong shape unless the rest is defaulted. -/
def collectItems (closed : Bool) (given : Given) : List Field → List Json → Except Fault Given
  | [], [] => if closed then .ok given else .error .malformed
  | [], _ :: _ => .error .malformed
  | field :: fields, item :: items =>
    match field.fault? item with
    | some fault => .error fault
    | none => collectItems closed ((field.name, item) :: given) fields items
  | field :: fields, [] =>
    if !closed then .error .malformed
    else if field.absence = .defaulted then collectItems closed given fields []
    else .error .shape

/-- The first required field that was not given. -/
def missingField? (fields : List Field) (given : Given) : Option String :=
  (fields.find? fun field => field.absence = .refused && !given.any (·.1 = field.name)).map (·.name)

/-- Read the members of an object as fields of a record. -/
def asMembers (fields : List Field) (members : List (Bytes × Json)) (closed : Bool) :
    Except Fault Given :=
  match collectMembers fields passedOver [] members with
  | .error fault => .error fault
  | .ok given =>
    if !closed then .error .malformed
    else
      match missingField? fields given with
      | some name => .error (.missing name)
      | none => .ok given

/-- Read a record in either of its written forms. -/
def asRecord (fields : List Field) : Reader Given
  | .object members closed => asMembers fields members closed
  | .array items closed => collectItems closed [] fields items
  | other => .error (unexpected other)

/-- The value given for a field, read; a default stands in for one that was not given. -/
def Given.readOr (given : Given) (name : String) (reader : Reader α) (default : α) :
    Except Fault α :=
  match given.find? (·.1 = name) with
  | some (_, value) => reader value
  | none => .ok default

/-- The value given for a required field, read. -/
def Given.read (given : Given) (name : String) (reader : Reader α) : Except Fault α :=
  match given.find? (·.1 = name) with
  | some (_, value) => reader value
  | none => .error (.missing name)

/-- Read a whole text; anything behind the value is a fault of the text. -/
def decode (reader : Reader α) (text : Bytes) : Except Fault α :=
  let document := read text
  match reader document.root with
  | .error fault => .error fault
  | .ok value => if document.complete then .ok value else .error .malformed

end IssueTracker.Json

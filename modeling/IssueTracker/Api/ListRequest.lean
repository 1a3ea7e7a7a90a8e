import IssueTracker.Json.Decode
import IssueTracker.Number.Natural
import IssueTracker.Store.Listing
import IssueTracker.Url.Form

/-!
# List requests

A list request names the text to look for, a limit and an offset, each at most once. In a query
they are pairs of names and values, in JSON they are the fields of a record. Other names are
passed over. A query has no control characters, spaces, quotes or angle brackets as they are.
-/

namespace IssueTracker.Api.ListRequest

/-- The values given under a name. -/
def valuesOf (name : String) (pairs : List (String × String)) : List String :=
  (pairs.filter (·.1 = name)).map (·.2)

/-- The value given under a name; two of them are refused. -/
def valueOf (name : String) (pairs : List (String × String)) : Option (Option String) :=
  match valuesOf name pairs with
  | [] => some none
  | [value] => some (some value)
  | _ => none

/-- The number given under a name; a value that is no number is refused. -/
def numberOf (name : String) (pairs : List (String × String)) : Option (Option Nat) :=
  match valueOf name pairs with
  | none => none
  | some none => some none
  | some (some value) => (Natural.ofText? Natural.bound64 value).map some

/-- Whether an octet may stand in a query as it is. -/
def isQueryOctet (b : UInt8) : Bool := 0x20 < b && b ≠ 0x22 && b ≠ 0x3C && b ≠ 0x3E

/-- The list request in a query, unless it is refused. -/
def ofQuery (query : Bytes) : Option Listing := do
  if !query.all isQueryOctet then none
  let pairs := Form.pairs query
  let text ← valueOf "q" pairs
  let limit ← numberOf "limit" pairs
  let offset ← numberOf "offset" pairs
  return Listing.ofParts text limit offset

/-- The fields of a list request. An array has them all. -/
def fields : List Json.Field := [
  .of "q" (Json.asOptional Json.asText) .emptyInObject,
  .of "limit" (Json.asOptional Json.asNatural) .emptyInObject,
  .of "offset" (Json.asOptional Json.asNatural) .emptyInObject]

/-- Read a list request. -/
def ofJson : Json.Reader Listing := fun json => do
  let given ← Json.asRecord fields json
  let text ← given.readOr "q" (Json.asOptional Json.asText) none
  let limit ← given.readOr "limit" (Json.asOptional Json.asNatural) none
  let offset ← given.readOr "offset" (Json.asOptional Json.asNatural) none
  return Listing.ofParts text limit offset

end IssueTracker.Api.ListRequest

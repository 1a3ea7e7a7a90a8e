import IssueTracker.Auth.Error
import IssueTracker.Crypto.Rsa

/-!
# Published keys

A key set is a list of keys in the order of publication. A key is of one of four families, each
with its own required members; a set with a key that fits none of them is refused as a whole.
Since the members of a key are sorted out only after the key has been read, all of them are read
in full, whatever their names.
-/

namespace IssueTracker.Auth

/-- The members of a key that depend on its family. -/
inductive KeyMaterial
  | ellipticCurve (x y : String)
  | rsa (modulus exponent : String)
  | octets (value : String)
  | octetPair (x : String)
deriving Repr, DecidableEq

/-- A published key. -/
structure Jwk where
  /-- The name by which tokens refer to it. -/
  kid : Option String
  material : KeyMaterial
deriving Repr, DecidableEq

namespace Jwk

/-- How deep values may nest when they are read in full; the outermost object counts. -/
def maxDepth : Nat := 127

/-- Whether a value can be read in full: every string and key names a text, every number is in
range, every container is closed, and nesting stays within a depth. -/
def isReadable : (depth : Nat) → Json → Bool
  | _, .null | _, .bool _ => true
  | _, .number numeral => numeral.value?.isSome
  | _, .string written => (Json.text? written).isSome
  | _, .broken => false
  | 0, .array _ _ | 0, .object _ _ => false
  | depth + 1, .array items closed => items.all (isReadable depth) && closed
  | depth + 1, .object members closed =>
    members.all (fun (key, value) => (Json.text? key).isSome && isReadable depth value) && closed

/-- What is wrong with a value that has to be read in full. -/
def unreadable? (depth : Nat) (json : Json) : Option Json.Fault :=
  if isReadable depth json then none else some .malformed

/-- The value `null`. -/
def isNull : Json → Bool
  | .null => true
  | _ => false

/-- The value `null`, or an object without members. -/
def isNullOrBare : Json → Bool
  | .null | .object [] true => true
  | _ => false

/-- Read a name out of a list. It may also be written as an object with the name as its only key
and a value that says nothing. -/
def asName (saysNothing : Json → Bool) (accepts : String → Bool) : Json.Reader String := fun json =>
  let name? := match json with
    | .string written => Json.text? written
    | .object [(key, value)] true => if saysNothing value then Json.text? key else none
    | _ => none
  match name? with
  | some name => if accepts name then .ok name else .error .shape
  | none => .error (Json.unexpected json)

/-- The members that all keys share. Their values are checked even where they have no use here. -/
def sharedFields : List Json.Field := [
  .of "use" (Json.asOptional Json.asText) .defaulted,
  .of "key_ops" (Json.asOptional (Json.asList Json.asText)) .defaulted,
  .of "alg" (Json.asOptional (asName isNullOrBare fun _ => true)) .defaulted,
  .of "kid" (Json.asOptional Json.asText) .defaulted,
  .of "x5u" (Json.asOptional Json.asText) .defaulted,
  .of "x5c" (Json.asOptional (Json.asList Json.asText)) .defaulted,
  .of "x5t" (Json.asOptional Json.asText) .defaulted,
  .of "x5t#S256" (Json.asOptional Json.asText) .defaulted]

/-- The curves that may be named. -/
def curves : List String := ["P-256", "P-384", "P-521", "Ed25519"]

/-- The value of a member that occurs exactly once. -/
def only? (members : List (Bytes × Json)) (name : String) : Option Json :=
  match members.filter fun (key, _) => Json.text? key = some name with
  | [(_, value)] => some value
  | _ => none

/-- The text of a member that occurs exactly once. -/
def onlyText? (members : List (Bytes × Json)) (name : String) : Option String := do
  (Json.asText (← only? members name)).toOption

/-- Whether a member occurs exactly once and names a known curve. -/
def hasCurve (members : List (Bytes × Json)) : Bool :=
  match only? members "crv" with
  | some value => (asName isNull curves.contains value).toBool
  | none => false

/-- The members of a key's family. -/
def material? (members : List (Bytes × Json)) : Option KeyMaterial := do
  let family ← (asName isNull (fun _ => true) (← only? members "kty")).toOption
  if family = "EC" then
    if hasCurve members then
      return .ellipticCurve (← onlyText? members "x") (← onlyText? members "y")
    else none
  else if family = "RSA" then return .rsa (← onlyText? members "n") (← onlyText? members "e")
  else if family = "oct" then return .octets (← onlyText? members "k")
  else if family = "OKP" then
    if hasCurve members then return .octetPair (← onlyText? members "x") else none
  else none

/-- Read a key. -/
def ofJson (depth : Nat) : Json.Reader Jwk
  | .object members closed =>
    if !isReadable depth (.object members closed) then .error .malformed
    else do
      let given ← Json.collectMembers sharedFields Json.passedOver [] members
      let kid ← given.readOr "kid" (Json.asOptional Json.asText) none
      match material? members with
      | some material => return ⟨kid, material⟩
      | none => throw .shape
  | other => .error (Json.unexpected other)

end Jwk

/-- A published set of keys. -/
structure KeySet where
  keys : List Jwk
deriving Repr, DecidableEq

namespace KeySet

/-- The only member of a key set that is read. -/
def fields : List Json.Field := [
  .of "keys" (Json.asList (Jwk.ofJson (Jwk.maxDepth - 2))) .refused]

/-- Read a key set. -/
def ofJson : Json.Reader KeySet := fun json => do
  let given ← Json.asRecord fields json
  let keys ← given.read "keys" (Json.asList (Jwk.ofJson (Jwk.maxDepth - 2)))
  return ⟨keys⟩

end KeySet

end IssueTracker.Auth

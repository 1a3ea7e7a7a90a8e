import IssueTracker.Auth.Envelope
import IssueTracker.Auth.Jwk

/-!
# The identity provider

A provider vouches for the payload of a token, or says why not. The one described here holds a
published key set and checks compact tokens signed with RSA and SHA-256. It picks exactly one key
by the name in the token's header and tries no other.

To the rest of the service a provider is what it answers and how long it takes to do so.
-/

namespace IssueTracker.Auth

/-- What a provider says of a token, and how long it takes. -/
structure Verdict where
  /-- The octets of the payload it vouches for. -/
  answer : Except ProviderError Bytes
  latency : Duration

/-- A provider of verdicts. -/
abbrev Provider := String → Verdict

/-- The header of a token as the provider reads it. -/
structure JoseHeader where
  alg : String
  kid : Option String
deriving Repr, DecidableEq

namespace JoseHeader

/-- The algorithms that a header may name. -/
def algorithms : List String := [
  "HS256", "HS384", "HS512", "ES256", "ES384", "RS256", "RS384", "RS512", "PS256", "PS384",
  "PS512", "EdDSA"]

/-- The members with values of their own kind. -/
def fields : List Json.Field := [
  .of "typ" (Json.asOptional Json.asText) .emptyInObject,
  .of "alg" (Jwk.asName Jwk.isNull algorithms.contains) .refused,
  .of "cty" (Json.asOptional Json.asText) .emptyInObject,
  .of "jku" (Json.asOptional Json.asText) .emptyInObject,
  .of "jwk" (Json.asOptional (Jwk.ofJson (Jwk.maxDepth - 1))) .emptyInObject,
  .of "kid" (Json.asOptional Json.asText) .emptyInObject,
  .of "x5u" (Json.asOptional Json.asText) .emptyInObject,
  .of "x5c" (Json.asOptional (Json.asList Json.asText)) .emptyInObject,
  .of "x5t" (Json.asOptional Json.asText) .emptyInObject,
  .of "x5t#S256" (Json.asOptional Json.asText) .emptyInObject,
  .of "crit" (Json.asOptional (Json.asList Json.asText)) .emptyInObject,
  .of "enc" (Json.asOptional Json.asText) .emptyInObject,
  .of "zip" (Json.asOptional Json.asText) .emptyInObject,
  .of "url" (Json.asOptional Json.asText) .emptyInObject,
  .of "nonce" (Json.asOptional Json.asText) .emptyInObject]

/-- Whether a member is either one of the fields or a string. -/
def isFieldOrText (member : Bytes × Json) : Bool :=
  match Json.text? member.1, member.2 with
  | some name, value => fields.any (·.name = name) || (Json.asText value).toBool
  | none, _ => false

/-- Read a header. It is an object, and its members of other names are strings. -/
def ofJson : Json.Reader JoseHeader
  | .object members closed => do
    let given ← Json.collectMembers fields (Jwk.unreadable? (Jwk.maxDepth - 1)) [] members
    if !closed then throw .malformed
    if let some name := Json.missingField? fields given then throw (.missing name)
    if !members.all isFieldOrText then throw .shape
    let alg ← given.read "alg" (Jwk.asName Jwk.isNull algorithms.contains)
    let kid ← given.readOr "kid" (Json.asOptional Json.asText) none
    return ⟨alg, kid⟩
  | other => .error (Json.unexpected other)

/-- Read a header from its segment. -/
def ofSegment (segment : String) : Except ProviderError JoseHeader :=
  match Base64Url.decode segment with
  | .error fault => .error (.unreadable (.encoding fault))
  | .ok bytes =>
    match Json.decode ofJson bytes with
    | .error fault => .error (.unreadable (.header fault))
    | .ok header => .ok header

end JoseHeader

/-- Read a part of a key or token from its encoding. -/
def decodePart (part : String) : Except ProviderError Bytes :=
  match Base64Url.decode part with
  | .ok bytes => .ok bytes
  | .error fault => .error (.unreadable (.encoding fault))

/-- The public key of published material. The parts of a key of another family are decoded before
the family is refused. -/
def KeyMaterial.publicKey : KeyMaterial → Except ProviderError Rsa.PublicKey
  | .rsa modulus exponent => do
    let modulus ← decodePart modulus
    let exponent ← decodePart exponent
    return ⟨modulus, exponent⟩
  | .ellipticCurve x y => do
    let _ ← decodePart x
    let _ ← decodePart y
    throw (.unreadable .keyFamily)
  | .octets value => do
    let _ ← decodePart value
    throw (.unreadable .keyFamily)
  | .octetPair x => do
    let _ ← decodePart x
    throw (.unreadable .keyFamily)

/-- The key that a token calls for: the first one of the name it gives, or the only one of the set
when it gives none. -/
def KeySet.select (set : KeySet) (kid : Option String) : Except ProviderError Jwk :=
  match kid, set.keys with
  | _, [] => .error .noKeys
  | some kid, keys =>
    match keys.find? (·.kid = some kid) with
    | some key => .ok key
    | none => .error (.keyNotFound kid)
  | none, [only] => .ok only
  | none, _ => .error .missingKid

/-- A provider with a published key set. -/
structure OidcProvider where
  issuer : String
  keys : KeySet
deriving Repr, DecidableEq

namespace OidcProvider

/-- The algorithm that the provider checks. -/
def algorithm : String := "RS256"

/-- Check a token's signature over its first two segments as transmitted, and give the octets of
the second. -/
def verify (provider : OidcProvider) (token : String) : Except ProviderError Bytes :=
  match Envelope.segments token with
  | [header, payload, signature] => do
    let jose ← JoseHeader.ofSegment header
    if jose.alg ≠ algorithm then throw (.unsupportedToken (.algorithm jose.alg))
    let jwk ← provider.keys.select jose.kid
    let key ← jwk.material.publicKey
    let signature ← decodePart signature
    if !Rsa.verifies key (Utf8.encode (header ++ "." ++ payload)) signature then
      throw .signatureMismatch
    match Base64Url.decode payload with
    | .ok bytes => return bytes
    | .error fault => throw (.unsupportedToken (.payloadEncoding fault))
  | _ => .error (.unsupportedToken .notCompact)

/-- The provider as the service sees it: it answers from what it holds, at once. -/
def toProvider (provider : OidcProvider) : Provider := fun token =>
  ⟨provider.verify token, Duration.zero⟩

/-- A short description, which counts the keys and shows none. -/
def describe (provider : OidcProvider) : String :=
  "OidcProvider \x7b issuer: " ++ Quoted.quote provider.issuer ++ ", keys: "
    ++ toString provider.keys.keys.length ++ " \x7d"

end OidcProvider

end IssueTracker.Auth

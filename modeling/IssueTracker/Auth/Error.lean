import IssueTracker.Bytes.Base64Url
import IssueTracker.Json.Decode
import IssueTracker.Text.Quoted
import IssueTracker.Time.Instant

/-!
# Why a caller is not let in

The causes for which a token is refused, by the service itself or by the identity provider that
vouches for signatures. Each cause keeps what it was found in; its wording is a separate function,
so that laws about acceptance never speak of words.
-/

namespace IssueTracker.Auth

/-- Why the identity provider could not be set up from its published documents. -/
inductive DiscoveryFailure
  /-- A document was answered with a status other than success. -/
  | status (url phrase : String)
  /-- The provider names no address for its keys. -/
  | noKeyAddress
  /-- A failure described by whoever met it. -/
  | stated (detail : String)
deriving Repr, DecidableEq

/-- The wording of a discovery failure. -/
def DiscoveryFailure.message : DiscoveryFailure → String
  | .status url phrase => s!"GET {url} returned {phrase}"
  | .noKeyAddress => "discovery jwks_uri is empty"
  | .stated detail => detail

/-- Why the provider does not handle a token at all. -/
inductive Objection
  /-- The token does not consist of three segments. -/
  | notCompact
  /-- The token names an algorithm that the provider does not check. -/
  | algorithm (name : String)
  /-- The payload of a token with a good signature cannot be decoded. -/
  | payloadEncoding (fault : Base64Url.Fault)
  /-- An objection described by whoever raised it. -/
  | stated (detail : String)
deriving Repr, DecidableEq

/-- The wording of an objection. -/
def Objection.message : Objection → String
  | .notCompact => "expected compact jws"
  | .algorithm name => s!"algorithm {name}"
  | .payloadEncoding fault => s!"payload encoding: {fault.message}"
  | .stated detail => detail

/-- Why a token or a key cannot be read by the provider. -/
inductive Unreadable
  /-- A part is not in its encoding. -/
  | encoding (fault : Base64Url.Fault)
  /-- The header is not the expected record. -/
  | header (fault : Json.Fault)
  /-- The chosen key is of another family than the algorithm. -/
  | keyFamily
deriving Repr, DecidableEq

/-- The wording of an unreadable part. -/
def Unreadable.message : Unreadable → String
  | .encoding fault => s!"Base64 error: {fault.message}"
  | .header fault => s!"JSON error: {fault.message}"
  | .keyFamily => "InvalidKeyFormat"

/-- Why the provider does not vouch for a token, or could not be set up. -/
inductive ProviderError
  | discovery (failure : DiscoveryFailure)
  /-- The provider could not be reached or answered with something unreadable. -/
  | unreachable
  | issuerMismatch (expected actual : String)
  | noKeys
  | missingKid
  | keyNotFound (kid : String)
  | unsupportedToken (objection : Objection)
  | unreadable (part : Unreadable)
  | signatureMismatch
deriving Repr, DecidableEq

/-- The wording of a provider's refusal. -/
def ProviderError.message : ProviderError → String
  | .discovery failure => s!"provider discovery failed: {failure.message}"
  | .unreachable => "provider http error"
  | .issuerMismatch expected actual =>
    s!"provider issuer mismatch expected: {expected} actual: {actual}"
  | .noKeys => "provider published no signing keys"
  | .missingKid => "token kid is required when the provider publishes several keys"
  | .keyNotFound kid => s!"no provider key for kid {kid}"
  | .unsupportedToken objection => s!"unsupported token: {objection.message}"
  | .unreadable part => s!"jwt error: {part.message}"
  | .signatureMismatch => "signature does not match"

/-- What is wrong with the form of a token. -/
inductive Malformation
  /-- A compact token needs three segments. -/
  | segments (count : Nat)
  | headerEncoding (fault : Base64Url.Fault)
  | header (fault : Json.Fault)
  /-- The JSON form is not the expected record. -/
  | jsonForm (fault : Json.Fault)
  /-- The JSON form carries both one signature and a list of them. -/
  | mixedForms
  /-- There is no second segment to take a payload from. -/
  | payloadSegments (count : Nat)
  | payloadEncoding (fault : Base64Url.Fault)
  | payload (fault : Json.Fault)
  /-- A malformation described by whoever found it. -/
  | stated (detail : String)
deriving Repr, DecidableEq

/-- The wording of a malformation. -/
def Malformation.message : Malformation → String
  | .segments count => s!"compact jws must have 3 parts, got {count}"
  | .headerEncoding fault => s!"malformed jws header: {fault.message}"
  | .header fault => s!"invalid jws header: {fault.message}"
  | .jsonForm fault => s!"invalid json jws: {fault.message}"
  | .mixedForms => "json jws mixes general and flattened syntax"
  | .payloadSegments count => s!"expected 3 parts got {count}"
  | .payloadEncoding fault => s!"malformed jwt payload: {fault.message}"
  | .payload fault => s!"failed to parse jwt payload: {fault.message}"
  | .stated detail => detail

/-- Why a caller's token is refused. -/
inductive AuthError
  | tokenMissingOrMalformed
  | malformedToken (malformation : Malformation)
  | tokenNotSigned
  | multipleSignaturesUnsupported
  | unsupportedAlgorithm (allowed : List String) (actual : String)
  | issuerMismatch (expected actual : String)
  | tokenExpired (now expiresAt : Instant)
  | clientIdMismatch (expected actual : String)
  | signatureVerificationFailed (cause : ProviderError)
  | verificationCancelled (after : Duration)
  /-- The provider vouches for other octets than those inspected. -/
  | internalPayloadMismatch
deriving Repr, DecidableEq

namespace AuthError

/-- The wording of a refusal. -/
def message : AuthError → String
  | .tokenMissingOrMalformed => "missing or malformed jwt"
  | .malformedToken malformation => s!"malformed jwt: {malformation.message}"
  | .tokenNotSigned => "jwt not signed"
  | .multipleSignaturesUnsupported => "multiple signatures on jwt not supported"
  | .unsupportedAlgorithm allowed actual =>
    "jwt signed with unsupported algorithm, expected " ++ Quoted.quoteList allowed ++ " got "
      ++ Quoted.quote actual
  | .issuerMismatch expected actual =>
    s!"failed to match issuer expected: {expected} actual: {actual}"
  | .tokenExpired now expiresAt =>
    s!"token expired current: {now.display} actual: {expiresAt.display}"
  | .clientIdMismatch expected actual =>
    s!"failed to match client id expected: {expected} actual: {actual}"
  | .signatureVerificationFailed cause => s!"signature verification failed: {cause.message}"
  | .verificationCancelled after => s!"signature verification cancelled after {after.toText}"
  | .internalPayloadMismatch => "internal error, verified payload did not match parsed payload"

/-- The name under which a refusal is counted. -/
def kind : AuthError → String
  | .tokenMissingOrMalformed => "token_missing_or_malformed"
  | .malformedToken _ => "malformed_token"
  | .tokenNotSigned => "token_not_signed"
  | .multipleSignaturesUnsupported => "multiple_signatures_unsupported"
  | .unsupportedAlgorithm _ _ => "unsupported_algorithm"
  | .issuerMismatch _ _ => "issuer_mismatch"
  | .tokenExpired _ _ => "token_expired"
  | .clientIdMismatch _ _ => "client_id_mismatch"
  | .signatureVerificationFailed _ => "signature_verification_failed"
  | .verificationCancelled _ => "verification_cancelled"
  | .internalPayloadMismatch => "internal_payload_mismatch"

end AuthError

end IssueTracker.Auth

import IssueTracker.Auth.Provider
import IssueTracker.Http.Fetch
import IssueTracker.Http.Status
import IssueTracker.Text.Blank

/-!
# Discovery of the identity provider

A provider publishes a document that names it and says where its keys are. Both the document and
the keys are fetched once, in this order, each within a time limit. The provider must name itself
exactly as it was addressed, and must have at least one key.
-/

namespace IssueTracker.Auth

open Http

/-- The document that a provider publishes, as far as it is used. -/
structure ProviderDocument where
  issuer : String
  /-- Where the keys are. -/
  keyAddress : String
deriving Repr, DecidableEq

namespace ProviderDocument

/-- The fields of the document. -/
def fields : List Json.Field := [
  .of "issuer" Json.asText .refused,
  .of "jwks_uri" Json.asText .refused]

/-- Read the document. -/
def ofJson : Json.Reader ProviderDocument := fun json => do
  let given ← Json.asRecord fields json
  let issuer ← given.read "issuer" Json.asText
  let keyAddress ← given.read "jwks_uri" Json.asText
  return { issuer, keyAddress }

/-- The address of the document of an issuer. -/
def address (issuer : String) : String :=
  String.ofList ((issuer.toList.reverse.dropWhile (· = '/')).reverse)
    ++ "/.well-known/openid-configuration"

end ProviderDocument

/-- The outcome of discovery. -/
structure Discovery where
  result : Except ProviderError OidcProvider
  /-- The addresses fetched, in order. -/
  fetched : List String

namespace Discovery

/-- How the service calls itself when it fetches something. -/
def userAgent : String := "tracker-api/0.1.0"

/-- Fetch a value. What is late, unreadable or not there at all is all the same. -/
def fetch {α : Type} (transport : Transport) (timeout : Duration) (address : String)
    (reader : Json.Reader α) : Except ProviderError α :=
  let exchange := transport address
  if exchange.latency ≤ timeout then
    match exchange.reply with
    | none => .error .unreachable
    | some reply =>
      if !Status.isSuccess reply.status then
        .error (.discovery (.status address (Status.describe reply.status)))
      else
        match Json.decode reader reply.body with
        | .ok value => .ok value
        | .error _ => .error .unreachable
  else .error .unreachable

/-- Check a document against the issuer it was asked of. -/
def check (issuer : String) (document : ProviderDocument) : Except ProviderError Unit :=
  if document.issuer ≠ issuer then .error (.issuerMismatch issuer document.issuer)
  else if Blank.isAllBlank document.keyAddress then .error (.discovery .noKeyAddress)
  else .ok ()

/-- The provider with the keys that were published. -/
def provider (issuer : String) (keys : KeySet) : Except ProviderError OidcProvider :=
  if keys.keys.isEmpty then .error .noKeys else .ok ⟨issuer, keys⟩

/-- Discover the provider of an issuer. -/
def run (transport : Transport) (timeout : Duration) (issuer : String) : Discovery :=
  let first := ProviderDocument.address issuer
  match fetch transport timeout first ProviderDocument.ofJson with
  | .error cause => ⟨.error cause, [first]⟩
  | .ok document =>
    match check issuer document with
    | .error cause => ⟨.error cause, [first]⟩
    | .ok () =>
      ⟨(fetch transport timeout document.keyAddress KeySet.ofJson).bind (provider issuer),
        [first, document.keyAddress]⟩

end Discovery

end IssueTracker.Auth

import IssueTracker.Auth.Payload
import IssueTracker.Auth.Provider

/-!
# Acceptance of tokens

A token is judged locally first: its form, the number of its signatures, their algorithm, and its
claims. Only a token that passes is put before the provider, once, and the provider has a limited
time to answer. Its payload is accepted if the provider vouches for the very octets inspected.
-/

namespace IssueTracker.Auth

/-- What the service requires of tokens. -/
structure ValidatorConfig where
  issuer : String
  /-- The client that tokens must be issued to, if that is enforced. -/
  clientId : Option String
  /-- The algorithms that tokens may name. -/
  algorithms : List String
  /-- How long the provider may take. -/
  verifyTimeout : Duration
deriving Repr, DecidableEq

/-- The outcome of judging a token. -/
structure Judgement where
  result : Except AuthError TokenPayload
  /-- How often the provider was asked. -/
  providerCalls : Nat
  /-- How long the provider was waited for. -/
  waited : Duration

namespace ValidatorConfig

/-- The requirements on claims. -/
def policy (config : ValidatorConfig) : ClaimsPolicy := ⟨config.issuer, config.clientId⟩

/-- The local part: the payload of a token and its octets, if nothing speaks against the token
before the provider is asked. -/
def inspect (config : ValidatorConfig) (now : Instant) (token : String) :
    Except AuthError (TokenPayload × Bytes) := do
  let envelope ← Envelope.parse token
  let entry ← envelope.singleSignature
  Envelope.checkAlgorithm entry config.algorithms
  let bytes ← Envelope.decodePayload token
  let payload ← TokenPayload.ofBytes bytes
  config.policy.check payload now
  return (payload, bytes)

/-- What follows from a provider's verdict on a token that passed inspection. -/
def conclude (config : ValidatorConfig) (payload : TokenPayload) (bytes : Bytes)
    (verdict : Verdict) : Except AuthError TokenPayload :=
  if verdict.latency ≤ config.verifyTimeout then
    match verdict.answer with
    | .error cause => .error (.signatureVerificationFailed cause)
    | .ok vouched => if vouched = bytes then .ok payload else .error .internalPayloadMismatch
  else .error (.verificationCancelled config.verifyTimeout)

/-- Judge a token. -/
def validateAt (config : ValidatorConfig) (provider : Provider) (now : Instant) (token : String) :
    Judgement :=
  match config.inspect now token with
  | .error refusal => ⟨.error refusal, 0, Duration.zero⟩
  | .ok (payload, bytes) =>
    let verdict := provider token
    ⟨config.conclude payload bytes verdict, 1, verdict.latency.least config.verifyTimeout⟩

/-- A short description. -/
def describe (config : ValidatorConfig) : String :=
  "TokenValidator \x7b issuer: " ++ Quoted.quote config.issuer ++ ", algorithms: "
    ++ Quoted.quoteList config.algorithms ++ ", verify_timeout: " ++ config.verifyTimeout.toText
    ++ " \x7d"

end ValidatorConfig

end IssueTracker.Auth

import IssueTracker.Api.Error
import IssueTracker.Auth.Credential
import IssueTracker.Auth.Validator

/-!
# Access

A guarded operation is reached only with a token that is accepted. The caller's identity and the
scopes that the operation requires then travel with the request; the operation itself checks the
one against the other.
-/

namespace IssueTracker.Api

open Auth Http

/-- What decides about tokens. -/
structure AccessControl where
  /-- The scheme of credentials. -/
  scheme : String
  validator : ValidatorConfig
  provider : Provider

/-- The outcome of a token check. -/
structure Access where
  /-- The attributes of the request, if the caller is let in. -/
  state : Except ApiError RequestState
  /-- How often the provider was asked. -/
  providerCalls : Nat
  /-- How long the provider was waited for. -/
  waited : Duration

/-- Check the token of a request for an operation that requires one of certain scopes. -/
def AccessControl.check (control : AccessControl) (now : Instant) (required : List String)
    (headers : List Header) : Access :=
  match credential (headerText? headers "authorization") control.scheme with
  | .error refusal => ⟨.error (.ofAuth refusal), 0, Duration.zero⟩
  | .ok token =>
    let judgement := control.validator.validateAt control.provider now token
    let state := match judgement.result with
      | .error refusal => .error (.ofAuth refusal)
      | .ok payload => .ok (RequestState.bind (Identity.ofPayload payload) required)
    ⟨state, judgement.providerCalls, judgement.waited⟩

end IssueTracker.Api

namespace IssueTracker.Auth.RequestState

/-- Go on only if the caller may do what the operation requires. -/
def requireScope (state : RequestState) : Except Api.ApiError Unit :=
  if state.authorize then .ok () else .error .insufficientScope

/-- The subject of the caller. -/
def subject (state : RequestState) : Except Api.ApiError String :=
  match state.identity with
  | .ok identity => .ok identity.subject
  | .error cause => .error (.ofAuthState cause)

end IssueTracker.Auth.RequestState

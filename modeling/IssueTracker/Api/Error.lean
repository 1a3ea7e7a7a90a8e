import IssueTracker.Auth.Identity
import IssueTracker.Http.Message
import IssueTracker.Store.Collection

/-!
# Errors of operations

Why an operation fails, once a request is understood. Each error has a status and a body with a
code and a message. A caller whose token is refused learns only that it was; the cause stays
inside.
-/

namespace IssueTracker.Api

open Auth Store Http

/-- Why an operation fails. -/
inductive ApiError
  | badRequest (code message : String)
  /-- The caller's token is refused. -/
  | unauthorized (cause : AuthError)
  /-- Nothing is known of the caller. -/
  | unauthenticated (cause : AuthStateError)
  | insufficientScope
  | notFound (resource : String)
  | conflict (code message : String)
  | notImplemented
  | internal
deriving Repr, DecidableEq

namespace ApiError

/-- The error that a refusal of a caller becomes. -/
def ofAuth : AuthError → ApiError
  | .tokenMissingOrMalformed => .badRequest "TOKEN_MISSING_OR_MALFORMED" "missing or malformed jwt"
  | cause => .unauthorized cause

/-- The error that a missing or mistaken attribute becomes. -/
def ofAuthState : AuthStateError → ApiError
  | .identityNotFound => .unauthenticated .identityNotFound
  | .scopesNotFound => .unauthenticated .scopesNotFound
  | .identityTypeMismatch | .scopesTypeMismatch => .internal

/-- The error that a refusal of the stores becomes. -/
def ofStore : StoreError → ApiError
  | .notFound resource => .notFound resource
  | .conflict resource name => .conflict "CONFLICT" s!"{resource} {name} already exists."

/-- The status of the response. -/
def status : ApiError → Nat
  | .badRequest _ _ => 400
  | .unauthorized _ | .unauthenticated _ => 401
  | .insufficientScope => 403
  | .notFound _ => 404
  | .conflict _ _ => 409
  | .notImplemented => 501
  | .internal => 500

/-- The code in the body. -/
def code : ApiError → String
  | .badRequest code _ | .conflict code _ => code
  | .unauthorized _ | .unauthenticated _ => "UNAUTHORIZED"
  | .insufficientScope => "FORBIDDEN"
  | .notFound _ => "NOT_FOUND"
  | .notImplemented => "NOT_IMPLEMENTED"
  | .internal => "INTERNAL_SERVER_ERROR"

/-- The message in the body. -/
def publicMessage : ApiError → String
  | .badRequest _ message | .conflict _ message => message
  | .unauthorized _ | .unauthenticated _ => "invalid jwt"
  | .insufficientScope => "insufficient scope"
  | .notFound resource => s!"{resource} not found."
  | .notImplemented => "not implemented"
  | .internal => "internal server error"

/-- The wording inside the service. -/
def message : ApiError → String
  | .badRequest code message | .conflict code message => s!"{code}: {message}"
  | .unauthorized cause => s!"unauthorized: {cause.message}"
  | .unauthenticated cause => s!"unauthenticated: {cause.message}"
  | .insufficientScope => "insufficient scope"
  | .notFound resource => s!"not found: {resource}"
  | .notImplemented => "not implemented"
  | .internal => "internal server error"

/-- The body of the response. -/
def body (error : ApiError) : Json :=
  Json.ofMembers [("error", Json.ofMembers [
    ("code", Json.ofText error.code), ("message", Json.ofText error.publicMessage)])]

/-- The response. -/
def toResponse (error : ApiError) : Response := .json error.status error.body

end ApiError

end IssueTracker.Api

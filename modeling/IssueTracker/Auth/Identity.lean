import IssueTracker.Auth.Payload
import IssueTracker.Auth.Envelope

/-!
# Identities and what they may do

An accepted token makes its caller an identity with scopes. What an operation requires is a list
of scopes of which one suffices. Both travel with the request as attributes under fixed keys; who
reads them finds the one stored last, and says so if it is missing or of the other kind.
-/

namespace IssueTracker.Auth

/-- The scopes in a claim, cut at every single space. -/
def splitScopes (scope : String) : List String := Envelope.split ' ' scope

/-- Whether one of the granted scopes is allowed. -/
def hasScope (granted allowed : List String) : Bool := granted.any (allowed.contains ·)

/-- A caller whose token was accepted. -/
structure Identity where
  subject : String
  scopes : List String
deriving Repr, DecidableEq

/-- The identity that a payload speaks of. -/
def Identity.ofPayload (payload : TokenPayload) : Identity :=
  ⟨payload.subject, splitScopes payload.scope⟩

/-- What travels with a request. -/
inductive Attribute
  | identity (value : Identity)
  /-- The scopes of which an operation requires one. -/
  | required (scopes : List String)
deriving Repr, DecidableEq

/-- Why an attribute cannot be used. -/
inductive AuthStateError
  | identityNotFound
  | identityTypeMismatch
  | scopesNotFound
  | scopesTypeMismatch
deriving Repr, DecidableEq

/-- The wording of an attribute error. -/
def AuthStateError.message : AuthStateError → String
  | .identityNotFound => "user not found in request state"
  | .identityTypeMismatch => "failed to retrieve user, type mismatch"
  | .scopesNotFound => "scopes not found in request state"
  | .scopesTypeMismatch => "failed to retrieve scopes, type mismatch"

/-- The attributes of a request, the one stored last first. -/
structure RequestState where
  attributes : List (String × Attribute) := []
deriving Repr, DecidableEq

namespace RequestState

/-- The key of the identity. -/
def identityKey : String := "auth.identity"

/-- The key of the required scopes. -/
def scopesKey : String := "openid.scopes"

/-- No attributes. -/
def empty : RequestState := {}

/-- Store an attribute under a key. -/
def insert (state : RequestState) (key : String) (value : Attribute) : RequestState :=
  ⟨(key, value) :: state.attributes⟩

/-- The attributes of a request whose token was accepted. -/
def bind (identity : Identity) (required : List String) : RequestState :=
  (empty.insert identityKey (.identity identity)).insert scopesKey (.required required)

/-- The attribute stored last under a key. -/
def get? (state : RequestState) (key : String) : Option Attribute :=
  (state.attributes.find? (·.1 = key)).map (·.2)

/-- The caller. -/
def identity (state : RequestState) : Except AuthStateError Identity :=
  match state.get? identityKey with
  | some (.identity value) => .ok value
  | some (.required _) => .error .identityTypeMismatch
  | none => .error .identityNotFound

/-- The scopes of which one is required. -/
def requiredScopes (state : RequestState) : Except AuthStateError (List String) :=
  match state.get? scopesKey with
  | some (.required scopes) => .ok scopes
  | some (.identity _) => .error .scopesTypeMismatch
  | none => .error .scopesNotFound

/-- Whether the caller may do what the operation requires. Anything amiss means no. -/
def authorize (state : RequestState) : Bool :=
  match state.identity, state.requiredScopes with
  | .ok identity, .ok required => hasScope identity.scopes required
  | _, _ => false

end RequestState

end IssueTracker.Auth

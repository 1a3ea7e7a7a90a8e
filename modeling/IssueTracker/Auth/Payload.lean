import IssueTracker.Auth.Error

/-!
# The claims of an access token

A payload is a JSON record of which only the time of expiry is required. Every other claim that is
absent is empty, so that an absent claim fails where it is compared. Points in time are numbers of
seconds; parts of a second are cut off, toward zero.
-/

namespace IssueTracker.Auth

/-- The seconds that a number counts. An integer of 64 bits with sign counts itself; any other
number is taken as a binary one and cut, unless the cut could stop at a bound. -/
def secondsOf? (n : Json.Number) : Option Int :=
  match n.asSigned? with
  | some value => some value
  | none => n.asBinary?.bind fun x => if Json.reachesBounds x then none else some (Json.cutSigned x)

/-- The point in time that a number of seconds names. -/
def instantOf (n : Json.Number) : Except Json.Fault Instant :=
  match (secondsOf? n).bind Instant.ofSeconds? with
  | some instant => .ok instant
  | none => .error (.instant n)

/-- Read a point in time. -/
def asInstant : Json.Reader Instant := fun json => (Json.asNumber json).bind instantOf

/-- Read a whole number of 64 bits with sign. -/
def asWord : Json.Reader Int := Json.asInteger (-9223372036854775808) 9223372036854775807

/-- The claims of a token. -/
structure TokenPayload where
  subject : String
  tokenUse : String
  /-- The granted scopes, with spaces between them. -/
  scope : String
  authTime : Option Instant
  issuer : String
  expires : Instant
  issuedAt : Option Instant
  version : Int
  tokenId : String
  clientId : String
deriving Repr, DecidableEq

namespace TokenPayload

/-- The claims that are read, in their order as a record. -/
def fields : List Json.Field := [
  .of "sub" Json.asText .defaulted,
  .of "token_use" Json.asText .defaulted,
  .of "scope" Json.asText .defaulted,
  .of "auth_time" (Json.asOptional asInstant) .defaulted,
  .of "iss" Json.asText .defaulted,
  .of "exp" asInstant .refused,
  .of "iat" (Json.asOptional asInstant) .defaulted,
  .of "version" asWord .defaulted,
  .of "jti" Json.asText .defaulted,
  .of "client_id" Json.asText .defaulted]

/-- The claims among the values given for a record. -/
def ofGiven (given : Json.Given) : Except Json.Fault TokenPayload := do
  let subject ← given.readOr "sub" Json.asText ""
  let tokenUse ← given.readOr "token_use" Json.asText ""
  let scope ← given.readOr "scope" Json.asText ""
  let authTime ← given.readOr "auth_time" (Json.asOptional asInstant) none
  let issuer ← given.readOr "iss" Json.asText ""
  let expires ← given.read "exp" asInstant
  let issuedAt ← given.readOr "iat" (Json.asOptional asInstant) none
  let version ← given.readOr "version" asWord 0
  let tokenId ← given.readOr "jti" Json.asText ""
  let clientId ← given.readOr "client_id" Json.asText ""
  return { subject, tokenUse, scope, authTime, issuer, expires, issuedAt, version, tokenId,
           clientId }

/-- Read the claims. -/
def ofJson : Json.Reader TokenPayload := fun json => (Json.asRecord fields json).bind ofGiven

/-- Read the claims from the octets of a payload. -/
def ofBytes (bytes : Bytes) : Except AuthError TokenPayload :=
  match Json.decode ofJson bytes with
  | .ok payload => .ok payload
  | .error fault => .error (.malformedToken (.payload fault))

end TokenPayload

/-- What the service expects of the claims. -/
structure ClaimsPolicy where
  issuer : String
  /-- The client that tokens must be issued to, if that is enforced. -/
  clientId : Option String
deriving Repr, DecidableEq

/-- Check the issuer, then the expiry, then the client. A token is good up to its time of expiry
and not at it. -/
def ClaimsPolicy.check (policy : ClaimsPolicy) (payload : TokenPayload) (now : Instant) :
    Except AuthError Unit :=
  if payload.issuer ≠ policy.issuer then .error (.issuerMismatch policy.issuer payload.issuer)
  else if !now.before payload.expires then .error (.tokenExpired now payload.expires)
  else
    match policy.clientId with
    | none => .ok ()
    | some expected =>
      if payload.clientId = expected then .ok ()
      else .error (.clientIdMismatch expected payload.clientId)

end IssueTracker.Auth

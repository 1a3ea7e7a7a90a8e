import IssueTracker.Api.Location
import IssueTracker.Http.Cors

/-!
# The service

How a request is received and answered. Receiving it decides everything that does not depend on
what is stored: whether the request is too long, which location and operation it means, whether
the caller is let in, and what the errand is. Then the stores run the errand. What all responses
have in common is added last.

A request brings along what the outside world supplies for it: readings of the clock and
identifiers that were never drawn before. It is taken with the whole of its body. A request that
takes longer than the deadline is given up, of which the time that the provider is waited for is
counted here; how long a body takes to arrive is left aside.
-/

namespace IssueTracker

open Api Auth Http Store

/-- What decides about requests. -/
structure Service where
  access : AccessControl
  cors : CorsPolicy
  /-- The customer whose projects are served. -/
  tenant : Uuid
  /-- What is said of requests that cannot be read. -/
  wording : Wording := .brief

/-- What the outside world supplies for a request. -/
structure Arrival where
  /-- The clock when the token is judged. -/
  judgedAt : Instant
  /-- The clock when a record is written. -/
  recordedAt : Instant
  /-- An identifier for a record. -/
  freshId : Uuid
  /-- A name for the request. -/
  requestId : String

/-- How a request is settled before what all responses have in common is added. -/
inductive Outcome
  /-- It declares a longer body than any may be. -/
  | tooLong
  /-- It asks on behalf of a browser what that may do. -/
  | preflight
  /-- It was given up. -/
  | late
  | answered (response : Response)

/-- How far a request gets before the stores are asked. -/
inductive Reception
  | settled (outcome : Outcome)
  | errand (errand : Errand)

/-- A received request, and how often the provider was asked about it. -/
structure Received where
  reception : Reception
  providerCalls : Nat

namespace Service

/-- How long a body may be at most. -/
def bodyLimit : Nat := 1024 * 1024

/-- How long a request may take. -/
def deadline : Duration := .ofSeconds 30

/-- The length that a request declares for its body, if it does so in order. -/
def declaredLength? (request : Request) : Option Nat :=
  (headerText? request.headers "content-length").bind (Natural.ofText? Natural.bound64)

/-- How long the body of a request may be when it is read. -/
def readLimit (request : Request) : Nat :=
  match declaredLength? request with
  | some length => min length bodyLimit
  | none => bodyLimit

/-- What the open location says. -/
def health : Response :=
  .json 200 (Json.ofMembers [("status", Json.ofText "ok"),
    ("service", Json.ofText "tracker-api"), ("version", Json.ofText "0.1.0")])

/-- Receive a request for an operation. -/
def receiveOperation (service : Service) (arrival : Arrival) (request : Request)
    (operation : Operation) : Received :=
  let access := service.access.check arrival.judgedAt operation.required request.headers
  if access.waited ≤ deadline then
    match access.state with
    | .error error => ⟨.settled (.answered error.toResponse), access.providerCalls⟩
    | .ok state =>
      let occasion : Occasion := {
        request
        bodyLimit := readLimit request
        state
        tenant := service.tenant
        now := arrival.recordedAt
        freshId := arrival.freshId }
      match occasion.errand operation with
      | .error refusal =>
        ⟨.settled (.answered (refusal.toResponse service.wording operation request)),
          access.providerCalls⟩
      | .ok errand => ⟨.errand errand, access.providerCalls⟩
  else ⟨.settled .late, access.providerCalls⟩

/-- Receive a request. -/
def receive (service : Service) (arrival : Arrival) (request : Request) : Received :=
  if (declaredLength? request).any (bodyLimit < ·) then ⟨.settled .tooLong, 0⟩
  else if request.method = "OPTIONS" then ⟨.settled .preflight, 0⟩
  else
    match Location.ofPath? request.path with
    | none => ⟨.settled (.answered (.empty 404)), 0⟩
    | some location =>
      match location.served? request.method with
      | none => ⟨.settled (.answered (.empty 405)), 0⟩
      | some .health => ⟨.settled (.answered health), 0⟩
      | some (.guarded operation) => service.receiveOperation arrival request operation

/-- The name of a request: the one it brings along, or else the one supplied for it. -/
def requestName (arrival : Arrival) (request : Request) : Header :=
  ⟨"x-request-id", (header? request.headers "x-request-id").getD (Utf8.encode arrival.requestId)⟩

/-- The headers that keep browsers from doing anything with a response but reading it. -/
def securityHeaders : List Header := [
  .ofText "x-frame-options" "DENY",
  .ofText "content-security-policy" "default-src 'none'; frame-ancestors 'none'",
  .ofText "x-content-type-options" "nosniff",
  .ofText "referrer-policy" "no-referrer",
  .ofText "cache-control" "no-store"]

/-- The methods to use instead, if a location does not serve the one of a request. -/
def allowance (request : Request) : List Header :=
  match Location.ofPath? request.path with
  | some location =>
    if (location.served? request.method).isSome then []
    else [.ofText "allow" location.allowed]
  | none => []

/-- The response to a request that is settled, with what all responses have in common. A request for
headers alone gets no body from a location. -/
def complete (service : Service) (arrival : Arrival) (request : Request) (outcome : Outcome) :
    Response :=
  let name := requestName arrival request
  let response := match outcome with
    | .late => Response.empty 408
    | .tooLong => (Response.text 413 "length limit exceeded").add [name]
    | .preflight => (service.cors.preflight request.headers).add [name]
    | .answered response =>
      (service.cors.apply request.headers (securityHeaders.foldl Response.addIfAbsent response)).add
        [name]
  let response := response.add (allowance request)
  if request.method = "HEAD" && (Location.ofPath? request.path).isSome then response.bare
  else response

/-- A handled request. -/
structure Handled where
  stores : Stores
  response : Response
  /-- How often the provider was asked. -/
  providerCalls : Nat

/-- Handle a request from its arrival to its response, with no other request in between. -/
def handle (service : Service) (stores : Stores) (arrival : Arrival) (request : Request) :
    Handled :=
  let received := service.receive arrival request
  match received.reception with
  | .settled outcome => ⟨stores, service.complete arrival request outcome, received.providerCalls⟩
  | .errand errand =>
    let (after, result) := stores.run errand
    ⟨after, service.complete arrival request (.answered (Presentation.result result)),
      received.providerCalls⟩

/-- The service that settings ask for, with a provider and the wording of its parsers. -/
def ofConfig (config : Config) (provider : Provider) (wording : Wording := .brief) : Service where
  access := ⟨config.authScheme, config.validator, provider⟩
  cors := .ofConfig config
  tenant := config.tenant
  wording := wording

/-- A short description, which shows nothing of what is stored. -/
def describe (service : Service) : String :=
  "AppState \x7b auth: " ++ service.access.validator.describe
    ++ ", auth_scheme: " ++ Quoted.quote service.access.scheme
    ++ ", stores: Stores \x7b .. \x7d, tenant_customer_id: " ++ service.tenant.toText ++ " \x7d"

end Service

end IssueTracker

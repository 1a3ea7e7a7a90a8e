import IssueTracker.Proofs.Api.Layout
import IssueTracker.Proofs.Service.Concealment
import IssueTracker.Proofs.Service.Statuses

/-!
# Where requests go

A request goes where the table of routes says. If its path is not one of any route it is told so,
and if no route there serves its method it is told that; both without a look at the token, the
query, the body or what is stored. What the open route serves is answered to everyone. At a guarded
route nothing is said to a caller who is not let in but what is wrong with the token, unless the
provider was waited for beyond the deadline; then the request is given up.
-/

namespace IssueTracker

open Api Auth Http Store

/-- Whether two requests are the same as far as responses depend on requests in general. -/
structure SameFrame (one other : Request) : Prop where
  method : one.method = other.method
  path : one.path = other.path
  origin : header? one.headers "origin" = header? other.headers "origin"
  name : header? one.headers "x-request-id" = header? other.headers "x-request-id"

/-- What is wrong with a token is a bad request or a lack of authorisation. -/
theorem Api.ApiError.status_ofAuth_cases (cause : AuthError) :
    (ofAuth cause).status = 400 ∨ (ofAuth cause).status = 401 := by
  cases cause <;> simp [ofAuth, status]

namespace Service

/-- Whether a request presents a token that is accepted. -/
def LetsIn (service : Service) (arrival : Arrival) (request : Request) : Prop :=
  ∃ token payload, headerText? request.headers "authorization" =
      some (service.access.scheme ++ " " ++ token) ∧ token ≠ "" ∧
    (service.access.validator.validateAt service.access.provider arrival.judgedAt token).result =
      .ok payload

/-- Whether a request presents a token for which the provider is waited beyond the deadline. -/
def KeepsWaiting (service : Service) (arrival : Arrival) (request : Request) : Prop :=
  ∃ token, headerText? request.headers "authorization" =
      some (service.access.scheme ++ " " ++ token) ∧ token ≠ "" ∧
    ¬ service.waited arrival token ≤ deadline

/-- Whether a request is handled as the table of routes says. -/
structure IsRouted (service : Service) (stores : Stores) (arrival : Arrival) (request : Request)
    (handled : Handled) : Prop where
  /-- A path that is not one of any route is not found. -/
  missing : (¬ ∃ route ∈ Route.all, route.IsAt request.path) → handled.response.status = 404
  /-- A method that no route serves there is not allowed. -/
  unserved : (∃ route ∈ Route.all, route.IsAt request.path) →
    (¬ ∃ route ∈ Route.all, route.Serves request.method request.path) →
      handled.response.status = 405
  /-- In both cases nothing else counts. -/
  blind : (¬ ∃ route ∈ Route.all, route.Serves request.method request.path) →
    handled.stores = stores ∧ handled.providerCalls = 0 ∧
      ∀ (another : Service) (others : Stores) (other : Request), another.cors = service.cors →
        SameFrame other request → ¬ DeclaresTooMuch other →
          (another.handle others arrival other).response = handled.response
  /-- The open route answers everyone. -/
  open_ : Route.health.Serves request.method request.path →
    handled = ⟨stores, service.complete arrival request (.answered health), 0⟩
  /-- At the others who is not let in is told of the token only, or given up, which takes a provider
  that may be waited for longer. -/
  closed : (∃ route ∈ Route.guarded, route.Serves request.method request.path) →
    ¬ service.LetsIn arrival request → handled.stores = stores ∧
      ((∃ cause, handled.response =
            service.complete arrival request (.answered (ApiError.ofAuth cause).toResponse) ∧
          (handled.response.status = 400 ∨ handled.response.status = 401)) ∨
        handled.response.status = 408 ∧ service.KeepsWaiting arrival request ∧
          ¬ service.access.validator.verifyTimeout ≤ deadline)

variable {service another : Service} {arrival : Arrival} {request other : Request}
  {operation : Operation}

/-- The name of a request, where it calls from, its method and its path are all that is added to a
response for. -/
theorem complete_of_sameFrame (cors : another.cors = service.cors) (same : SameFrame other request)
    (outcome : Outcome) :
    another.complete arrival other outcome = service.complete arrival request outcome := by
  have permission (policy : CorsPolicy) :
      policy.permission other.headers = policy.permission request.headers := by
    simp only [CorsPolicy.permission, same.origin]
  simp only [complete, requestName, allowance, CorsPolicy.preflight, CorsPolicy.apply, cors,
    permission, same.method, same.path, same.name]

/-- What a request comes to that no route serves. -/
def unroutedStatus (path : String) : Nat := if (Location.ofPath? path).isSome then 405 else 404

/-- A request that no route serves is settled by its path and its method. -/
theorem receive_of_unserved (service : Service) (arrival : Arrival)
    (own : request.method ≠ "OPTIONS") (short : ¬ DeclaresTooMuch request)
    (unserved : ¬ ∃ route ∈ Route.all, route.Serves request.method request.path) :
    service.receive arrival request =
      ⟨.settled (.answered (.empty (unroutedStatus request.path))), 0⟩ := by
  have within := any_declaredLength_of_short short
  cases found : Location.ofPath? request.path with
  | none =>
    simp only [receive, within, own, found, Bool.false_eq_true, if_false, unroutedStatus,
      Option.isSome_none]
  | some location =>
    have none : location.served? request.method = none := by
      rw [← Option.not_isSome_iff_eq_none, Location.isSome_served?_iff found]
      exact unserved
    simp only [receive, within, own, found, none, Bool.false_eq_true, if_false, unroutedStatus,
      Option.isSome_some, if_true]

/-- Whoever waits beyond the deadline does so for the provider's verdict on a token. -/
theorem keepsWaiting_of_check {required : List String}
    (late : ¬ (service.access.check arrival.judgedAt required request.headers).waited ≤ deadline) :
    service.KeepsWaiting arrival request := by
  cases found : credential (headerText? request.headers "authorization") service.access.scheme with
  | error cause =>
    -- Nobody is asked about a token that is not there.
    refine absurd ?_ late
    simp only [AccessControl.check, found]
    decide
  | ok token =>
    obtain ⟨presented, nonempty⟩ := (credential_eq_ok_iff _ _ _).mp found
    refine ⟨token, presented, nonempty, ?_⟩
    simpa only [AccessControl.check, found, waited] using late

/-- Only at a service that gives the provider more time than the deadline is it waited for beyond
that. -/
theorem KeepsWaiting.slow (waiting : service.KeepsWaiting arrival request) :
    ¬ service.access.validator.verifyTimeout ≤ deadline := by
  obtain ⟨token, -, -, late⟩ := waiting
  exact slow_of_late late

/-- A caller who is not let in to an operation is told of the token, or is given up. -/
theorem receiveOperation_of_refused (operation : Operation)
    (refused : ¬ service.LetsIn arrival request) :
    (∃ cause, (service.receiveOperation arrival request operation).reception =
        .settled (.answered (ApiError.ofAuth cause).toResponse)) ∨
      (service.receiveOperation arrival request operation).reception = .settled .late ∧
        service.KeepsWaiting arrival request := by
  unfold receiveOperation
  simp only
  split
  · left
    split
    · next error failed =>
      obtain ⟨cause, rfl⟩ := AccessControl.check_eq_error failed
      exact ⟨cause, rfl⟩
    · next state passed =>
      obtain ⟨token, payload, presented, nonempty, accepted, -⟩ :=
        AccessControl.check_eq_ok_iff.mp passed
      exact absurd ⟨token, payload, presented, nonempty, accepted⟩ refused
  · next late => exact .inr ⟨rfl, keepsWaiting_of_check late⟩

/-- What is done about a request that no route serves. -/
theorem handle_of_unserved (service : Service) (stores : Stores) (arrival : Arrival)
    (own : request.method ≠ "OPTIONS") (short : ¬ DeclaresTooMuch request)
    (unserved : ¬ ∃ route ∈ Route.all, route.Serves request.method request.path) :
    service.handle stores arrival request =
      ⟨stores, service.complete arrival request
        (.answered (.empty (unroutedStatus request.path))), 0⟩ := by
  have received := receive_of_unserved service arrival own short unserved
  rw [handle_of_settled (congrArg Received.reception received), received]

/-- What is done about one that the open route serves. -/
theorem handle_of_health (service : Service) (stores : Stores) (arrival : Arrival)
    (own : request.method ≠ "OPTIONS") (short : ¬ DeclaresTooMuch request)
    (serves : Route.health.Serves request.method request.path) :
    service.handle stores arrival request =
      ⟨stores, service.complete arrival request (.answered health), 0⟩ := by
  obtain ⟨location, found, served⟩ := Location.served?_eq_health_iff.mpr serves
  have within := any_declaredLength_of_short short
  have received : service.receive arrival request = ⟨.settled (.answered health), 0⟩ := by
    simp only [receive, within, own, found, served, Bool.false_eq_true, if_false]
  rw [handle_of_settled (congrArg Received.reception received), received]

/-- What is done about one for an operation whose caller is not let in. -/
theorem handle_of_refused (stores : Stores) (meant : operation.MeantBy request)
    (short : ¬ DeclaresTooMuch request) (refused : ¬ service.LetsIn arrival request) :
    ∃ outcome : Outcome, service.handle stores arrival request =
        ⟨stores, service.complete arrival request outcome,
          (service.receive arrival request).providerCalls⟩ ∧
      ((∃ cause, outcome = .answered (ApiError.ofAuth cause).toResponse) ∨
        outcome = .late ∧ service.KeepsWaiting arrival request) := by
  have received : service.receive arrival request =
      service.receiveOperation arrival request operation :=
    receive_of_meant meant short
  rcases receiveOperation_of_refused operation refused with
    ⟨cause, told⟩ | ⟨late, waiting⟩
  · have settled := (congrArg Received.reception received).trans told
    exact ⟨_, handle_of_settled settled stores, .inl ⟨cause, rfl⟩⟩
  · have settled := (congrArg Received.reception received).trans late
    exact ⟨_, handle_of_settled settled stores, .inr ⟨rfl, waiting⟩⟩

/-- Requests go where the table of routes says, and that is found out before anything else. -/
theorem routing_exact (service : Service) (stores : Stores) (arrival : Arrival) (request : Request)
    (own : request.method ≠ "OPTIONS") (short : ¬ DeclaresTooMuch request) :
    IsRouted service stores arrival request (service.handle stores arrival request) := by
  constructor
  case missing =>
    intro missing
    -- No route serves a method at a path that is not one of a route.
    have unserved : ¬ ∃ route ∈ Route.all, route.Serves request.method request.path := by
      rintro ⟨route, member, serves⟩
      exact missing ⟨route, member, serves.path⟩
    have absent : (Location.ofPath? request.path).isSome = false := by
      rw [← Bool.not_eq_true, Location.isSome_ofPath?_iff]
      exact missing
    rw [handle_of_unserved service stores arrival own short unserved, status_complete,
      unroutedStatus, absent]
    rfl
  case unserved =>
    intro there unserved
    rw [handle_of_unserved service stores arrival own short unserved, status_complete,
      unroutedStatus, Location.isSome_ofPath?_iff.mpr there]
    rfl
  case blind =>
    intro unserved
    rw [handle_of_unserved service stores arrival own short unserved]
    refine ⟨rfl, rfl, fun another others other cors same shortToo => ?_⟩
    rw [handle_of_unserved another others arrival (same.method ▸ own) shortToo
      (by rwa [same.method, same.path]), complete_of_sameFrame cors same, same.path]
  case open_ => exact handle_of_health service stores arrival own short
  case closed =>
    rintro ⟨route, member, serves⟩ refused
    obtain ⟨operation, meant, -⟩ := Route.exists_meantBy member serves
    obtain ⟨outcome, handled, ⟨cause, rfl⟩ | ⟨rfl, waiting⟩⟩ :=
      handle_of_refused stores meant short refused
    · rw [handled, status_complete]
      exact ⟨rfl, .inl ⟨cause, rfl, ApiError.status_ofAuth_cases cause⟩⟩
    · rw [handled, status_complete]
      exact ⟨rfl, .inr ⟨rfl, waiting, waiting.slow⟩⟩

section Examples

open Attempt (stalled)

/-- A request with nothing but a method and a path. -/
def plain (method path : String) : Request where
  method := method
  path := "/api/v1" ++ path
  query := ""
  headers := []
  body := []

/-- A solidus at the end of a path is too much, a method that no route has is not allowed, the open
route answers without a token, and a guarded one does not. -/
theorem plain_routed :
    (trusting.handle Stores.empty epoch (plain "GET" "/customers/")).response.status = 404 ∧
      (trusting.handle Stores.empty epoch (plain "DELETE" "/customers")).response.status = 405 ∧
      (trusting.handle Stores.empty epoch (plain "HEAD" "/health")).response.status = 200 ∧
      (trusting.handle Stores.empty epoch (plain "PUT" "/projects/x")).response.status ∈
        [400, 401] := by
  have routed (method path : String) (own : method ≠ "OPTIONS") :
      IsRouted trusting Stores.empty epoch (plain method path)
        (trusting.handle Stores.empty epoch (plain method path)) :=
    routing_exact trusting Stores.empty epoch (plain method path) own
      (by rintro ⟨_, ⟨⟩, -⟩)
  have found : Location.ofPath? (plain "DELETE" "/customers").path = some .customers := by
    decide +kernel
  refine ⟨(routed "GET" "/customers/" (by decide)).missing ?_,
    (routed "DELETE" "/customers" (by decide)).unserved ?_ ?_, ?_, ?_⟩
  · rw [← Location.isSome_ofPath?_iff]
    decide +kernel
  · rw [← Location.isSome_ofPath?_iff, found]
    rfl
  · rw [← Location.isSome_served?_iff found]
    decide
  · rw [(routed "HEAD" "/health" (by decide)).open_
      (Location.served?_eq_health_iff.mp ⟨.health, by decide +kernel, by decide +kernel⟩)]
    exact status_complete _
  · obtain ⟨route, member, serves, -⟩ :=
      (show (Operation.updateProject "x").MeantBy (plain "PUT" "/projects/x") by
        decide +kernel).exists_serves
    have silent : ¬ trusting.LetsIn epoch (plain "PUT" "/projects/x") := by
      rintro ⟨_, _, ⟨⟩, -⟩
    obtain ⟨-, ⟨_, -, status⟩ | ⟨-, ⟨token, presented, -⟩, -⟩⟩ :=
      (routed "PUT" "/projects/x" (by decide)).closed ⟨route, member, serves⟩ silent
    · simpa using status
    · cases presented

/-- The token of a stalled attempt is not accepted, after the provider was waited for too long. -/
theorem stalled_unmet :
    (stalled.service.access.check stalled.arrival.judgedAt stalled.operation.required
        stalled.request.headers).state.isOk = false ∧
      ¬ (stalled.service.access.check stalled.arrival.judgedAt stalled.operation.required
        stalled.request.headers).waited ≤ deadline := by
  decide +kernel

/-- Where the provider may be waited for longer than a request may take, a caller whose token is
refused after that is told neither that it is nor that there is none. -/
theorem stalled_given_up :
    ¬ ∀ (service : Service) (stores : Stores) (arrival : Arrival) (request : Request),
      request.method ≠ "OPTIONS" → ¬ DeclaresTooMuch request →
        (∃ route ∈ Route.guarded, route.Serves request.method request.path) →
          ¬ service.LetsIn arrival request →
            (service.handle stores arrival request).response.status = 400 ∨
              (service.handle stores arrival request).response.status = 401 := by
  intro all
  obtain ⟨route, member, serves, -⟩ := stalled.meant.exists_serves
  obtain ⟨unmet, late⟩ := stalled_unmet
  cases failed : (stalled.service.access.check stalled.arrival.judgedAt stalled.operation.required
      stalled.request.headers).state with
  | ok _ =>
    rw [failed] at unmet
    cases unmet
  | error _ =>
    have refused : ¬ stalled.service.LetsIn stalled.arrival stalled.request := by
      rintro ⟨token, payload, presented, nonempty, accepted⟩
      have passed : (stalled.service.access.check stalled.arrival.judgedAt
          stalled.operation.required stalled.request.headers).state = .ok _ :=
        AccessControl.check_eq_ok_iff.mpr
          ⟨token, payload, presented, nonempty, accepted, rfl⟩
      rw [failed] at passed
      cases passed
    have told := all stalled.service stalled.stores stalled.arrival stalled.request (by decide)
      stalled.short ⟨route, member, serves⟩ refused
    have answered := Attempt.response_of_unchecked rfl failed
    rw [Attempt.response, if_neg late] at answered
    rw [answered, status_complete] at told
    exact absurd told (by decide)

end Examples

end Service

end IssueTracker

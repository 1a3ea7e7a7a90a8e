import IssueTracker.Proofs.Auth.Inspection
import IssueTracker.Proofs.Service.Admission

/-!
# What is not said of a refused token

An attempt at an operation that presents a token which is refused gets one and the same answer,
whatever the cause, the token, the operation, the rest of the request and the stores are. One that
presents no token at all gets another, which is also always the same. Only a request for headers
alone is told apart, since it has no body in any case.

What shows is whether the provider was waited for beyond the deadline: then the request is given up
before anything is known of the token.
-/

namespace IssueTracker

open Api Auth Http Store

namespace Auth

variable {config : ValidatorConfig} {provider : Provider} {now : Instant} {token : String}
  {payload : TokenPayload} {bytes : Bytes} {cause : AuthError}

/-- No verdict leads to the complaint that a token is missing. -/
theorem conclude_ne_missing {verdict : Verdict}
    (refused : config.conclude payload bytes verdict = .error cause) :
    cause ≠ .tokenMissingOrMalformed := by
  rintro rfl
  unfold ValidatorConfig.conclude at refused
  split at refused
  · split at refused
    · cases refused
    · split at refused <;> cases refused
  · cases refused

/-- No refusal of a token is the complaint that it is missing. -/
theorem result_ne_missing
    (refused : (config.validateAt provider now token).result = .error cause) :
    cause ≠ .tokenMissingOrMalformed := by
  cases inspected : config.inspect now token with
  | error early =>
    rw [validateAt_of_refused inspected] at refused
    cases refused
    rintro rfl
    exact inspect_refusal_local inspected
  | ok found =>
    obtain ⟨payload, bytes⟩ := found
    rw [validateAt_of_sound (inspect_eq_ok_iff.mp inspected)] at refused
    exact conclude_ne_missing refused

end Auth

/-- The provider is waited for beyond the deadline only at a service that gives it more time than
that. -/
theorem Service.slow_of_late {service : Service} {arrival : Arrival} {token : String}
    (late : ¬ service.waited arrival token ≤ deadline) :
    ¬ service.access.validator.verifyTimeout ≤ deadline := by
  intro quick
  apply late
  cases inspected : service.access.validator.inspect arrival.judgedAt token with
  | error refusal =>
    rw [waited, validateAt_of_refused inspected]
    exact Nat.zero_le _
  | ok found =>
    rw [waited, validateAt_of_sound (inspect_eq_ok_iff.mp inspected)]
    exact Nat.le_trans (Nat.min_le_right _ _) quick

/-- An attempt at an operation by a request that does not declare too long a body, with the service
and the stores that it is made at. -/
structure Attempt where
  service : Service
  stores : Stores
  arrival : Arrival
  request : Request
  operation : Operation
  meant : operation.MeantBy request
  short : ¬ Service.DeclaresTooMuch request

namespace Attempt

variable (attempt : Attempt)

/-- What the attempt is answered. -/
def response : Response :=
  (attempt.service.handle attempt.stores attempt.arrival attempt.request).response

/-- Whether an attempt presents a token. -/
def Presents (token : String) : Prop :=
  token ≠ "" ∧ headerText? attempt.request.headers "authorization" =
    some (attempt.service.access.scheme ++ " " ++ token)

/-- Whether an attempt presents no token. -/
def IsSilent : Prop := ∀ token, ¬ attempt.Presents token

/-- Whether an attempt presents a token that is refused, for whatever cause. -/
def IsRefused (token : String) : Prop :=
  attempt.Presents token ∧ ∃ cause, (attempt.service.access.validator.validateAt
    attempt.service.access.provider attempt.arrival.judgedAt token).result = .error cause

/-- Whether the provider is not waited for beyond the deadline about a token. -/
def IsTimely (token : String) : Prop :=
  attempt.service.waited attempt.arrival token ≤ Service.deadline

/-- Whether an attempt is timely can be found out. -/
instance (token : String) : Decidable (attempt.IsTimely token) :=
  inferInstanceAs (Decidable (_ ≤ _))

/-- The body that an error has in the response to a request with some method. -/
def toldOf (error : ApiError) (method : String) : Content :=
  if method = "HEAD" then .none else .json error.body

variable {attempt} {token : String}

/-- A location is found for the attempt. -/
theorem exists_location : (Location.ofPath? attempt.request.path).isSome = true := by
  obtain ⟨location, found, -⟩ := Operation.meantBy_iff.mp attempt.meant
  rw [found]
  rfl

/-- What the body of a complete answer is, for an error. -/
theorem content_of_error (error : ApiError) :
    (attempt.service.complete attempt.arrival attempt.request
        (.answered error.toResponse)).content = toldOf error attempt.request.method := by
  simp only [Service.content_complete, exists_location, Bool.and_true, decide_eq_true_eq]
  rfl

/-- Nothing is in the body for a request that is given up. -/
theorem content_late :
    (attempt.service.complete attempt.arrival attempt.request .late).content = .none := by
  simp only [Service.complete]
  split <;> rfl

/-- What an attempt is answered that is not let in. -/
theorem response_of_unchecked {access : Access} {error : ApiError}
    (checked : attempt.service.access.check attempt.arrival.judgedAt attempt.operation.required
      attempt.request.headers = access)
    (unmet : access.state = .error error) :
    attempt.response = attempt.service.complete attempt.arrival attempt.request
      (if access.waited ≤ Service.deadline then .answered error.toResponse else .late) := by
  have received : attempt.service.receive attempt.arrival attempt.request =
      attempt.service.receiveOperation attempt.arrival attempt.request attempt.operation :=
    Service.receive_of_meant attempt.meant attempt.short
  simp only [Service.receiveOperation, checked, unmet] at received
  split
  · next timely =>
    rw [if_pos timely] at received
    rw [response, Service.handle_of_settled (congrArg Received.reception received)]
  · next late =>
    rw [if_neg late] at received
    rw [response, Service.handle_of_settled (congrArg Received.reception received)]

/-- An attempt that presents nothing is told so at once. -/
theorem answer_of_silent (silent : attempt.IsSilent) :
    attempt.response.status = 400 ∧ attempt.response.content =
      toldOf (.ofAuth .tokenMissingOrMalformed) attempt.request.method := by
  cases found : credential (headerText? attempt.request.headers "authorization")
      attempt.service.access.scheme with
  | ok token =>
    obtain ⟨presented, nonempty⟩ := (credential_eq_ok_iff _ _ _).mp found
    exact absurd ⟨nonempty, presented⟩ (silent token)
  | error cause =>
    obtain rfl := missing_of_credential found
    have checked : attempt.service.access.check attempt.arrival.judgedAt
        attempt.operation.required attempt.request.headers =
          ⟨.error (.ofAuth .tokenMissingOrMalformed), 0, Duration.zero⟩ := by
      simp only [AccessControl.check, found]
    have atOnce : Duration.zero ≤ Service.deadline := by decide
    rw [response_of_unchecked checked rfl, if_pos atOnce]
    exact ⟨Service.status_complete _, content_of_error _⟩

/-- An attempt whose token is refused is told that and nothing else, unless it is given up. -/
theorem answer_of_refused (refused : attempt.IsRefused token) :
    ∃ cause, (attempt.response.status = if attempt.IsTimely token then 401 else 408) ∧
      (attempt.IsTimely token →
        attempt.response.content = toldOf (.unauthorized cause) attempt.request.method) ∧
      (¬ attempt.IsTimely token → attempt.response.content = .none) := by
  obtain ⟨⟨nonempty, presented⟩, cause, rejected⟩ := refused
  have found := (credential_eq_ok_iff _ _ _).mpr ⟨presented, nonempty⟩
  have told : ApiError.ofAuth cause = .unauthorized cause := by
    have present := result_ne_missing rejected
    cases cause <;> first | rfl | exact absurd rfl present
  have checked : attempt.service.access.check attempt.arrival.judgedAt
      attempt.operation.required attempt.request.headers =
        ⟨.error (.unauthorized cause),
          (attempt.service.access.validator.validateAt attempt.service.access.provider
            attempt.arrival.judgedAt token).providerCalls,
          attempt.service.waited attempt.arrival token⟩ := by
    simp only [AccessControl.check, found, rejected, told, Service.waited]
  have answered := response_of_unchecked checked rfl
  refine ⟨cause, ?_⟩
  by_cases timely : attempt.IsTimely token
  · have timelyToo : attempt.service.waited attempt.arrival token ≤ Service.deadline := timely
    rw [if_pos timelyToo] at answered
    rw [answered, if_pos timely]
    exact ⟨Service.status_complete _, fun _ => content_of_error _, fun late => absurd timely late⟩
  · have late : ¬ attempt.service.waited attempt.arrival token ≤ Service.deadline := timely
    rw [if_neg late] at answered
    rw [answered, if_neg timely]
    exact ⟨Service.status_complete _, fun within => absurd within timely, fun _ => content_late⟩

/-- The cause is not in the body. -/
theorem toldOf_unauthorized (cause another : AuthError) (method : String) :
    toldOf (.unauthorized cause) method = toldOf (.unauthorized another) method := rfl

/-- Two attempts with the same method that fail for their authentication are answered alike. If
neither presents a token, both are told so. If each presents one that is refused, for whatever
causes, both are told that they are not let in, in the same words; only one that is given up, since
the provider was waited for beyond the deadline, is told that and nothing else. That takes a service
which gives the provider more time than the deadline. The services, the stores, the operations and
the rest of the requests may differ. -/
theorem failures_alike (one other : Attempt)
    (method : one.request.method = other.request.method) :
    (one.IsSilent → other.IsSilent →
      one.response.status = 400 ∧ other.response.status = 400 ∧
        one.response.content = other.response.content) ∧
    ∀ token another, one.IsRefused token → other.IsRefused another →
      (one.response.status = if one.IsTimely token then 401 else 408) ∧
        (other.response.status = if other.IsTimely another then 401 else 408) ∧
        ((one.IsTimely token ↔ other.IsTimely another) →
          one.response.content = other.response.content) ∧
        (¬ one.IsTimely token → one.response.content = .none ∧
          ¬ one.service.access.validator.verifyTimeout ≤ Service.deadline) := by
  constructor
  · intro silent alsoSilent
    obtain ⟨status, content⟩ := answer_of_silent silent
    obtain ⟨otherStatus, otherContent⟩ := answer_of_silent alsoSilent
    refine ⟨status, otherStatus, ?_⟩
    rw [content, otherContent, method]
  · intro token another refused alsoRefused
    obtain ⟨cause, status, timely, late⟩ := answer_of_refused refused
    obtain ⟨further, otherStatus, otherTimely, otherLate⟩ := answer_of_refused alsoRefused
    refine ⟨status, otherStatus, fun alike => ?_,
      fun untimely => ⟨late untimely, Service.slow_of_late untimely⟩⟩
    by_cases within : one.IsTimely token
    · rw [timely within, otherTimely (alike.mp within), method]
      exact toldOf_unauthorized cause further _
    · rw [late within, otherLate (mt alike.mpr within)]

section Failures

open Service (trusting epoch readerToken)

/-- A request to read what is at a path, with a value for its authorization header. -/
def reading (path value : String) : Request where
  method := "GET"
  path := "/api/v1" ++ path
  query := ""
  headers := [.ofText "authorization" value]
  body := []

/-- A customer is asked for without a token, at a service with nothing stored. -/
def tokenless : Attempt where
  service := trusting
  stores := Stores.empty
  arrival := epoch
  request := reading "/customers/x" "Bearer"
  operation := .getCustomer "x"
  meant := by decide +kernel
  short := by decide +kernel

/-- Issues are asked for with a token for another scheme. -/
def mistaken : Attempt where
  service := trusting
  stores := Stores.empty
  arrival := epoch
  request := reading "/projects/x/issues" "Basic x"
  operation := .listIssues "x"
  meant := by decide +kernel
  short := by decide +kernel

/-- All customers are asked for with something that is no token. -/
def garbled : Attempt where
  service := trusting
  stores := Stores.empty
  arrival := epoch
  request := reading "/customers" "Bearer x"
  operation := .listCustomers
  meant := by decide +kernel
  short := by decide +kernel

/-- A project is asked for with a token that expired long ago. -/
def outdated : Attempt where
  service := trusting
  stores := Stores.empty
  arrival := { epoch with judgedAt := ⟨1000, 0⟩ }
  request := reading "/projects/x" ("Bearer " ++ readerToken)
  operation := .getProject "x"
  meant := by decide +kernel
  short := by decide +kernel

/-- A header that does not begin with the scheme and a space presents nothing. -/
theorem isSilent_of_scheme {attempt : Attempt} {value : String}
    (scheme : attempt.service.access.scheme = "Bearer")
    (sent : headerText? attempt.request.headers "authorization" = some value)
    (other : value.toList.take 7 ≠ "Bearer ".toList) :
    attempt.IsSilent := by
  rintro token ⟨-, presented⟩
  rw [sent, scheme, Option.some.injEq] at presented
  apply other
  rw [presented]
  simp

/-- Two attempts that present no token are told the same, and so are two whose tokens are refused,
the one for its form and the other for its age. -/
theorem garbled_like_outdated :
    (tokenless.IsSilent ∧ mistaken.IsSilent ∧
      tokenless.response.status = 400 ∧ mistaken.response.status = 400 ∧
        tokenless.response.content = mistaken.response.content) ∧
    (garbled.IsRefused "x" ∧ outdated.IsRefused readerToken ∧
      garbled.response.status = 401 ∧ outdated.response.status = 401 ∧
        garbled.response.content = outdated.response.content) := by
  have silent : tokenless.IsSilent :=
    isSilent_of_scheme rfl (show _ = some "Bearer" by decide +kernel) (by decide)
  have alsoSilent : mistaken.IsSilent :=
    isSilent_of_scheme rfl (show _ = some "Basic x" by decide +kernel) (by decide)
  have refused : garbled.IsRefused "x" :=
    ⟨⟨by decide, by decide +kernel⟩, .malformedToken (.segments 1), by decide +kernel⟩
  have alsoRefused : outdated.IsRefused readerToken :=
    ⟨⟨by decide, by decide +kernel⟩, .tokenExpired ⟨1000, 0⟩ ⟨1, 0⟩, by decide +kernel⟩
  have timely : garbled.IsTimely "x" := by decide +kernel
  have alsoTimely : outdated.IsTimely readerToken := by decide +kernel
  obtain ⟨status, otherStatus, content, -⟩ :=
    (failures_alike garbled outdated rfl).2 _ _ refused alsoRefused
  rw [if_pos timely] at status
  rw [if_pos alsoTimely] at otherStatus
  exact ⟨⟨silent, alsoSilent, (failures_alike tokenless mistaken rfl).1 silent alsoSilent⟩,
    refused, alsoRefused, status, otherStatus, content ⟨fun _ => alsoTimely, fun _ => timely⟩⟩

/-- A service that waits longer for the provider than a request may take, and whose provider takes
an hour. -/
def stalling : Service where
  access := {
    scheme := "Bearer"
    validator := ⟨"issuer", none, ["RS256"], Duration.ofMillis 30001⟩
    provider _ := ⟨.error .signatureMismatch, Duration.ofSeconds 3600⟩ }
  cors := .any
  tenant := Uuid.zero

/-- At the stalling service all customers are asked for with a token that nothing else speaks
against. -/
def stalled : Attempt where
  service := stalling
  stores := Stores.empty
  arrival := epoch
  request := reading "/customers" ("Bearer " ++ readerToken)
  operation := .listCustomers
  meant := by decide +kernel
  short := by decide +kernel

/-- At such a service a token that is refused for want of a verdict is told apart from one that is
refused for its form. -/
theorem stalled_told_apart :
    ¬ ∀ one other : Attempt, one.service = other.service →
      one.request.method = other.request.method →
        ∀ token another, one.IsRefused token → other.IsRefused another →
          one.response.status = 401 ∧ other.response.status = 401 ∧
            one.response.content = other.response.content := by
  intro alike
  have refused : stalled.IsRefused readerToken :=
    ⟨⟨by decide, by decide +kernel⟩, .verificationCancelled (Duration.ofMillis 30001),
      by decide +kernel⟩
  have alsoRefused : Attempt.IsRefused { garbled with service := stalling } "x" :=
    ⟨⟨by decide, by decide +kernel⟩, .malformedToken (.segments 1), by decide +kernel⟩
  have told : stalled.response.status = 401 :=
    (alike stalled { garbled with service := stalling } rfl rfl _ _ refused alsoRefused).1
  have late : ¬ stalled.IsTimely readerToken := by decide +kernel
  obtain ⟨_, status, -, -⟩ := answer_of_refused refused
  rw [told, if_neg late] at status
  exact absurd status (by decide)

end Failures

end Attempt

end IssueTracker

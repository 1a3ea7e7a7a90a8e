import IssueTracker.Proofs.Api.Authorization
import IssueTracker.Proofs.Api.Routes
import IssueTracker.Proofs.Auth.Credential
import IssueTracker.Service

/-!
# How a request is received

A request is accepted if it is one for an operation and presents a token that is accepted. What then
becomes of it is decided by the errand of the operation, unless the provider was waited for beyond
the deadline; and nothing else has an errand. The length that a request declares for its body is
looked at before anything else, and who declares too much is not even asked for a token.

The status of a response is that of the outcome, whatever is added to all responses.
-/

namespace IssueTracker

open Api Auth Http Store

namespace Api.AccessControl

/-- A caller is let in exactly with a token that is presented and accepted, and brings the identity
that its payload speaks of. -/
theorem check_eq_ok_iff {control : AccessControl} {now : Instant} {required : List String}
    {headers : List Header} {state : RequestState} :
    (control.check now required headers).state = .ok state ↔
      ∃ token payload,
        headerText? headers "authorization" = some (control.scheme ++ " " ++ token) ∧ token ≠ "" ∧
          (control.validator.validateAt control.provider now token).result = .ok payload ∧
            state = RequestState.bind (Identity.ofPayload payload) required := by
  constructor
  · intro passed
    cases found : credential (headerText? headers "authorization") control.scheme with
    | error refusal => simp [check, found] at passed
    | ok token =>
      obtain ⟨presented, nonempty⟩ := (credential_eq_ok_iff _ _ _).mp found
      cases judged : (control.validator.validateAt control.provider now token).result with
      | error refusal => simp [check, found, judged] at passed
      | ok payload =>
        have bound : RequestState.bind (Identity.ofPayload payload) required = state := by
          simpa [check, found, judged] using passed
        exact ⟨token, payload, presented, nonempty, judged, bound.symm⟩
  · rintro ⟨token, payload, presented, nonempty, accepted, rfl⟩
    have found := (credential_eq_ok_iff _ _ _).mpr ⟨presented, nonempty⟩
    simp [check, found, accepted]

end Api.AccessControl

/-- What makes a request an accepted one, with the operation that it is for, the token that it
presents and the payload that is accepted. -/
structure Acceptance (service : Service) (arrival : Arrival) (request : Request)
    (operation : Operation) (token : String) (payload : TokenPayload) : Prop where
  meant : operation.MeantBy request
  presented : headerText? request.headers "authorization" =
    some (service.access.scheme ++ " " ++ token)
  nonempty : token ≠ ""
  accepted : (service.access.validator.validateAt service.access.provider arrival.judgedAt
    token).result = .ok payload

/-- The status that an outcome comes to. -/
def Outcome.status : Outcome → Nat
  | .tooLong => 413
  | .preflight => 200
  | .late => 408
  | .answered response => response.status

/-- The status that a refusal is answered with. -/
def Api.Refusal.status : Refusal → Nat
  | .rejected rejection => rejection.status
  | .failed error => error.status

/-- A refusal has its status in whatever words it is put. -/
@[simp] theorem Api.Refusal.status_toResponse (wording : Wording) (operation : Operation)
    (request : Request) (refusal : Refusal) :
    (refusal.toResponse wording operation request).status = refusal.status := by
  cases refusal <;> rfl

namespace Service

/-- Whether a request declares a longer body than any may be. -/
def DeclaresTooMuch (request : Request) : Prop :=
  ∃ length, declaredLength? request = some length ∧ bodyLimit < length

/-- Whether a request declares too much can be found out. -/
instance (request : Request) : Decidable (DeclaresTooMuch request) :=
  decidable_of_iff ((declaredLength? request).any (bodyLimit < ·))
    (by simp [DeclaresTooMuch, Option.any_eq_true])

/-- What an operation knows of a request whose caller is let in. -/
def occasion (service : Service) (arrival : Arrival) (request : Request) (state : RequestState) :
    Occasion where
  request := request
  bodyLimit := readLimit request
  state := state
  tenant := service.tenant
  now := arrival.recordedAt
  freshId := arrival.freshId

/-- What an operation knows of a request of the caller that a payload speaks of. -/
def occasionOf (service : Service) (arrival : Arrival) (request : Request) (operation : Operation)
    (payload : TokenPayload) : Occasion :=
  service.occasion arrival request
    (RequestState.bind (Identity.ofPayload payload) operation.required)

/-- How long the provider is waited for about a token. -/
def waited (service : Service) (arrival : Arrival) (token : String) : Duration :=
  (service.access.validator.validateAt service.access.provider arrival.judgedAt token).waited

variable {service : Service} {arrival : Arrival} {request : Request} {operation : Operation}
  {token : String} {payload : TokenPayload}

/-- The caller may do what an operation requires exactly if a scope for it is granted. -/
theorem authorize_occasionOf :
    (service.occasionOf arrival request operation payload).authorize = .ok () ↔
      ∃ scope ∈ splitScopes payload.scope, scope ∈ operation.required :=
  Occasion.authorize_eq_ok_iff.trans (RequestState.authorize_bind _ _)

/-- Who may not do it is told so. -/
theorem authorize_of_ungranted
    (ungranted : ¬ ∃ scope ∈ splitScopes payload.scope, scope ∈ operation.required) :
    (service.occasionOf arrival request operation payload).authorize =
      .error (.failed .insufficientScope) := by
  apply Occasion.authorize_of_refused
  rw [← Bool.not_eq_true, ← Occasion.authorize_eq_ok_iff, authorize_occasionOf]
  exact ungranted

/-- The subject of the caller is the one that the payload speaks of. -/
theorem subject_occasionOf {subject : String} :
    (service.occasionOf arrival request operation payload).subject = .ok subject ↔
      payload.subject = subject := by
  simp only [Occasion.subject, occasionOf, occasion, RequestState.subject,
    RequestState.identity_bind, Except.ok.injEq]
  rfl

/-- A token that is accepted lets its caller in, after the provider was waited for. -/
theorem check_of_acceptance
    (acceptance : Acceptance service arrival request operation token payload) :
    (service.access.check arrival.judgedAt operation.required request.headers).state =
        .ok (RequestState.bind (Identity.ofPayload payload) operation.required) ∧
      (service.access.check arrival.judgedAt operation.required request.headers).waited =
        service.waited arrival token := by
  have found : credential (headerText? request.headers "authorization") service.access.scheme =
      .ok token :=
    (credential_eq_ok_iff _ _ _).mpr ⟨acceptance.presented, acceptance.nonempty⟩
  constructor
  · exact AccessControl.check_eq_ok_iff.mpr
      ⟨token, payload, acceptance.presented, acceptance.nonempty, acceptance.accepted, rfl⟩
  · simp [AccessControl.check, found, waited]

/-- The length that a short request declares is not beyond the limit. -/
theorem any_declaredLength_of_short (short : ¬ DeclaresTooMuch request) :
    (declaredLength? request).any (bodyLimit < ·) = false := by
  simpa [DeclaresTooMuch, Option.any_eq_false] using short

/-- A request that declares too much is settled by that. -/
theorem receive_of_declaresTooMuch (long : DeclaresTooMuch request) :
    service.receive arrival request = ⟨.settled .tooLong, 0⟩ := by
  have beyond : (declaredLength? request).any (bodyLimit < ·) = true := by
    simpa [DeclaresTooMuch, Option.any_eq_true] using long
  simp only [receive, beyond, if_true]

/-- A request for an operation is received as one, unless it declares too much. -/
theorem receive_of_meant (meant : operation.MeantBy request) (short : ¬ DeclaresTooMuch request) :
    service.receive arrival request = service.receiveOperation arrival request operation := by
  obtain ⟨location, found, served⟩ := Operation.meantBy_iff.mp meant
  have within := any_declaredLength_of_short short
  have own : request.method ≠ "OPTIONS" := by
    rcases meant.method with method | ⟨method, -⟩
    · rw [method]
      cases operation.verb <;> decide
    · rw [method]
      decide
  simp only [receive, within, own, found, served, Bool.false_eq_true, if_false]

/-- An accepted request that does not declare too much comes to what the errand of its operation
comes to, unless the provider took too long. -/
theorem receive_of_acceptance
    (acceptance : Acceptance service arrival request operation token payload)
    (short : ¬ DeclaresTooMuch request) :
    (service.receive arrival request).reception =
      if service.waited arrival token ≤ deadline then
        match (service.occasionOf arrival request operation payload).errand operation with
        | .error refusal =>
          .settled (.answered (refusal.toResponse service.wording operation request))
        | .ok errand => .errand errand
      else .settled .late := by
  obtain ⟨state, waited⟩ := check_of_acceptance acceptance
  rw [receive_of_meant acceptance.meant short]
  simp only [receiveOperation, state, waited]
  split
  · simp only [occasionOf, occasion]
    generalize Occasion.errand _ operation = passed
    cases passed <;> rfl
  · rfl

/-- A request that is settled leaves the stores alone and is answered without them. -/
theorem handle_of_settled {outcome : Outcome}
    (received : (service.receive arrival request).reception = .settled outcome) (stores : Stores) :
    service.handle stores arrival request =
      ⟨stores, service.complete arrival request outcome,
        (service.receive arrival request).providerCalls⟩ := by
  simp [handle, received]

/-- What is done about an accepted request in time. -/
theorem handle_of_acceptance
    (acceptance : Acceptance service arrival request operation token payload)
    (short : ¬ DeclaresTooMuch request) (timely : service.waited arrival token ≤ deadline)
    (stores : Stores) :
    service.handle stores arrival request =
      match (service.occasionOf arrival request operation payload).errand operation with
      | .error refusal =>
        ⟨stores, service.complete arrival request
            (.answered (refusal.toResponse service.wording operation request)),
          (service.receive arrival request).providerCalls⟩
      | .ok errand =>
        ⟨(stores.run errand).1, service.complete arrival request
            (.answered (Presentation.result (stores.run errand).2)),
          (service.receive arrival request).providerCalls⟩ := by
  have received := receive_of_acceptance acceptance short
  rw [if_pos timely] at received
  cases passed : (service.occasionOf arrival request operation payload).errand operation with
  | error refusal => simp only [handle, received, passed]
  | ok errand => simp only [handle, received, passed]

/-- The ways in which a request is received. -/
inductive IsReceivedAs (service : Service) (arrival : Arrival) (request : Request) :
    Received → Prop
  | tooLong (declared : DeclaresTooMuch request) :
      IsReceivedAs service arrival request ⟨.settled .tooLong, 0⟩
  | preflight (browser : request.method = "OPTIONS") :
      IsReceivedAs service arrival request ⟨.settled .preflight, 0⟩
  | unserved {status : Nat} (failed : status = 404 ∨ status = 405) :
      IsReceivedAs service arrival request ⟨.settled (.answered (.empty status)), 0⟩
  | health (reading : Verb.ofMethod? request.method = some .get) :
      IsReceivedAs service arrival request ⟨.settled (.answered health), 0⟩
  | operation {operation : Operation} (meant : operation.MeantBy request) :
      IsReceivedAs service arrival request (service.receiveOperation arrival request operation)

/-- Every request is received in one of them. -/
theorem isReceivedAs (service : Service) (arrival : Arrival) (request : Request) :
    IsReceivedAs service arrival request (service.receive arrival request) := by
  unfold receive
  split
  · next declared =>
    exact .tooLong (by simpa [DeclaresTooMuch, Option.any_eq_true] using declared)
  · split
    · next browser => exact .preflight browser
    · split
      · exact .unserved (.inl rfl)
      · next location found =>
        split
        · exact .unserved (.inr rfl)
        · next served =>
          obtain ⟨verb, named, endpoint⟩ := Option.bind_eq_some_iff.mp served
          apply IsReceivedAs.health
          cases location <;> cases verb <;> first | exact named | cases endpoint
        · next operation served =>
          exact .operation (Operation.meantBy_iff.mpr ⟨location, found, served⟩)

/-- A request for an operation is given up, or refused, or accepted and has an errand. -/
theorem receiveOperation_cases (service : Service) (arrival : Arrival)
    (meant : operation.MeantBy request) :
    (service.receiveOperation arrival request operation).reception = .settled .late ∨
      (∃ refusal : Refusal, (service.receiveOperation arrival request operation).reception =
        .settled (.answered (refusal.toResponse service.wording operation request))) ∨
      ∃ token payload errand, Acceptance service arrival request operation token payload ∧
        (service.occasionOf arrival request operation payload).errand operation = .ok errand ∧
          (service.receiveOperation arrival request operation).reception = .errand errand := by
  unfold receiveOperation
  simp only
  split
  · split
    · next error _ => exact .inr (.inl ⟨.failed error, rfl⟩)
    · next state checked =>
      obtain ⟨token, payload, presented, nonempty, accepted, rfl⟩ :=
        AccessControl.check_eq_ok_iff.mp checked
      split
      · next refusal _ => exact .inr (.inl ⟨refusal, rfl⟩)
      · next errand passed =>
        right; right
        exact ⟨token, payload, errand, ⟨meant, presented, nonempty, accepted⟩, passed, rfl⟩
  · exact .inl rfl

/-- Only accepted requests have errands, which are those of the operations that they are for. -/
theorem acceptance_of_errand {errand : Errand}
    (received : (service.receive arrival request).reception = .errand errand) :
    ∃ operation token payload, Acceptance service arrival request operation token payload ∧
      (service.occasionOf arrival request operation payload).errand operation = .ok errand := by
  have way := service.isReceivedAs arrival request
  generalize service.receive arrival request = whole at way received
  cases way with
  | tooLong | preflight | unserved | health => cases received
  | @operation operation meant =>
    rcases service.receiveOperation_cases arrival meant with
      late | ⟨refusal, refused⟩ | ⟨token, payload, own, acceptance, passed, fetched⟩
    · rw [late] at received
      cases received
    · rw [refused] at received
      cases received
    · rw [fetched] at received
      cases received
      exact ⟨operation, token, payload, acceptance, passed⟩

/-- A response keeps its status where its body is left out. -/
theorem status_bareOrNot (leaves : Bool) (response : Response) :
    (if leaves then response.bare else response).status = response.status := by
  cases leaves <;> rfl

/-- A body that is left out takes no headers along. -/
theorem headers_bareOrNot (leaves : Bool) (response : Response) :
    (if leaves then response.bare else response).headers = response.headers := by
  cases leaves <;> rfl

/-- Headers do not change a status. -/
theorem status_add (response : Response) (headers : List Header) :
    (response.add headers).status = response.status := rfl

/-- Headers that a response lacks are added to it, and nothing else is changed. -/
theorem exists_added (headers : List Header) (response : Response) :
    ∃ added, headers.foldl Response.addIfAbsent response = response.add added := by
  induction headers generalizing response with
  | nil =>
    refine ⟨[], ?_⟩
    simp [Response.add]
  | cons header headers inductionHypothesis =>
    obtain ⟨added, same⟩ := inductionHypothesis (response.addIfAbsent header)
    rw [List.foldl_cons, same, Response.addIfAbsent]
    split
    · exact ⟨added, rfl⟩
    · refine ⟨header :: added, ?_⟩
      simp [Response.add]

theorem status_addIfAbsent (headers : List Header) (response : Response) :
    (headers.foldl Response.addIfAbsent response).status = response.status := by
  obtain ⟨added, same⟩ := exists_added headers response
  rw [same, status_add]

/-- What is added to all responses does not change the status. -/
theorem status_complete (outcome : Outcome) :
    (service.complete arrival request outcome).status = outcome.status := by
  unfold complete
  simp only [status_bareOrNot]
  cases outcome with
  | tooLong | preflight | late => rfl
  | answered response =>
    simp only [CorsPolicy.apply, status_add, status_addIfAbsent, Outcome.status]

/-- What is added to all responses does not change the body, which only requests for headers alone
have to do without. -/
theorem content_complete (service : Service) (arrival : Arrival) (request : Request)
    (response : Response) :
    (service.complete arrival request (.answered response)).content =
      if request.method = "HEAD" && (Location.ofPath? request.path).isSome then .none
      else response.content := by
  obtain ⟨added, same⟩ := exists_added securityHeaders response
  simp only [complete, same]
  split <;> rfl

end Service

end IssueTracker

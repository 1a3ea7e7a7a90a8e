import IssueTracker.Proofs.Service.Admission

/-!
# The statuses of responses

Nothing that callers do makes the service answer that something went wrong inside it. An operation
whose caller was let in finds the identity and the scopes that it requires among the attributes of
the request, each as what it is; so it fails for reasons that are the caller's only. It reads as
many segments as its route has parameters, and they are those.

So every response has one of a few statuses, that of a request that was given up aside.
-/

namespace IssueTracker

open Api Auth Http Store

namespace Api

/-- The segments that stand for the parameters of a route. -/
def Route.captured : List Part → List String → List String
  | .parameter :: parts, segment :: segments => segment :: captured parts segments
  | .word _ :: parts, _ :: segments => captured parts segments
  | _, _ => []

/-- As many segments are captured as there are parameters. -/
theorem Route.length_captured {parts : List Part} {segments : List String}
    (fits : List.Forall₂ Part.Fits parts segments) :
    (captured parts segments).length = parts.count .parameter := by
  induction fits with
  | nil => rfl
  | @cons part segment parts segments _ _ inductionHypothesis =>
    cases part with
    | word text => simpa [captured] using inductionHypothesis
    | parameter => simpa [captured] using inductionHypothesis

/-- An operation has the segments that its route captures. -/
theorem Operation.captured_segments (operation : Operation) :
    Route.captured operation.location.parts operation.location.segments = operation.segments := by
  cases operation <;> rfl

/-- Why a request is refused whose caller was let in. The fault is always with the request. -/
inductive Refusal.IsRegular : Refusal → Prop
  | rejected (rejection : Rejection) : IsRegular (.rejected rejection)
  | insufficientScope : IsRegular (.failed .insufficientScope)
  | invalid (message : String) : IsRegular (.failed (.badRequest "VALIDATION_ERROR" message))
  | notImplemented : IsRegular (.failed .notImplemented)

namespace Occasion

variable {occasion : Occasion}

theorem identifier_fails (segment : String) : (identifier segment).FailsOnly Refusal.IsRegular := by
  rcases identifier_cases segment with ⟨id, named⟩ | unnamed
  · rw [named]
    exact Except.failsOnly_ok id
  · rw [unnamed]
    exact Except.failsOnly_error (.rejected .path)

theorem authorize_fails : occasion.authorize.FailsOnly Refusal.IsRegular := by
  cases allowed : occasion.state.authorize with
  | true =>
    rw [authorize_eq_ok_iff.mpr allowed]
    exact Except.failsOnly_ok ()
  | false =>
    rw [authorize_of_refused allowed]
    exact Except.failsOnly_error .insufficientScope

theorem valid_fails {α : Type} (result : Except Submission.BlankField α) :
    (valid result).FailsOnly Refusal.IsRegular := by
  cases result with
  | ok checked => exact Except.failsOnly_ok checked
  | error field => exact Except.failsOnly_error (.invalid field.message)

theorem submission_fails {α : Type} (reader : Json.Reader α) :
    (occasion.submission reader).FailsOnly Refusal.IsRegular := by
  unfold submission
  split
  · exact Except.failsOnly_error (.rejected .mediaType)
  · split
    · exact Except.failsOnly_error (.rejected .length)
    · split
      · exact Except.failsOnly_ok _
      · exact Except.failsOnly_error (.rejected _)

theorem allowedListing_fails : occasion.allowedListing.FailsOnly Refusal.IsRegular := by
  have read : occasion.listing.FailsOnly Refusal.IsRegular := by
    unfold listing
    split
    · exact Except.failsOnly_ok _
    · exact Except.failsOnly_error (.rejected .query)
  exact read.bind fun _ => authorize_fails.bind fun _ => Except.failsOnly_ok _

/-- What is submitted is refused for regular reasons only, whatever is read and checked. -/
theorem supplied_fails {α : Type} (reader : Json.Reader α)
    (check : α → Except Submission.BlankField α) :
    (do
        let submitted ← occasion.submission reader
        occasion.authorize
        valid (check submitted)).FailsOnly Refusal.IsRegular :=
  (submission_fails reader).bind fun submitted => authorize_fails.bind fun _ =>
    valid_fails (check submitted)

/-- An operation that knows the subject of its caller fails for regular reasons only. -/
theorem errand_fails {subject : String} (known : occasion.subject = .ok subject)
    (operation : Operation) :
    (occasion.errand operation).FailsOnly Refusal.IsRegular := by
  have done (errand : Errand) : (Except.ok errand).FailsOnly Refusal.IsRegular :=
    Except.failsOnly_ok errand
  have listing : occasion.allowedListing.FailsOnly Refusal.IsRegular := allowedListing_fails
  have profile : occasion.profile.FailsOnly Refusal.IsRegular := supplied_fails _ _
  have issue : occasion.issue.FailsOnly Refusal.IsRegular := supplied_fails _ _
  have comment : occasion.comment.FailsOnly Refusal.IsRegular := supplied_fails _ _
  have authorized : occasion.authorize.FailsOnly Refusal.IsRegular := authorize_fails
  have named : occasion.subject.FailsOnly Refusal.IsRegular := known ▸ Except.failsOnly_ok subject
  have origin : occasion.issueOrigin.FailsOnly Refusal.IsRegular :=
    named.bind fun _ => Except.failsOnly_ok _
  have unimplemented : (throw (.failed .notImplemented) : Except Refusal Errand).FailsOnly
      Refusal.IsRegular :=
    Except.failsOnly_error .notImplemented
  -- The cases differ in how many segments are read first, and in what is read then.
  cases operation
  case listCustomers | listProjects => exact listing.bind fun _ => done _
  case createCustomer | createProject => exact profile.bind fun _ => done _
  case getCustomer | getProject =>
    exact (identifier_fails _).bind fun _ => authorized.bind fun _ => done _
  case updateCustomer | updateProject =>
    exact (identifier_fails _).bind fun _ => profile.bind fun _ => done _
  case listIssues => exact (identifier_fails _).bind fun _ => listing.bind fun _ => done _
  case createIssue =>
    exact (identifier_fails _).bind fun _ => issue.bind fun _ => origin.bind fun _ => done _
  case getIssue =>
    exact (identifier_fails _).bind fun _ => (identifier_fails _).bind fun _ =>
      authorized.bind fun _ => done _
  case updateIssue =>
    exact (identifier_fails _).bind fun _ => (identifier_fails _).bind fun _ =>
      issue.bind fun _ => done _
  case listComments =>
    exact (identifier_fails _).bind fun _ => (identifier_fails _).bind fun _ =>
      listing.bind fun _ => done _
  case createComment =>
    exact (identifier_fails _).bind fun _ => (identifier_fails _).bind fun _ =>
      comment.bind fun _ => named.bind fun _ => done _
  case getComment =>
    exact (identifier_fails _).bind fun _ => (identifier_fails _).bind fun _ =>
      (identifier_fails _).bind fun _ => authorized.bind fun _ => done _
  case updateComment =>
    exact (identifier_fails _).bind fun _ => (identifier_fails _).bind fun _ =>
      (identifier_fails _).bind fun _ => comment.bind fun _ => done _
  case listUsers => exact authorized.bind fun _ => unimplemented
  case getUser =>
    exact (identifier_fails _).bind fun _ => authorized.bind fun _ => unimplemented

end Occasion

/-- Whoever is not let in is told of the token. -/
theorem AccessControl.check_eq_error {control : AccessControl} {now : Instant}
    {required : List String} {headers : List Header} {error : ApiError}
    (refused : (control.check now required headers).state = .error error) :
    ∃ cause, error = .ofAuth cause := by
  unfold check at refused
  split at refused
  · next cause _ =>
    cases refused
    exact ⟨cause, rfl⟩
  · simp only at refused
    split at refused
    · next cause _ =>
      cases refused
      exact ⟨cause, rfl⟩
    · cases refused

end Api

namespace Service

/-- The statuses of responses. -/
def statuses : List Nat := [200, 201, 400, 401, 403, 404, 405, 409, 413, 415, 422, 501]

theorem status_of_isRegular {refusal : Refusal} (regular : refusal.IsRegular) :
    refusal.status ∈ statuses := by
  cases regular with
  | rejected rejection => cases rejection <;> decide
  | insufficientScope | notImplemented => decide
  | invalid message =>
    have status : (Refusal.failed (.badRequest "VALIDATION_ERROR" message)).status = 400 := rfl
    rw [status]
    decide

theorem status_ofAuth (cause : AuthError) :
    (ApiError.ofAuth cause).toResponse.status ∈ statuses := by
  have either : (ApiError.ofAuth cause).status = 400 ∨ (ApiError.ofAuth cause).status = 401 := by
    cases cause <;> simp [ApiError.ofAuth, ApiError.status]
  rcases either with status | status <;>
    simp [ApiError.toResponse, Response.json, status, statuses]

theorem status_result (result : Except StoreError Shown) :
    (Presentation.result result).status ∈ statuses := by
  cases result with
  | error refusal =>
    cases refusal <;>
      simp [Presentation.result, ApiError.ofStore, ApiError.toResponse, ApiError.status,
        Response.json, statuses]
  | ok shown =>
    rcases shown with reply | reply | reply | reply <;> cases reply <;>
      simp [Presentation.result, Presentation.shown, Presentation.reply, Response.json, statuses]

variable {service : Service} {arrival : Arrival} {request : Request} {operation : Operation}

/-- An operation whose caller is let in finds both attributes of the request, and fails for regular
reasons only. -/
theorem errand_of_let_in {state : RequestState}
    (passed : (service.access.check arrival.judgedAt operation.required request.headers).state =
      .ok state) :
    (∃ identity, state.identity = .ok identity) ∧ state.requiredScopes = .ok operation.required ∧
      ((service.occasion arrival request state).errand operation).FailsOnly Refusal.IsRegular := by
  obtain ⟨token, payload, -, -, -, rfl⟩ := AccessControl.check_eq_ok_iff.mp passed
  refine ⟨⟨_, RequestState.identity_bind _ _⟩, RequestState.requiredScopes_bind _ _, ?_⟩
  exact Occasion.errand_fails (subject_occasionOf.mpr rfl) operation

/-- A request that is settled without the stores comes to one of the statuses, unless the provider
was waited for beyond the deadline. -/
theorem mem_statuses_of_settled {outcome : Outcome}
    (received : (service.receive arrival request).reception = .settled outcome) :
    outcome.status ∈ statuses ∨
      outcome.status = 408 ∧ ∃ operation : Operation, operation.MeantBy request ∧
        ¬ (service.access.check arrival.judgedAt operation.required request.headers).waited ≤
          deadline := by
  have way := service.isReceivedAs arrival request
  generalize service.receive arrival request = whole at way received
  cases way with
  | tooLong | preflight | health =>
    cases received
    exact .inl (by decide)
  | unserved failed =>
    cases received
    left
    rcases failed with rfl | rfl <;> decide
  | @operation operation meant =>
    unfold receiveOperation at received
    simp only at received
    split at received
    · left
      split at received
      · next error refused =>
        cases received
        obtain ⟨cause, rfl⟩ := AccessControl.check_eq_error refused
        exact status_ofAuth cause
      · next state passed =>
        split at received
        · next refusal failed =>
          cases received
          simp only [Outcome.status, Refusal.status_toResponse]
          exact status_of_isRegular ((errand_of_let_in passed).2.2 refusal failed)
        · cases received
    · next late =>
      cases received
      exact .inr ⟨rfl, operation, meant, late⟩

/-- Nothing goes wrong inside the service. Whatever the settings, the stores and the request are,
the response has one of a few statuses, unless the request is given up at the deadline. An operation
has the segments that stand for the parameters of its route, as many as there are. If its caller is
let in it finds both attributes of the request, each as what it is, and does not fail for want of
them or for an internal reason. -/
theorem nothing_internal (service : Service) (stores : Stores) (arrival : Arrival)
    (request : Request) :
    ((service.handle stores arrival request).response.status ∈ statuses ∨
      (service.handle stores arrival request).response.status = 408 ∧
        ∃ operation : Operation, operation.MeantBy request ∧
          ¬ (service.access.check arrival.judgedAt operation.required request.headers).waited ≤
            deadline) ∧
    ∀ operation : Operation, operation.MeantBy request →
      (∃ route ∈ Route.guarded, route.method = operation.verb.method ∧ ∃ segments,
        List.Forall₂ Part.Fits route.parts segments ∧
          request.path.toList = Route.written segments ∧
            Route.captured route.parts segments = operation.segments ∧
              route.parts.count .parameter = operation.segments.length) ∧
      ∀ state,
        (service.access.check arrival.judgedAt operation.required request.headers).state =
            .ok state →
          (∃ identity, state.identity = .ok identity) ∧
            state.requiredScopes = .ok operation.required ∧
              ∀ error, (service.occasion arrival request state).errand operation =
                  .error (.failed error) →
                error ≠ .internal ∧ ∀ cause, error ≠ .unauthenticated cause := by
  constructor
  · cases received : (service.receive arrival request).reception with
    | settled outcome =>
      rw [handle_of_settled received, status_complete]
      exact mem_statuses_of_settled received
    | errand errand =>
      have status : (service.handle stores arrival request).response.status =
          (Presentation.result (stores.run errand).2).status := by
        simp only [handle, received, status_complete, Outcome.status]
      rw [status]
      exact .inl (status_result _)
  · intro operation meant
    constructor
    · have fits := Location.parts_fit meant.proper
      refine ⟨_, operation.mem_guarded, rfl, operation.location.segments, fits, meant.path,
        operation.captured_segments, ?_⟩
      rw [← operation.captured_segments, Route.length_captured fits]
    · intro state passed
      obtain ⟨identity, required, fails⟩ := errand_of_let_in passed
      refine ⟨identity, required, fun error failed => ?_⟩
      have regular := fails _ failed
      cases regular <;> simp

/-- A reader's request to create a customer is answered regularly, and both attributes are there. -/
theorem readersCreation_regular :
    Operation.createCustomer.MeantBy readersCreation ∧
      (trusting.handle Stores.empty epoch readersCreation).response.status ∈ statuses ∧
        ∃ state, (trusting.access.check epoch.judgedAt Operation.createCustomer.required
            readersCreation.headers).state = .ok state ∧
          (∃ identity, state.identity = .ok identity) ∧
            state.requiredScopes = .ok Operation.createCustomer.required := by
  have meant : Operation.createCustomer.MeantBy readersCreation := by decide +kernel
  have presented : headerText? readersCreation.headers "authorization" =
      some (trusting.access.scheme ++ " " ++ readerToken) := by
    decide +kernel
  have acceptance : Acceptance trusting epoch readersCreation .createCustomer readerToken
      readerPayload :=
    ⟨meant, presented, by decide, readerToken_accepted.1⟩
  obtain ⟨passed, waited⟩ := check_of_acceptance acceptance
  obtain ⟨status, each⟩ := nothing_internal trusting Stores.empty epoch readersCreation
  obtain ⟨-, found⟩ := each _ meant
  obtain ⟨identity, required, -⟩ := found _ passed
  refine ⟨meant, ?_, _, passed, identity, required⟩
  rcases status with among | ⟨-, operation, other, late⟩
  · exact among
  · obtain rfl := meant.unique other
    rw [waited] at late
    exact absurd readerToken_accepted.2 late

end Service

end IssueTracker

import IssueTracker.Http.Status
import IssueTracker.Proofs.Service.Indifference
import IssueTracker.Proofs.Service.Writes

/-!
# Records are reached through their parents

A project is reached if it is one of the tenant, an issue if it is one of the project in the path,
and a comment if it is one of the issue there. An authorised request that is well-formed is a
success exactly if all of them are there, and gives no name that another record of the tenant has;
it is then done to the record in the path, or shows that record, or lists those of the parents in
the path. An identifier that is right below a wrong parent is no better than none.

A request is well-formed only if it declares its body to be JSON. And it has to be answered before
the deadline of all requests, which a provider can let pass that takes its time and then accepts.

Whether the stores are such as requests can bring about does not matter, and neither does whether
identifiers are distinct: what is not under the parents in the path is not looked at.
-/

namespace IssueTracker

open Api Auth Http Store

namespace Service

/-- Whether a request that asks for a call is handled as the rows in the stores require. -/
structure AnswersExactly (service : Service) (arrival : Arrival) (request : Request)
    (stores : Stores) (call : StoreCall) (handled : Handled) : Prop where
  /-- It is a success exactly if the name that it gives is free and its parents are there, and the
  row that it is about. -/
  success_iff : Status.isSuccess handled.response.status = true ↔
    ¬ stores.Block call ∧ stores.HaveLineage call ∧ stores.HaveTarget call
  /-- It is a conflict if the name is taken. -/
  conflict : stores.Block call → handled.response.status = 409 ∧ handled.stores = stores
  /-- Otherwise it fails for want of what is not there. -/
  absence : ¬ stores.Block call → ¬ (stores.HaveLineage call ∧ stores.HaveTarget call) →
    handled.response.status = 404 ∧ handled.stores = stores
  /-- Otherwise it is fulfilled, and the response is the one that shows what was asked for. It tells
  of it in its status and its body, which only requests for headers alone do without. -/
  fulfilment : ¬ stores.Block call → stores.HaveLineage call ∧ stores.HaveTarget call →
    ∃ shown, stores.Fulfil call handled.stores shown ∧
      handled.response = service.complete arrival request
        (.answered (Presentation.shown shown)) ∧
      (request.method ≠ "HEAD" → shown.IsToldBy handled.response)

variable {service : Service} {arrival : Arrival} {request : Request} {operation : Operation}
  {token : String} {payload : TokenPayload} {call : StoreCall}

/-- What an authorised request asks for is done in time. -/
theorem handle_of_asks (acceptance : Acceptance service arrival request operation token payload)
    (granted : ∃ scope ∈ splitScopes payload.scope, scope ∈ operation.required)
    (short : ¬ DeclaresTooMuch request)
    (asks : (service.occasionOf arrival request operation payload).Asks operation call)
    (timely : service.waited arrival token ≤ deadline) (stores : Stores) :
    service.handle stores arrival request =
      ⟨(stores.run call.errand).1, service.complete arrival request
          (.answered (Presentation.result (stores.run call.errand).2)),
        (service.receive arrival request).providerCalls⟩ := by
  have passed := Occasion.errand_eq_ok_iff.mpr
    ⟨authorize_occasionOf.mpr granted, call, asks, rfl⟩
  rw [handle_of_acceptance acceptance short timely stores, passed]

/-- A response that tells of something does so when it is complete, unless headers alone are asked
for. -/
theorem isToldBy_complete {response : Response} {shown : Shown} (tells : shown.IsToldBy response)
    (whole : request.method ≠ "HEAD") :
    shown.IsToldBy (service.complete arrival request (.answered response)) := by
  have content : (service.complete arrival request (.answered response)).content =
      response.content := by
    simp [content_complete, whole]
  cases shown <;> exact ⟨by rw [status_complete]; exact tells.1, by rw [content]; exact tells.2⟩

/-- A call that is made and shown is answered as the rows in the stores require. -/
theorem answersExactly_run (service : Service) (arrival : Arrival) (request : Request)
    (stores : Stores) (call : StoreCall) (providerCalls : Nat) :
    AnswersExactly service arrival request stores call
      ⟨(stores.run call.errand).1, service.complete arrival request
          (.answered (Presentation.result (stores.run call.errand).2)), providerCalls⟩ := by
  rcases stores.run_exact call with
    ⟨blocked, resource, name, done⟩ | ⟨free, missing, resource, done⟩ |
      ⟨free, there, after, shown, done, fulfilled⟩
  · rw [done]
    constructor
    case success_iff =>
      rw [status_complete]
      have failed : ¬ Status.isSuccess 409 = true := by decide
      exact ⟨fun success => absurd success failed, fun all => absurd blocked all.1⟩
    case conflict =>
      intro _
      rw [status_complete]
      exact ⟨rfl, rfl⟩
    case absence | fulfilment =>
      intro free
      exact absurd blocked free
  · rw [done]
    constructor
    case success_iff =>
      rw [status_complete]
      have failed : ¬ Status.isSuccess 404 = true := by decide
      exact ⟨fun success => absurd success failed, fun all => absurd all.2 missing⟩
    case conflict =>
      intro blocked
      exact absurd blocked free
    case absence =>
      intro _ _
      rw [status_complete]
      exact ⟨rfl, rfl⟩
    case fulfilment =>
      intro _ there
      exact absurd there missing
  · rw [done]
    constructor
    case success_iff =>
      have success : Status.isSuccess (Presentation.shown shown).status = true := by
        rcases fulfilled.effect with ⟨-, status, -⟩ | ⟨-, status, -⟩ | ⟨-, status, -⟩ <;>
          rw [status] <;> decide
      rw [status_complete]
      exact ⟨fun _ => ⟨free, there⟩, fun _ => success⟩
    case conflict =>
      intro blocked
      exact absurd blocked free
    case absence =>
      intro _ missing
      exact absurd there missing
    case fulfilment =>
      intro _ _
      exact ⟨shown, fulfilled, rfl, isToldBy_complete (Presentation.isToldBy_shown shown)⟩

/-- Records are reached through their parents only. Whatever the stores hold, a request that is
authorised and well-formed, and about which the provider decides before the deadline, is handled as
the rows in them require, those of the parents in its path and of the record in it. -/
theorem reached_through_parents (service : Service) (arrival : Arrival) (request : Request)
    (operation : Operation) (token : String) (payload : TokenPayload) (call : StoreCall)
    (acceptance : Acceptance service arrival request operation token payload)
    (granted : ∃ scope ∈ splitScopes payload.scope, scope ∈ operation.required)
    (short : ¬ DeclaresTooMuch request) (timely : service.waited arrival token ≤ deadline)
    (asks : (service.occasionOf arrival request operation payload).Asks operation call)
    (stores : Stores) :
    AnswersExactly service arrival request stores call (service.handle stores arrival request) := by
  rw [handle_of_asks acceptance granted short asks timely]
  exact answersExactly_run service arrival request stores call _

/-- What an accepted request asks for is not done if the provider is waited for beyond the deadline.
-/
theorem handle_of_late (acceptance : Acceptance service arrival request operation token payload)
    (short : ¬ DeclaresTooMuch request) (late : ¬ service.waited arrival token ≤ deadline)
    (stores : Stores) :
    (service.handle stores arrival request).stores = stores ∧
      (service.handle stores arrival request).response.status = 408 := by
  have received := receive_of_acceptance acceptance short
  rw [if_neg late] at received
  rw [handle_of_settled received, status_complete]
  exact ⟨rfl, rfl⟩

section Siblings

/-- Two projects of the tenant, with an issue in the first. -/
def siblings : Stores where
  projects := [⟨numbered 1, Uuid.zero, (), ⟨"p", "", []⟩, ⟨0, 0⟩, ⟨0, 0⟩⟩,
    ⟨numbered 2, Uuid.zero, (), ⟨"q", "", []⟩, ⟨0, 0⟩, ⟨0, 0⟩⟩]
  issues := [⟨numbered 3, ⟨Uuid.zero, numbered 1⟩, ⟨"r", "created"⟩, ⟨"s", "v", "c", [], ""⟩,
    ⟨0, 0⟩, ⟨0, 0⟩⟩]

/-- The issue in a project, as it is written in a path. -/
def issueIn (project : String) : Operation :=
  .getIssue ("00000000-0000-0000-0000-00000000000" ++ project)
    "00000000-0000-0000-0000-000000000003"

/-- An author's request for the issue in a project. -/
def requestFor (project : String) : Visit :=
  let visit := creationOf 4 ("/00000000-0000-0000-0000-00000000000" ++ project ++
    "/issues/00000000-0000-0000-0000-000000000003") ""
  { visit with request := { visit.request with method := "GET" } }

/-- An author may ask for the issue in a project. -/
theorem granted_issueIn (project : String) : ∃ scope ∈ splitScopes authorPayload.scope,
    scope ∈ (issueIn project).required := by
  have scopes : splitScopes authorPayload.scope =
      ["tracker/project.write", "tracker/issue.write"] := by
    decide +kernel
  rw [scopes]
  exact ⟨"tracker/issue.write", by simp, by simp [issueIn, Operation.required]⟩

/-- The issue is there in its own project. -/
theorem siblings_there :
    siblings.HaveLineage (.issues ⟨Uuid.zero, numbered 1⟩ (.get (numbered 3))) ∧
      siblings.HaveTarget (.issues ⟨Uuid.zero, numbered 1⟩ (.get (numbered 3))) := by
  simp [Stores.HaveLineage, Stores.HaveProjectOf, Stores.HaveTarget, Collection.Reaches,
    Collection.HasRow, Call.target?, siblings]

/-- The issue is shown in its own project, and not found in the other. -/
theorem siblings_told_apart :
    AnswersExactly trusting (requestFor "1").arrival (requestFor "1").request siblings
        (.issues ⟨Uuid.zero, numbered 1⟩ (.get (numbered 3)))
        (trusting.handle siblings (requestFor "1").arrival (requestFor "1").request) ∧
      AnswersExactly trusting (requestFor "2").arrival (requestFor "2").request siblings
        (.issues ⟨Uuid.zero, numbered 2⟩ (.get (numbered 3)))
        (trusting.handle siblings (requestFor "2").arrival (requestFor "2").request) ∧
      (trusting.handle siblings (requestFor "1").arrival
        (requestFor "1").request).response.status = 200 ∧
      (trusting.handle siblings (requestFor "1").arrival
        (requestFor "1").request).response.content.octets = Utf8.encode
          ("\x7b\"id\":\"00000000-0000-0000-0000-000000000003\","
            ++ "\"project_id\":\"00000000-0000-0000-0000-000000000001\","
            ++ "\"reporter\":\"r\",\"subject\":\"s\",\"state\":\"created\","
            ++ "\"severity\":\"v\",\"category\":\"c\",\"labels\":[],\"content\":\"\","
            ++ "\"created_at\":\"1970-01-01T00:00:00Z\","
            ++ "\"updated_at\":\"1970-01-01T00:00:00Z\"\x7d") ∧
      (trusting.handle siblings (requestFor "2").arrival
        (requestFor "2").request).response.status = 404 := by
  have exactly {project : String} {parent : Uuid}
      (meant : (issueIn project).MeantBy (requestFor project).request)
      (presented : headerText? (requestFor project).request.headers "authorization" =
        some ("Bearer " ++ authorToken))
      (short : ¬ DeclaresTooMuch (requestFor project).request)
      (named : Occasion.identifier ("00000000-0000-0000-0000-00000000000" ++ project) =
        .ok parent) :
      AnswersExactly trusting (requestFor project).arrival (requestFor project).request siblings
        (.issues ⟨Uuid.zero, parent⟩ (.get (numbered 3)))
        (trusting.handle siblings (requestFor project).arrival (requestFor project).request) := by
    obtain ⟨acceptance, timely⟩ := acceptance_author rfl meant presented
    have its : Occasion.identifier "00000000-0000-0000-0000-000000000003" = .ok (numbered 3) := by
      decide +kernel
    exact reached_through_parents trusting _ _ _ _ _ _ acceptance (granted_issueIn project) short
      timely (.getIssue named its) siblings
  have own := @exactly "1" (numbered 1) (by decide +kernel) (by decide +kernel) (by decide +kernel)
    (by decide +kernel)
  have stray := @exactly "2" (numbered 2) (by decide +kernel) (by decide +kernel)
    (by decide +kernel) (by decide +kernel)
  have absent : ¬ siblings.HaveTarget (.issues ⟨Uuid.zero, numbered 2⟩ (.get (numbered 3))) := by
    have apart : numbered 1 ≠ numbered 2 := by decide
    simp [Stores.HaveTarget, Collection.Reaches, Collection.HasRow, Call.target?, siblings, apart]
  refine ⟨own, stray, ?_, ?_, (stray.absence id fun both => absent both.2).1⟩
  all_goals
    rw [handle_author (issueIn "1") rfl (by decide +kernel) (by decide +kernel) (by decide +kernel)]
    decide +kernel

/-- The author's request for another name of the project, without a word on what its body is. -/
def unlabelled : Visit :=
  { renamed with request := { renamed.request with
      headers := [.ofText "authorization" ("Bearer " ++ authorToken)] } }

/-- The call that a request for that name asks for. -/
def renewal : StoreCall := .projects Uuid.zero (.update Uuid.zero ⟨"q", "", []⟩ ⟨1, 0⟩)

/-- The author's token with another signature. -/
def slowToken : String :=
  "eyJhbGciOiJSUzI1NiJ9"
    ++ ".eyJpc3MiOiJpc3N1ZXIiLCJleHAiOjEsInNjb3BlIjoi"
    ++ "dHJhY2tlci9wcm9qZWN0LndyaXRlIHRyYWNrZXIvaXNzdWUud3JpdGUifQ"
    ++ ".c2xvdw"

/-- A service that waits for its provider for up to a minute. The provider takes 31 seconds about
the other signature. -/
def patient : Service :=
  { trusting with access := { trusting.access with
      validator := { trusting.access.validator with verifyTimeout := Duration.ofSeconds 60 }
      provider token := { trusting.access.provider token with
        latency := if token = slowToken then Duration.ofSeconds 31 else Duration.zero } } }

/-- Both tokens are accepted, the one in time and the other too late. -/
theorem patient_accepts :
    ((patient.access.validator.validateAt patient.access.provider epoch.judgedAt
        authorToken).result = .ok authorPayload ∧ patient.waited epoch authorToken ≤ deadline) ∧
      (patient.access.validator.validateAt patient.access.provider epoch.judgedAt
          slowToken).result = .ok authorPayload ∧ ¬ patient.waited epoch slowToken ≤ deadline := by
  decide +kernel

/-- The issue in its own project is asked for with the other token. -/
def slowReading : Request :=
  { (requestFor "1").request with headers := [.ofText "authorization" ("Bearer " ++ slowToken)] }

/-- It is not enough that parents and records are there and that a request is authorised, with a
body that is good. One is refused that does not declare its body to be JSON; and one is given up
about which the provider takes too long. -/
theorem parents_not_enough :
    (Authorised trusting unlabelled.arrival unlabelled.request ∧ KeepsLimits unlabelled.request ∧
      unlabelled.request.path = "/api/v1/projects/00000000-0000-0000-0000-000000000000" ∧
      Json.decode Submission.profile unlabelled.request.body = .ok ⟨"q", "", []⟩ ∧
      (¬ oneProject.Block renewal ∧ oneProject.HaveLineage renewal ∧
        oneProject.HaveTarget renewal) ∧
      (trusting.handle oneProject unlabelled.arrival unlabelled.request).response.status = 415) ∧
    Authorised patient epoch slowReading ∧ KeepsLimits slowReading ∧
      slowReading.path = "/api/v1/projects/00000000-0000-0000-0000-000000000001/issues/"
        ++ "00000000-0000-0000-0000-000000000003" ∧
      siblings.HaveLineage (.issues ⟨Uuid.zero, numbered 1⟩ (.get (numbered 3))) ∧
      siblings.HaveTarget (.issues ⟨Uuid.zero, numbered 1⟩ (.get (numbered 3))) ∧
      (patient.handle siblings epoch slowReading).response.status = 408 := by
  constructor
  · have meant : (Operation.updateProject "00000000-0000-0000-0000-000000000000").MeantBy
        unlabelled.request := by
      decide +kernel
    have granted : ∃ scope ∈ splitScopes authorPayload.scope,
        scope ∈ (Operation.updateProject "00000000-0000-0000-0000-000000000000").required :=
      ⟨"tracker/project.write", by decide +kernel, by decide⟩
    have limits : KeepsLimits unlabelled.request := ⟨by decide +kernel, by decide +kernel⟩
    obtain ⟨acceptance, -⟩ := acceptance_author rfl meant (presents_author [])
    refine ⟨authorised_of_acceptance acceptance granted, limits, by decide +kernel,
      by decide +kernel, ?_, ?_⟩
    · simp [Stores.Block, Collection.Blocks, Collection.HasNameBesides, Stores.HaveLineage,
        Stores.HaveTarget, Collection.Reaches, Collection.HasRow, Call.target?, renewal,
        oneProject]
    · rw [handle_author _ rfl meant (presents_author []) limits.declared]
      decide +kernel
  · have limits : KeepsLimits slowReading := ⟨by decide +kernel, by decide +kernel⟩
    have acceptance : Acceptance patient epoch slowReading (issueIn "1") slowToken authorPayload :=
      ⟨by decide +kernel, by decide +kernel, by decide, patient_accepts.2.1⟩
    exact ⟨authorised_of_acceptance acceptance (granted_issueIn "1"), limits, by decide +kernel,
      siblings_there.1, siblings_there.2,
      (handle_of_late acceptance limits.declared patient_accepts.2.2 siblings).2⟩

end Siblings

end Service

end IssueTracker

import IssueTracker.Proofs.Api.Presentation
import IssueTracker.Proofs.Service.Indifference
import IssueTracker.Proofs.Service.Nesting
import IssueTracker.Proofs.Store.Keeping

/-!
# Writing back what was read

Whoever reads a record and submits what is shown, as it is, changes nothing about the record but the
time of its last change. What is shown is read as the fields that are stored; these pass their
checks again, as white space was taken off them before; and the name among them is one that no other
record of the scope has.

That holds for all stores that requests can bring about, as only there stored fields have passed
their checks. It does not hold for a request that declares a body longer than it has, if that is
beyond the limit, and for one that is given up because the provider takes too long.
-/

namespace IssueTracker

open Api Auth Http Store

namespace Service

/-- Whether stores are such as requests can bring about. -/
def Reachable (service : Service) (stores : Stores) : Prop :=
  ∃ visits, stores = service.storesAfter Stores.empty visits

/-- Whether stores become others when a record is written back. The operation that updates it is the
one for the row that a body shows, under its own parents, and nothing is different but when that row
was changed last. -/
inductive IsWrittenBack (tenant : Uuid) (now : Instant) (before : Stores) :
    Operation → Content → Stores → Prop
  | customer {segment : String} {row : CustomerRow} {rows : Collection Unit Unit Profile}
      (named : Occasion.identifier segment = .ok row.id)
      (retimes : before.customers.Retimes row now rows) :
      IsWrittenBack tenant now before (.updateCustomer segment)
        (.json (.ofMembers (customerMembers row))) { before with customers := rows }
  | project {segment : String} {row : ProjectRow} {rows : Collection Uuid Unit Profile}
      (named : Occasion.identifier segment = .ok row.id) (scope : row.scope = tenant)
      (retimes : before.projects.Retimes row now rows) :
      IsWrittenBack tenant now before (.updateProject segment)
        (.json (.ofMembers (projectMembers row))) { before with projects := rows }
  | issue {first second : String} {project : Uuid} {row : IssueRow}
      {rows : Collection IssueScope IssueOrigin IssueFields}
      (parent : Occasion.identifier first = .ok project)
      (named : Occasion.identifier second = .ok row.id) (scope : row.scope = ⟨tenant, project⟩)
      (retimes : before.issues.Retimes row now rows) :
      IsWrittenBack tenant now before (.updateIssue first second)
        (.json (.ofMembers (issueMembers row))) { before with issues := rows }
  | comment {first second third : String} {project issue : Uuid} {row : CommentRow}
      {rows : Collection CommentScope String String}
      (grandparent : Occasion.identifier first = .ok project)
      (parent : Occasion.identifier second = .ok issue)
      (named : Occasion.identifier third = .ok row.id)
      (scope : row.scope = ⟨tenant, project, issue⟩)
      (retimes : before.comments.Retimes row now rows) :
      IsWrittenBack tenant now before (.updateComment first second third)
        (.json (.ofMembers (commentMembers row))) { before with comments := rows }

variable {service : Service} {stores : Stores} {arrival : Arrival} {request : Request}
  {operation : Operation} {token : String} {payload : TokenPayload}

/-- Requests leave all rows their names. -/
theorem Reachable.keepNames (reachable : service.Reachable stores) : stores.KeepNames := by
  obtain ⟨visits, rfl⟩ := reachable
  induction visits using List.reverseRecOn with
  | nil => exact Stores.keepNames_empty
  | append_singleton visits visit inductionHypothesis =>
    rw [storesAfter_concat, stores_handle]
    split
    · exact inductionHypothesis
    · exact inductionHypothesis.run _

/-- Stores that requests bring about are as they have to be. -/
theorem Reachable.dataModel (reachable : service.Reachable stores) :
    DataModel service.tenant stores := by
  obtain ⟨visits, rfl⟩ := reachable
  exact dataModel_storesAfter (dataModel_empty service.tenant) visits

/-- A request for an operation that is settled without the stores comes to an error, also if it
declares too much. -/
theorem error_of_meant (meant : operation.MeantBy request) {outcome : Outcome}
    (received : (service.receive arrival request).reception = .settled outcome) :
    400 ≤ outcome.status := by
  by_cases long : DeclaresTooMuch request
  · rw [receive_of_declaresTooMuch long] at received
    cases received
    decide
  · rw [receive_of_meant meant long] at received
    exact error_of_receiveOperation meant received

/-- A reading request leaves the stores as they are. -/
theorem stores_of_reading (reads : request.method = "GET") :
    (service.handle stores arrival request).stores = stores := by
  rcases service.handle_effect stores arrival request with
    ⟨unchanged, -⟩ | ⟨call, -, ⟨post, -⟩ | ⟨put, -⟩⟩
  · exact unchanged
  · rw [reads] at post
    exact absurd post (by decide)
  · rw [reads] at put
    exact absurd put (by decide)

/-- A reading request for an operation that is answered with success asks for a call that shows
something, and that is the body of the answer. -/
theorem exists_shown (reads : request.method = "GET") (meant : operation.MeantBy request)
    (success : (service.handle stores arrival request).response.status = 200) :
    ∃ payload call shown,
      (service.occasionOf arrival request operation payload).Asks operation call ∧
        (stores.run call.errand).2 = .ok shown ∧
          (service.handle stores arrival request).response.content =
            (Presentation.shown shown).content := by
  cases received : (service.receive arrival request).reception with
  | settled outcome =>
    have error := error_of_meant meant received
    rw [handle_of_settled received, status_complete] at success
    omega
  | errand errand =>
    obtain ⟨other, token, payload, acceptance, passed⟩ := acceptance_of_errand received
    obtain rfl := meant.unique acceptance.meant
    obtain ⟨-, call, asks, rfl⟩ := Occasion.errand_eq_ok_iff.mp passed
    have response : (service.handle stores arrival request).response =
        service.complete arrival request
          (.answered (Presentation.result (stores.run call.errand).2)) := by
      simp only [handle, received]
    cases ran : (stores.run call.errand).2 with
    | error refusal =>
      have error := ApiError.error_status (.ofStore refusal)
      rw [response, ran, status_complete] at success
      have status : (ApiError.ofStore refusal).status = 200 := success
      omega
    | ok shown =>
      refine ⟨payload, call, shown, asks, ran, ?_⟩
      have other : request.method ≠ "HEAD" := by
        rw [reads]
        decide
      rw [response, ran, content_complete, decide_eq_false other]
      rfl

/-- A body that is what was shown is a submission of the fields that are stored. -/
theorem supplies_of_shown {φ : Type} {reader : Json.Reader φ}
    {check : φ → Except Submission.BlankField φ} {json : Json} {fields : φ}
    (declared : MediaType.declaresJson request.headers = true)
    (short : KeepsLimits request) (body : request.body = json.write)
    (read : Json.decode reader json.write = .ok fields) (checked : check fields = .ok fields) :
    (service.occasionOf arrival request operation payload).Supplies reader check fields :=
  ⟨fields, ⟨declared, short.actual, by rw [← body] at read; exact read⟩, checked⟩

/-- A request whose body is what was shown asks for a call that writes it back. -/
theorem asks_of_shown {seen : Visit} {before : Stores} (reachable : service.Reachable before)
    (reads : seen.request.method = "GET") (same : request.path = seen.request.path)
    (success : (service.handle before seen.arrival seen.request).response.status = 200)
    (meant : operation.MeantBy request) (updates : operation.verb = .put)
    (declared : MediaType.declaresJson request.headers = true) (short : KeepsLimits request)
    (body : request.body =
      (service.handle before seen.arrival seen.request).response.content.octets) :
    ∃ call after shown,
      (service.occasionOf arrival request operation payload).Asks operation call ∧
        before.run call.errand = (after, .ok shown) ∧ (Presentation.shown shown).status = 200 ∧
          IsWrittenBack service.tenant arrival.recordedAt before operation
            (service.handle before seen.arrival seen.request).response.content after := by
  have model := reachable.dataModel
  have keep := reachable.keepNames
  have meantToo {read : Operation} (get : read.verb = .get)
      (there : read.location = operation.location) : read.MeantBy seen.request :=
    ⟨.inl (by rw [reads, get]; rfl), by rw [there]; exact meant.proper,
      by rw [there, ← same]; exact meant.path⟩
  cases operation
  case updateCustomer segment =>
    obtain ⟨_, _, shown, asks, ran, content⟩ :=
      exists_shown reads (@meantToo (.getCustomer segment) rfl rfl) success
    rw [content] at body ⊢
    cases asks with
    | getCustomer named =>
      obtain ⟨row, inside, -, rfl, rfl, back⟩ := Stores.written_back_within .customers
        (fun rows => { before with customers := rows }) .customers (fun _ => rfl) (fun _ _ => rfl)
        keep.customers ran
      obtain ⟨rows, retimes, changed⟩ := back arrival.recordedAt
      have checked := Submission.checkProfile_of_isNamed (model.customer_named row inside)
      have read := Presentation.decode_customer row
      exact ⟨_, _, _, .updateCustomer named (supplies_of_shown declared short body read checked),
        changed, rfl, .customer named retimes⟩
  case updateProject segment =>
    obtain ⟨_, _, shown, asks, ran, content⟩ :=
      exists_shown reads (@meantToo (.getProject segment) rfl rfl) success
    rw [content] at body ⊢
    cases asks with
    | getProject named =>
      obtain ⟨row, inside, itsScope, rfl, rfl, back⟩ := Stores.written_back_within
        (.projects service.tenant) (fun rows => { before with projects := rows }) .projects
        (fun _ => rfl) (fun _ _ => rfl) keep.projects ran
      obtain ⟨rows, retimes, changed⟩ := back arrival.recordedAt
      have checked := Submission.checkProfile_of_isNamed (model.project_named row inside)
      have read := Presentation.decode_project row
      exact ⟨_, _, _, .updateProject named (supplies_of_shown declared short body read checked),
        changed, rfl, .project named itsScope retimes⟩
  case updateIssue first second =>
    obtain ⟨_, _, shown, asks, ran, content⟩ :=
      exists_shown reads (@meantToo (.getIssue first second) rfl rfl) success
    rw [content] at body ⊢
    cases asks with
    | @getIssue _ _ project _ parent named =>
      obtain ⟨row, inside, itsScope, rfl, rfl, back⟩ := Stores.written_back_within
        (.issues ⟨service.tenant, project⟩) (fun rows => { before with issues := rows }) .issues
        (fun _ => rfl) (fun _ _ => rfl) keep.issues ran
      obtain ⟨rows, retimes, changed⟩ := back arrival.recordedAt
      have checked := Submission.checkIssue_of_isFilled (model.issue_filled row inside)
      have read := Presentation.decode_issue row
      exact ⟨_, _, _,
        .updateIssue parent named (supplies_of_shown declared short body read checked), changed,
        rfl, .issue parent named itsScope retimes⟩
  case updateComment first second third =>
    obtain ⟨_, _, shown, asks, ran, content⟩ :=
      exists_shown reads (@meantToo (.getComment first second third) rfl rfl) success
    rw [content] at body ⊢
    cases asks with
    | @getComment _ _ _ project issue _ grandparent parent named =>
      obtain ⟨row, inside, itsScope, rfl, rfl, back⟩ := Stores.written_back_within
        (.comments ⟨service.tenant, project, issue⟩) (fun rows => { before with comments := rows })
        .comments (fun _ => rfl) (fun _ _ => rfl) keep.comments ran
      obtain ⟨rows, retimes, changed⟩ := back arrival.recordedAt
      have checked := Submission.checkComment_of_filled (model.comment_filled row inside)
      have read := Presentation.decode_comment row
      exact ⟨_, _, _, .updateComment grandparent parent named
        (supplies_of_shown declared short body read checked), changed, rfl,
        .comment grandparent parent named itsScope retimes⟩
  all_goals cases updates

/-- A record that is read and written back stays as it is. Let requests have brought stores about,
and one that reads a record be answered with success. Then one that puts the very body of that
answer in the same place, and may write there, is answered with success as well, if the provider
decides about it before the deadline; and the stores are as they were before, up to the time of the
last change of that record. -/
theorem writing_back_harmless (service : Service) (stores : Stores)
    (reachable : service.Reachable stores) (seen written : Visit)
    (reads : seen.request.method = "GET") (same : written.request.path = seen.request.path)
    (success : (service.handle stores seen.arrival seen.request).response.status = 200)
    (body : written.request.body =
      (service.handle stores seen.arrival seen.request).response.content.octets)
    (declared : MediaType.declaresJson written.request.headers = true)
    (short : KeepsLimits written.request) (operation : Operation) (updates : operation.verb = .put)
    (token : String) (payload : TokenPayload)
    (acceptance : Acceptance service written.arrival written.request operation token payload)
    (timely : service.waited written.arrival token ≤ deadline)
    (granted : ∃ scope ∈ splitScopes payload.scope, scope ∈ operation.required) :
    (service.handle (service.handle stores seen.arrival seen.request).stores written.arrival
        written.request).response.status = 200 ∧
      IsWrittenBack service.tenant written.arrival.recordedAt stores operation
        (service.handle stores seen.arrival seen.request).response.content
        (service.handle (service.handle stores seen.arrival seen.request).stores written.arrival
          written.request).stores := by
  have unchanged : (service.handle stores seen.arrival seen.request).stores = stores :=
    stores_of_reading reads
  rw [unchanged]
  obtain ⟨call, after, shown, asks, ran, status, back⟩ :=
    asks_of_shown reachable reads same success acceptance.meant updates declared short body
  rw [handle_of_asks acceptance granted short.declared asks timely, status_complete, ran]
  exact ⟨status, back⟩

section Project

/-- An author's request to create a project, whose name has white space at its ends. -/
def founding : Visit := creationOf 1 "" "\x7b\"name\":\" ü \",\"labels\":[\"\\n\"]\x7d"

/-- The stores with that project. -/
def founded : Stores where
  projects := [⟨numbered 1, Uuid.zero, (), ⟨"ü", "", ["\n"]⟩, ⟨0, 0⟩, ⟨0, 0⟩⟩]

/-- The stores with the project are what the request leaves. -/
theorem founded_reachable : trusting.Reachable founded := by
  refine ⟨[founding], ?_⟩
  rw [storesAfter, List.foldl_cons, List.foldl_nil,
    handle_author .createProject rfl (by decide +kernel)
      (by simp only [founding, creationOf, presents_author]) (by decide +kernel)]
  decide +kernel

/-- A request about the project, a second later, with a token. -/
def aboutProject (method token : String) (further : List Header) (body : Bytes) : Visit where
  arrival := { epoch with recordedAt := ⟨1, 0⟩ }
  request := {
    method := method
    path := "/api/v1/projects/00000000-0000-0000-0000-000000000001"
    query := ""
    headers := .ofText "authorization" ("Bearer " ++ token) ::
      .ofText "content-type" "application/json" :: further
    body := body }

/-- The author's request to read the project. -/
def projectSeen : Visit := aboutProject "GET" authorToken [] []

/-- A request that writes back what a service shows. -/
def projectBack (service : Service) (token : String) (further : List Header) : Visit :=
  aboutProject "PUT" token further
    (service.handle founded projectSeen.arrival projectSeen.request).response.content.octets

/-- The operation that updates the project. -/
def projectUpdate : Operation := .updateProject "00000000-0000-0000-0000-000000000001"

/-- An author may update the project. -/
theorem granted_projectUpdate : ∃ scope ∈ splitScopes authorPayload.scope,
    scope ∈ projectUpdate.required :=
  ⟨"tracker/project.write", by decide +kernel, by decide⟩

/-- A request that writes the project back is for updating it. -/
theorem meant_projectBack (service : Service) (token : String) (further : List Header) :
    projectUpdate.MeantBy (projectBack service token further).request := by
  have meant : projectUpdate.MeantBy (aboutProject "PUT" "" [] []).request := by decide +kernel
  exact ⟨meant.method, meant.proper, meant.path⟩

/-- The body of a request that writes the project back is what the service shows. -/
theorem body_projectBack (service : Service) (token : String) (further : List Header) :
    (projectBack service token further).request.body =
      (service.handle founded projectSeen.arrival projectSeen.request).response.content.octets := by
  simp only [projectBack, aboutProject]

/-- A request that writes the project back declares no length if nothing more is in its headers. -/
theorem declaredLength?_projectBack (service : Service) (token : String) :
    declaredLength? (projectBack service token []).request = none := by
  simp [declaredLength?, headerText?, header?, projectBack, aboutProject, Header.ofText]

/-- The project is shown by a service, and writing it back takes a short body. -/
structure ShowsProject (service : Service) : Prop where
  success :
    (service.handle founded projectSeen.arrival projectSeen.request).response.status = 200
  fits : (service.handle founded projectSeen.arrival
    projectSeen.request).response.content.octets.length ≤ bodyLimit

/-- The project is shown to the author. -/
theorem showsProject_trusting : ShowsProject trusting := by
  have seen := handle_author (.getProject "00000000-0000-0000-0000-000000000001")
    (show projectSeen.arrival.judgedAt = epoch.judgedAt from rfl) (by decide +kernel)
    (presents_author _) (by decide +kernel) founded
  constructor <;> rw [seen] <;> decide +kernel

/-- The project is shown, and to write back what is shown changes nothing but the time of its last
change. -/
theorem project_written_back :
    (trusting.handle founded projectSeen.arrival projectSeen.request).response.status = 200 ∧
      (trusting.handle (trusting.handle founded projectSeen.arrival projectSeen.request).stores
        (projectBack trusting authorToken []).arrival
        (projectBack trusting authorToken []).request).response.status = 200 ∧
      IsWrittenBack trusting.tenant (projectBack trusting authorToken []).arrival.recordedAt founded
        projectUpdate
        (trusting.handle founded projectSeen.arrival projectSeen.request).response.content
        (trusting.handle (trusting.handle founded projectSeen.arrival projectSeen.request).stores
          (projectBack trusting authorToken []).arrival
          (projectBack trusting authorToken []).request).stores := by
  have short : KeepsLimits (projectBack trusting authorToken []).request :=
    keepsLimits_of_undeclared (declaredLength?_projectBack _ _)
      (body_projectBack _ _ _ ▸ showsProject_trusting.fits)
  obtain ⟨acceptance, timely⟩ := @acceptance_author (projectBack trusting authorToken [])
    projectUpdate rfl (meant_projectBack _ _ _) (presents_author _)
  exact ⟨showsProject_trusting.success,
    writing_back_harmless trusting founded founded_reachable projectSeen
      (projectBack trusting authorToken []) rfl rfl showsProject_trusting.success
      (body_projectBack _ _ _)
      (by decide +kernel) short projectUpdate rfl authorToken authorPayload acceptance timely
      granted_projectUpdate⟩

/-- The header with which a body is said to have two million octets. -/
def overlong : Header := .ofText "content-length" "2000000"

/-- The project is there for the service whose provider takes its time about the other token, and it
shows the project to who presents the first one. -/
theorem founded_reachable_patient : patient.Reachable founded ∧ ShowsProject patient := by
  obtain ⟨⟨accepted, timely⟩, -⟩ := patient_accepts
  constructor
  · obtain ⟨acceptance, waits⟩ := @acceptance_of_epoch patient founding .createProject _ _ accepted
      rfl (by decide +kernel) (presents_author _) (by decide)
    refine ⟨[founding], ?_⟩
    rw [storesAfter, List.foldl_cons, List.foldl_nil,
      handle_of_acceptance acceptance (by decide +kernel) (by rw [waits]; exact timely)]
    decide +kernel
  · obtain ⟨acceptance, waits⟩ := @acceptance_of_epoch patient projectSeen
      (.getProject "00000000-0000-0000-0000-000000000001") _ _ accepted rfl (by decide +kernel)
      (presents_author _) (by decide)
    have seen := handle_of_acceptance acceptance (by decide +kernel) (by rw [waits]; exact timely)
      founded
    constructor <;> rw [seen] <;> decide +kernel

/-- To write back what is shown can fail all the same. A request is refused that declares too long a
body, though it has a short one; and one is given up about which the provider takes too long. -/
theorem writing_back_prevented :
    (trusting.Reachable founded ∧ ShowsProject trusting ∧
      Authorised trusting (projectBack trusting authorToken [overlong]).arrival
        (projectBack trusting authorToken [overlong]).request ∧
      MediaType.declaresJson (projectBack trusting authorToken [overlong]).request.headers = true ∧
      (trusting.handle (trusting.handle founded projectSeen.arrival projectSeen.request).stores
        (projectBack trusting authorToken [overlong]).arrival
        (projectBack trusting authorToken [overlong]).request).response.status = 413) ∧
    patient.Reachable founded ∧ ShowsProject patient ∧
      Authorised patient (projectBack patient slowToken []).arrival
        (projectBack patient slowToken []).request ∧
      MediaType.declaresJson (projectBack patient slowToken []).request.headers = true ∧
      KeepsLimits (projectBack patient slowToken []).request ∧
      (patient.handle (patient.handle founded projectSeen.arrival projectSeen.request).stores
        (projectBack patient slowToken []).arrival
        (projectBack patient slowToken []).request).response.status = 408 := by
  constructor
  · obtain ⟨acceptance, -⟩ := @acceptance_author (projectBack trusting authorToken [overlong])
      projectUpdate rfl (meant_projectBack _ _ _) (presents_author _)
    have long : DeclaresTooMuch (projectBack trusting authorToken [overlong]).request := by
      refine ⟨2000000, ?_, by decide⟩
      simp only [declaredLength?, projectBack, aboutProject]
      decide +kernel
    have refused := congrArg Received.reception (@receive_of_declaresTooMuch trusting
      (projectBack trusting authorToken [overlong]).arrival _ long)
    refine ⟨founded_reachable, showsProject_trusting,
      authorised_of_acceptance acceptance granted_projectUpdate, by decide +kernel, ?_⟩
    rw [handle_of_settled refused, status_complete]
    rfl
  · obtain ⟨reachable, shows⟩ := founded_reachable_patient
    have presented : headerText? (projectBack patient slowToken []).request.headers
        "authorization" = some ("Bearer " ++ slowToken) :=
      headerText?_first (by decide +kernel) _
    obtain ⟨acceptance, waits⟩ := @acceptance_of_epoch patient (projectBack patient slowToken [])
      projectUpdate _ _ patient_accepts.2.1 rfl (meant_projectBack _ _ _) presented (by decide)
    have short : KeepsLimits (projectBack patient slowToken []).request :=
      keepsLimits_of_undeclared (declaredLength?_projectBack _ _)
        (body_projectBack _ _ _ ▸ shows.fits)
    exact ⟨reachable, shows, authorised_of_acceptance acceptance granted_projectUpdate,
      by decide +kernel, short,
      (handle_of_late acceptance short.declared (by rw [waits]; exact patient_accepts.2.2) _).2⟩

end Project

end Service

end IssueTracker

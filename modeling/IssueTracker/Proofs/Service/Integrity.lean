import IssueTracker.Proofs.Api.Submission
import IssueTracker.Proofs.Service.Visits
import Mathlib.Data.List.Induction

/-!
# The data model under requests

Whatever requests come in, well-formed or not and from whomever, the stores are always as they have
to be: everything in them belongs to the tenant and to parents that are there, and nothing is blank
that must not be. Errands are the only way into the stores, and each of them keeps this.
-/

namespace IssueTracker

open Api Auth Http Store

namespace Service

variable {service : Service} {stores : Stores} {visit : Visit} {ids : List Uuid}

/-- The identifier that a request brings along for a new row, if it is to have one created. -/
def drawn? (service : Service) (visit : Visit) : Option Uuid :=
  (service.errand? visit).bind (·.call.drawn?)

/-- A request keeps the data model. -/
theorem dataModel_handle (model : DataModel service.tenant stores) (visit : Visit) :
    DataModel service.tenant (service.handle stores visit.arrival visit.request).stores := by
  rw [stores_handle]
  cases asked : service.errand? visit with
  | none => exact model
  | some errand =>
    obtain ⟨operation, _, _, -, passed⟩ := acceptance_of_errand (errand?_eq_some_iff.mp asked)
    obtain ⟨whole, obeys⟩ := Occasion.obeys_of_errand passed
    exact model.run whole obeys

/-- A request that draws no identifier twice keeps the rows of each store apart. -/
theorem drawnFrom_handle (drawn : stores.DrawnFrom ids)
    (fresh : ∀ id, service.drawn? visit = some id → id ∉ ids) :
    (service.handle stores visit.arrival visit.request).stores.DrawnFrom
      (ids ++ (service.drawn? visit).toList) := by
  rw [stores_handle]
  unfold drawn? at fresh ⊢
  cases asked : service.errand? visit with
  | none => simpa using drawn
  | some errand =>
    rw [asked] at fresh
    exact drawn.run fresh

/-- Requests keep the data model. -/
theorem dataModel_storesAfter (model : DataModel service.tenant stores) (visits : List Visit) :
    DataModel service.tenant (service.storesAfter stores visits) := by
  induction visits using List.reverseRecOn with
  | nil => exact model
  | append_singleton visits visit inductionHypothesis =>
    rw [storesAfter_concat]
    exact dataModel_handle inductionHypothesis visit

/-- Requests that draw no identifier twice leave rows with different identifiers, all of them drawn.
-/
theorem drawnFrom_storesAfter {visits : List Visit}
    (fresh : (visits.filterMap service.drawn?).Nodup) :
    (service.storesAfter Stores.empty visits).DrawnFrom (visits.filterMap service.drawn?) := by
  induction visits using List.reverseRecOn with
  | nil => exact Stores.drawnFrom_empty
  | append_singleton visits visit inductionHypothesis =>
    rw [List.filterMap_concat] at fresh ⊢
    obtain ⟨before, -, apart⟩ := List.nodup_append.mp fresh
    rw [storesAfter_concat]
    refine drawnFrom_handle (inductionHypothesis before) fun id drawn earlier => ?_
    exact apart id earlier id (by simp [drawn]) rfl

/-- Whatever requests a service handles from empty stores on, its stores are as they have to be; and
no two rows of a store have the same identifier, if no identifier is drawn twice. -/
theorem data_model_invariant (service : Service) (visits : List Visit) :
    DataModel service.tenant (service.storesAfter Stores.empty visits) ∧
      ((visits.filterMap service.drawn?).Nodup →
        (service.storesAfter Stores.empty visits).HaveDistinctIds) :=
  ⟨dataModel_storesAfter (dataModel_empty service.tenant) visits,
    fun fresh => (drawnFrom_storesAfter fresh).haveDistinctIds⟩

section Thread

/-- A token that is good for the first second of 1970, and grants writing projects and issues. -/
def authorToken : String :=
  "eyJhbGciOiJSUzI1NiJ9"
    ++ ".eyJpc3MiOiJpc3N1ZXIiLCJleHAiOjEsInNjb3BlIjoi"
    ++ "dHJhY2tlci9wcm9qZWN0LndyaXRlIHRyYWNrZXIvaXNzdWUud3JpdGUifQ"
    ++ ".c2ln"

/-- The payload of that token. -/
def authorPayload : TokenPayload :=
  { readerPayload with scope := "tracker/project.write tracker/issue.write" }

/-- The author's token is accepted at once. -/
theorem authorToken_accepted :
    (trusting.access.validator.validateAt trusting.access.provider epoch.judgedAt
        authorToken).result = .ok authorPayload ∧
      trusting.waited epoch authorToken ≤ deadline := by
  decide +kernel

/-- A readable value of the first header is what its name stands for. -/
theorem headerText?_first {name value : String}
    (readable : headerText? [.ofText name value] name = some value) (others : List Header) :
    headerText? (.ofText name value :: others) name = some value := by
  simpa [headerText?, header?, Header.ofText] using readable

/-- The author's token is presented if it is in the first header of a request. -/
theorem presents_author (others : List Header) :
    headerText? (.ofText "authorization" ("Bearer " ++ authorToken) :: others) "authorization" =
      some ("Bearer " ++ authorToken) :=
  headerText?_first (by decide +kernel) others

/-- What is asked for at the start of 1970 is accepted if the token is accepted then, and the
provider is waited for as long. -/
theorem acceptance_of_epoch {service : Service} {visit : Visit} {operation : Operation}
    {token : String} {payload : TokenPayload}
    (accepted : (service.access.validator.validateAt service.access.provider epoch.judgedAt
      token).result = .ok payload)
    (judged : visit.arrival.judgedAt = epoch.judgedAt) (meant : operation.MeantBy visit.request)
    (presented : headerText? visit.request.headers "authorization" =
      some (service.access.scheme ++ " " ++ token)) (nonempty : token ≠ "") :
    Acceptance service visit.arrival visit.request operation token payload ∧
      service.waited visit.arrival token = service.waited epoch token := by
  refine ⟨⟨meant, presented, nonempty, ?_⟩, ?_⟩
  · rw [judged]
    exact accepted
  · rw [waited, waited, judged]

/-- What is asked for with the author's token at the start of 1970 is accepted in time. -/
theorem acceptance_author {visit : Visit} {operation : Operation}
    (judged : visit.arrival.judgedAt = epoch.judgedAt) (meant : operation.MeantBy visit.request)
    (presented : headerText? visit.request.headers "authorization" =
      some ("Bearer " ++ authorToken)) :
    Acceptance trusting visit.arrival visit.request operation authorToken authorPayload ∧
      trusting.waited visit.arrival authorToken ≤ deadline := by
  obtain ⟨acceptance, waits⟩ :=
    acceptance_of_epoch authorToken_accepted.1 judged meant presented (by decide)
  rw [waits]
  exact ⟨acceptance, authorToken_accepted.2⟩

/-- An author's request to create something, with a number for its identifier. -/
def creationOf (n : Nat) (path body : String) : Visit where
  arrival := { epoch with freshId := numbered n }
  request := {
    method := "POST"
    path := "/api/v1/projects" ++ path
    query := ""
    headers := [.ofText "authorization" ("Bearer " ++ authorToken),
      .ofText "content-type" "application/json"]
    body := Utf8.encode body }

/-- A project is created, an issue in it, and a comment on that. A blank comment is refused before.
-/
def thread : List Visit :=
  let issues := "/00000000-0000-0000-0000-000000000001/issues"
  let comments := issues ++ "/00000000-0000-0000-0000-000000000002/comments"
  [creationOf 1 "" "\x7b\"name\":\" p \"\x7d",
    creationOf 2 issues "\x7b\"subject\":\"s\",\"severity\":\"v\",\"category\":\"c\"\x7d",
    creationOf 3 comments "\x7b\"content\":\" \"\x7d",
    creationOf 4 comments "\x7b\"content\":\"c\"\x7d"]

/-- The project has its name trimmed, the comment is on the issue in the project, and the stores are
as they have to be. -/
theorem thread_integral :
    ((thread.filterMap trusting.drawn?).Nodup ∧
      (trusting.storesAfter Stores.empty thread).projects.map (·.fields.name) = ["p"] ∧
        (trusting.storesAfter Stores.empty thread).comments.map (·.scope) =
          [⟨Uuid.zero, numbered 1, numbered 2⟩]) ∧
      DataModel trusting.tenant (trusting.storesAfter Stores.empty thread) ∧
        (trusting.storesAfter Stores.empty thread).HaveDistinctIds := by
  obtain ⟨model, distinct⟩ := data_model_invariant trusting thread
  have checked : (thread.filterMap trusting.drawn?).Nodup ∧
      (trusting.storesAfter Stores.empty thread).projects.map (·.fields.name) = ["p"] ∧
        (trusting.storesAfter Stores.empty thread).comments.map (·.scope) =
          [⟨Uuid.zero, numbered 1, numbered 2⟩] := by
    decide +kernel
  exact ⟨checked, model, distinct checked.1⟩

end Thread

end Service

end IssueTracker

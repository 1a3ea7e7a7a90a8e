import IssueTracker.Api.Error
import IssueTracker.Store.Errand

/-!
# How records are shown

The JSON form of each kind of record, of pages of them, and the responses that carry them. A
record that was created is answered with 201, everything else with 200.
-/

namespace IssueTracker.Api.Presentation

open Store Http

/-- The identifier and the parents of a record. -/
def named (name : String) (id : Uuid) : String × Json := (name, Json.ofText id.toText)

/-- The points in time of a record. -/
def times {σ ο φ : Type} (row : Row σ ο φ) : List (String × Json) :=
  [("created_at", Json.ofText row.createdAt.toShortText),
   ("updated_at", Json.ofText row.updatedAt.toShortText)]

/-- The fields of a customer or a project. -/
def profile (fields : Profile) : List (String × Json) :=
  [("name", Json.ofText fields.name), ("description", Json.ofText fields.description),
   ("labels", Json.ofTexts fields.labels)]

/-- A customer. -/
def customer (row : CustomerRow) : Json :=
  Json.ofMembers (named "id" row.id :: profile row.fields ++ times row)

/-- A project. -/
def project (row : ProjectRow) : Json :=
  Json.ofMembers (named "id" row.id :: named "customer_id" row.scope
    :: profile row.fields ++ times row)

/-- An issue. -/
def issue (row : IssueRow) : Json :=
  Json.ofMembers ([named "id" row.id, named "project_id" row.scope.project,
    ("reporter", Json.ofText row.origin.reporter), ("subject", Json.ofText row.fields.subject),
    ("state", Json.ofText row.origin.state), ("severity", Json.ofText row.fields.severity),
    ("category", Json.ofText row.fields.category), ("labels", Json.ofTexts row.fields.labels),
    ("content", Json.ofText row.fields.content)] ++ times row)

/-- A comment. -/
def comment (row : CommentRow) : Json :=
  Json.ofMembers ([named "id" row.id, named "issue_id" row.scope.issue,
    ("author", Json.ofText row.origin), ("content", Json.ofText row.fields)] ++ times row)

/-- The response to a call that was not refused. -/
def reply {ρ : Type} (plural : String) (show1 : ρ → Json) : Reply ρ → Response
  | .page rows => .json 200 (Json.ofMembers [(plural, Json.ofList (rows.map show1))])
  | .found row | .updated row => .json 200 (show1 row)
  | .created row => .json 201 (show1 row)

/-- The response to what the stores show. -/
def shown : Shown → Response
  | .customers answer => reply "customers" customer answer
  | .projects answer => reply "projects" project answer
  | .issues answer => reply "issues" issue answer
  | .comments answer => reply "comments" comment answer

/-- The response to the result of an errand. -/
def result : Except StoreError Shown → Response
  | .ok what => shown what
  | .error refusal => (ApiError.ofStore refusal).toResponse

end IssueTracker.Api.Presentation

import IssueTracker.Proofs.Except
import IssueTracker.Proofs.Store.Resolution
import IssueTracker.Proofs.Store.Sequence
import IssueTracker.Text.Blank

/-!
# The data model

What holds of the rows of all four stores together, where all projects are those of one customer,
the tenant: everything belongs to something that is there, and nothing that must not be blank is. A
call keeps this if it is made for the tenant and under parents that are there, and supplies only
what obeys the rules. That the parents stay there is no condition on other calls, as none takes a
row away.

No two rows of a store have the same identifier as long as none is drawn twice.
-/

namespace IssueTracker.Store

/-- Whether a customer or a project has a name, with no white space at its ends. -/
structure Profile.IsNamed (profile : Profile) : Prop where
  nonempty : profile.name ≠ ""
  trimmed : Blank.trim profile.name = profile.name

/-- Whether the fields of an issue that must not be blank are not. -/
structure IssueFields.IsFilled (fields : IssueFields) : Prop where
  subject : Blank.trim fields.subject ≠ ""
  severity : Blank.trim fields.severity ≠ ""
  category : Blank.trim fields.category ≠ ""

/-- Whether the project is there that an issue of a scope belongs to. -/
def Stores.HaveProjectOf (stores : Stores) (scope : IssueScope) : Prop :=
  stores.projects.HasRow scope.customer scope.project

/-- Whether the issue is there, in its project, that a comment of a scope belongs to. -/
def Stores.HaveIssueOf (stores : Stores) (scope : CommentScope) : Prop :=
  stores.issues.HasRow ⟨scope.customer, scope.project⟩ scope.issue

/-- Whether stores are as they have to be, given the customer whose projects they are to hold. -/
structure DataModel (tenant : Uuid) (stores : Stores) : Prop where
  customer_named : ∀ row ∈ stores.customers, row.fields.IsNamed
  project_tenant : ∀ row ∈ stores.projects, row.scope = tenant
  project_named : ∀ row ∈ stores.projects, row.fields.IsNamed
  issue_tenant : ∀ row ∈ stores.issues, row.scope.customer = tenant
  issue_project : ∀ row ∈ stores.issues, stores.HaveProjectOf row.scope
  issue_state : ∀ row ∈ stores.issues, row.origin.state = "created"
  issue_filled : ∀ row ∈ stores.issues, row.fields.IsFilled
  comment_issue : ∀ row ∈ stores.comments, stores.HaveIssueOf row.scope
  comment_filled : ∀ row ∈ stores.comments, Blank.trim row.fields ≠ ""

/-- Whether no two rows of one store have the same identifier. -/
structure Stores.HaveDistinctIds (stores : Stores) : Prop where
  customers : (stores.customers.map (·.id)).Nodup
  projects : (stores.projects.map (·.id)).Nodup
  issues : (stores.issues.map (·.id)).Nodup
  comments : (stores.comments.map (·.id)).Nodup

/-- Whether no two rows of one store have the same identifier, and all were drawn. -/
structure Stores.DrawnFrom (stores : Stores) (drawn : List Uuid) : Prop where
  customers : stores.customers.DrawnFrom drawn
  projects : stores.projects.DrawnFrom drawn
  issues : stores.issues.DrawnFrom drawn
  comments : stores.comments.DrawnFrom drawn

/-- Whether what a call supplies for a row, and what is decided about it, is as it has to be. -/
def Call.Supplies {ο φ : Type} (decided : ο → Prop) (supplied : φ → Prop) : Call ο φ → Prop
  | .create origin fields _ _ => decided origin ∧ supplied fields
  | .update _ fields _ => supplied fields
  | _ => True

/-- Whether a call is made for a tenant and supplies only what obeys the rules. -/
def StoreCall.Obeys (tenant : Uuid) : StoreCall → Prop
  | .customers call => call.Supplies (fun _ => True) Profile.IsNamed
  | .projects customer call =>
    customer = tenant ∧ call.Supplies (fun _ => True) Profile.IsNamed
  | .issues scope call =>
    scope.customer = tenant ∧ call.Supplies (·.state = "created") IssueFields.IsFilled
  | .comments scope call =>
    scope.customer = tenant ∧ call.Supplies (fun _ => True) (Blank.trim · ≠ "")

/-- Whether the parents are there under which a call is made. -/
def Stores.HaveParents (stores : Stores) : StoreCall → Prop
  | .customers _ | .projects _ _ => True
  | .issues scope _ => stores.HaveProjectOf scope
  | .comments scope _ => stores.HaveIssueOf scope

/-- Whether an errand looks up the parents of its call itself. -/
def Errand.IsWhole : Errand → Prop
  | .last (.issues _ _) | .last (.comments _ _) => False
  | _ => True

/-- The errand about a call does. -/
theorem StoreCall.isWhole_errand (call : StoreCall) : call.errand.IsWhole := by
  cases call <;> trivial

section Collection

variable {σ ο φ : Type} {rows : Collection σ ο φ} {kind : Kind φ} {scope other : σ} {id : Uuid}
  {call : Call ο φ} {decided : ο → Prop} {supplied : φ → Prop} {ids more : List Uuid}

namespace Collection

/-- Identifiers that were drawn are among more that were. -/
theorem DrawnFrom.mono (drawn : rows.DrawnFrom ids) (subset : ids ⊆ more) : rows.DrawnFrom more :=
  ⟨drawn.distinct, fun row member => subset (drawn.among row member)⟩

variable [DecidableEq σ]

/-- A row that is there is there after a call. -/
theorem HasRow.answer (there : rows.HasRow other id) (call : Call ο φ) :
    HasRow (rows.answer kind scope call).1 other id := by
  have persists : rows.Persists (rows.answer kind scope call).1 := persists_answer call
  obtain ⟨row, found⟩ := Option.isSome_iff_exists.mp (get?_isSome_iff.mpr there)
  obtain ⟨kept, again, -, -⟩ := persists other id row found
  exact get?_isSome_iff.mp (by rw [again, Option.isSome_some])

/-- After a call in a scope all rows are of scopes as before, if that is one of them. -/
theorem scope_answer (belongs : σ → Prop) (all : ∀ row ∈ rows, belongs row.scope)
    (own : belongs scope) :
    ∀ row ∈ (rows.answer kind scope call).1, belongs row.scope := by
  intro row member
  rcases mem_answer member with before | ⟨origin, fields, id, now, -, rfl⟩ |
    ⟨old, before, -, fields, now, -, rfl⟩
  · exact all row before
  · exact own
  · exact all old before

/-- After a call what was decided about each row is as it has to be. -/
theorem origin_answer (all : ∀ row ∈ rows, decided row.origin)
    (supplies : call.Supplies decided supplied) :
    ∀ row ∈ (rows.answer kind scope call).1, decided row.origin := by
  intro row member
  rcases mem_answer member with before | ⟨origin, fields, id, now, rfl, rfl⟩ |
    ⟨old, before, -, fields, now, -, rfl⟩
  · exact all row before
  · exact supplies.1
  · exact all old before

/-- After a call what was supplied for each row is as it has to be. -/
theorem fields_answer (all : ∀ row ∈ rows, supplied row.fields)
    (supplies : call.Supplies decided supplied) :
    ∀ row ∈ (rows.answer kind scope call).1, supplied row.fields := by
  intro row member
  rcases mem_answer member with before | ⟨origin, fields, id, now, rfl, rfl⟩ |
    ⟨old, before, -, fields, now, rfl, rfl⟩
  · exact all row before
  · exact supplies.2
  · exact supplies

end Collection

end Collection

section Stores

variable {tenant : Uuid} {stores : Stores} {call : StoreCall} {errand : Errand} {ids : List Uuid}

open Collection

/-- A call for the tenant and under parents that are there, which supplies only what obeys the
rules, keeps the data model. -/
theorem DataModel.answer (model : DataModel tenant stores) (obeys : call.Obeys tenant)
    (rooted : stores.HaveParents call) :
    DataModel tenant (stores.answer call).1 := by
  cases call with
  | customers call =>
    exact { model with customer_named := fields_answer model.customer_named obeys }
  | projects customer call =>
    obtain ⟨own, supplies⟩ := obeys
    exact { model with
      project_tenant := scope_answer (· = tenant) model.project_tenant own
      project_named := fields_answer model.project_named supplies
      issue_project := fun row member => (model.issue_project row member).answer call }
  | issues scope call =>
    obtain ⟨own, supplies⟩ := obeys
    exact { model with
      issue_tenant := scope_answer (IssueScope.customer · = tenant) model.issue_tenant own
      issue_project := scope_answer stores.HaveProjectOf model.issue_project rooted
      issue_state := origin_answer model.issue_state supplies
      issue_filled := fields_answer model.issue_filled supplies
      comment_issue := fun row member => (model.comment_issue row member).answer call }
  | comments scope call =>
    obtain ⟨-, supplies⟩ := obeys
    exact { model with
      comment_issue := scope_answer stores.HaveIssueOf model.comment_issue rooted
      comment_filled := fields_answer model.comment_filled supplies }

/-- The parents that an errand looked up itself are there. -/
theorem Errand.IsWhole.haveParents (whole : errand.IsWhole)
    (found : stores.lookUp errand = .ok ()) :
    stores.HaveParents errand.call := by
  cases errand with
  | last call =>
    cases call with
    | customers _ | projects _ _ => trivial
    | issues _ _ | comments _ _ => exact whole.elim
  | issuesOf customer project call => exact require_eq_ok_iff.mp found
  | commentsOf customer project issue call =>
    obtain ⟨_, -, there⟩ := Except.bind_eq_ok.mp found
    exact require_eq_ok_iff.mp there
  | commentsUnder scope issue call => exact require_eq_ok_iff.mp found

/-- An errand for the tenant that looks up the parents of its call itself, and supplies only what
obeys the rules, keeps the data model. -/
theorem DataModel.run (model : DataModel tenant stores) (whole : errand.IsWhole)
    (obeys : errand.call.Obeys tenant) :
    DataModel tenant (stores.run errand).1 :=
  Stores.run_induction model fun found => model.answer obeys (whole.haveParents found)

/-- Empty stores hold nothing that might not be as it has to be. -/
theorem dataModel_empty (tenant : Uuid) : DataModel tenant Stores.empty := by
  constructor <;> exact fun row member => nomatch member

namespace Stores

/-- Without rows there are no identifiers. -/
theorem drawnFrom_empty : Stores.empty.DrawnFrom [] :=
  ⟨drawnFrom_nil, drawnFrom_nil, drawnFrom_nil, drawnFrom_nil⟩

/-- Identifiers that were drawn are among more that were. -/
theorem DrawnFrom.mono {more : List Uuid} (drawn : stores.DrawnFrom ids) (subset : ids ⊆ more) :
    stores.DrawnFrom more :=
  ⟨drawn.customers.mono subset, drawn.projects.mono subset, drawn.issues.mono subset,
    drawn.comments.mono subset⟩

/-- Rows whose identifiers were drawn, none of them twice, have different ones. -/
theorem DrawnFrom.haveDistinctIds (drawn : stores.DrawnFrom ids) : stores.HaveDistinctIds :=
  ⟨drawn.customers.distinct, drawn.projects.distinct, drawn.issues.distinct,
    drawn.comments.distinct⟩

/-- A call that draws no identifier twice keeps the rows of each store apart. -/
theorem DrawnFrom.answer (drawn : stores.DrawnFrom ids)
    (fresh : ∀ id, call.drawn? = some id → id ∉ ids) :
    (stores.answer call).1.DrawnFrom (ids ++ call.drawn?.toList) := by
  have others := drawn.mono (List.subset_append_left ids call.drawn?.toList)
  cases call with
  | customers call => exact { others with customers := drawn.customers.answer fresh }
  | projects customer call => exact { others with projects := drawn.projects.answer fresh }
  | issues scope call => exact { others with issues := drawn.issues.answer fresh }
  | comments scope call => exact { others with comments := drawn.comments.answer fresh }

/-- An errand that draws no identifier twice keeps the rows of each store apart. -/
theorem DrawnFrom.run (drawn : stores.DrawnFrom ids)
    (fresh : ∀ id, errand.call.drawn? = some id → id ∉ ids) :
    (stores.run errand).1.DrawnFrom (ids ++ errand.call.drawn?.toList) := by
  have before := drawn.mono (List.subset_append_left ids errand.call.drawn?.toList)
  exact run_induction (P := (DrawnFrom · _)) before fun _ => drawn.answer fresh

end Stores

end Stores

end IssueTracker.Store

import IssueTracker.Proofs.Store.Effect
import IssueTracker.Proofs.Store.Persistence

/-!
# What an errand comes to

Whatever an errand looks up on its way, it is about one call, whose scope is made of the identifiers
that the errand names. If the parents are there, to run the errand is to make that call; if one is
missing, it is refused for want of the first that is, and nothing is done.
-/

namespace IssueTracker.Store

/-- The call that an errand is about. -/
def Errand.call : Errand → StoreCall
  | .last call => call
  | .issuesOf customer project call => .issues ⟨customer, project⟩ call
  | .commentsOf customer project issue call => .comments ⟨customer, project, issue⟩ call
  | .commentsUnder scope issue call => .comments ⟨scope.customer, scope.project, issue⟩ call

/-- The errand about a call that looks up all its parents. -/
def StoreCall.errand : StoreCall → Errand
  | .customers call => .last (.customers call)
  | .projects customer call => .last (.projects customer call)
  | .issues scope call => .issuesOf scope.customer scope.project call
  | .comments scope call => .commentsOf scope.customer scope.project scope.issue call

@[simp] theorem StoreCall.call_errand (call : StoreCall) : call.errand.call = call := by
  cases call <;> rfl

section Collection

variable {σ ο φ : Type} [DecidableEq σ] {rows : Collection σ ο φ} {kind : Kind φ} {scope : σ}
  {id : Uuid} {row : Row σ ο φ} {refusal : StoreError}

namespace Collection

/-- Look up a row only for whether it is there. -/
def require (rows : Collection σ ο φ) (kind : Kind φ) (scope : σ) (id : Uuid) :
    Except StoreError Unit :=
  (rows.get kind scope id).map fun _ => ()

/-- A row that is looked up is there, with the scope and the identifier that it is looked up by. -/
theorem of_get_eq_ok (found : rows.get kind scope id = .ok row) :
    rows.require kind scope id = .ok () ∧ row.scope = scope ∧ row.id = id := by
  obtain ⟨itsId, itsScope⟩ := get?_eq_some (get_eq_ok_iff.mp found)
  exact ⟨by rw [require, found, Except.map], itsScope, itsId⟩

/-- A row that is not there is missed by whoever looks it up. -/
theorem of_get_eq_error (missing : rows.get kind scope id = .error refusal) :
    rows.require kind scope id = .error refusal := by
  rw [require, missing, Except.map]

/-- A row is there, or is missed. -/
theorem require_cases (rows : Collection σ ο φ) (kind : Kind φ) (scope : σ) (id : Uuid) :
    (rows.HasRow scope id ∧ rows.require kind scope id = .ok ()) ∨
      (¬ rows.HasRow scope id ∧
        rows.require kind scope id = .error (.notFound kind.resource)) := by
  rw [← get?_isSome_iff]
  cases reached : rows.get? scope id <;> simp [require, get, reached, Except.map]

/-- A row is there if it is not missed. -/
theorem require_eq_ok_iff : rows.require kind scope id = .ok () ↔ rows.HasRow scope id := by
  rcases require_cases rows kind scope id with ⟨there, found⟩ | ⟨absent, missing⟩
  · simp [there, found]
  · simp [absent, missing]

end Collection

end Collection

namespace Stores

/-- Look up the parents of the call that an errand is about, as far as the errand does. -/
def lookUp (stores : Stores) : Errand → Except StoreError Unit
  | .last _ => .ok ()
  | .issuesOf customer project _ => stores.projects.require projectKind customer project
  | .commentsOf customer project issue _ => do
    stores.projects.require projectKind customer project
    stores.issues.require issueKind ⟨customer, project⟩ issue
  | .commentsUnder scope issue _ => stores.issues.require issueKind scope issue

/-- To run an errand about the comments of an issue is to look that up and to make the call. -/
theorem run_commentsUnder (stores : Stores) (scope : IssueScope) (issue : Uuid)
    (call : Call String String) :
    stores.run (.commentsUnder scope issue call) =
      match stores.lookUp (.commentsUnder scope issue call) with
      | .ok () => stores.answer (.comments ⟨scope.customer, scope.project, issue⟩ call)
      | .error refusal => (stores, .error refusal) := by
  cases found : stores.issues.get issueKind scope issue with
  | error refusal =>
    rw [lookUp, Collection.of_get_eq_error found]
    exact run_of_finished (by simp only [step, found])
  | ok row =>
    obtain ⟨there, rfl, rfl⟩ := Collection.of_get_eq_ok found
    rw [lookUp, there, run_of_pending (by simp only [step, found]; rfl)]
    exact run_of_finished rfl

/-- To run an errand is to make its call, unless a parent is missing. -/
theorem run_eq (stores : Stores) (errand : Errand) :
    stores.run errand =
      match stores.lookUp errand with
      | .ok () => stores.answer errand.call
      | .error refusal => (stores, .error refusal) := by
  cases errand with
  | last call => exact run_of_finished rfl
  | issuesOf customer project call =>
    cases found : stores.projects.get projectKind customer project with
    | error refusal =>
      rw [lookUp, Collection.of_get_eq_error found]
      exact run_of_finished (by simp only [step, found])
    | ok row =>
      obtain ⟨there, rfl, rfl⟩ := Collection.of_get_eq_ok found
      rw [lookUp, there, run_of_pending (by simp only [step, found]; rfl)]
      exact run_of_finished rfl
  | commentsOf customer project issue call =>
    cases found : stores.projects.get projectKind customer project with
    | error refusal =>
      rw [lookUp, Collection.of_get_eq_error found]
      exact run_of_finished (by simp only [step, found])
    | ok row =>
      obtain ⟨there, rfl, rfl⟩ := Collection.of_get_eq_ok found
      rw [lookUp, there, run_of_pending (by simp only [step, found]; rfl)]
      exact stores.run_commentsUnder ⟨row.scope, row.id⟩ issue call
  | commentsUnder scope issue call => exact stores.run_commentsUnder scope issue call

/-- What holds of stores and is kept by the call of an errand, if its parents are there, is kept by
the errand. -/
theorem run_induction {P : Stores → Prop} {stores : Stores} {errand : Errand} (before : P stores)
    (kept : stores.lookUp errand = .ok () → P (stores.answer errand.call).1) :
    P (stores.run errand).1 := by
  rw [run_eq]
  cases found : stores.lookUp errand with
  | ok _ => exact kept found
  | error refusal => exact before

end Stores

end IssueTracker.Store

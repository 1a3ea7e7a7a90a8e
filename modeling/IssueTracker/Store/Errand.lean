import IssueTracker.Store.Call

/-!
# Errands

What a request has the stores do is an errand of one to three calls, each of them a step of its
own. Issues are reached through their project, and comments through their project and their issue:
the parent is looked up first, in a step of its own, and the scope of what follows is taken from
the row found. Between two steps other errands may take theirs.
-/

namespace IssueTracker.Store

/-- What remains to be done. -/
inductive Errand
  /-- The last call. -/
  | last (call : StoreCall)
  /-- A call on the issues of a project that is yet to be looked up. -/
  | issuesOf (customer project : Uuid) (call : Call IssueOrigin IssueFields)
  /-- A call on the comments of an issue whose project is yet to be looked up. -/
  | commentsOf (customer project issue : Uuid) (call : Call String String)
  /-- A call on the comments of an issue that is yet to be looked up. -/
  | commentsUnder (scope : IssueScope) (issue : Uuid) (call : Call String String)
deriving Repr, DecidableEq

/-- How an errand stands after a step. -/
inductive Progress
  | pending (rest : Errand)
  | finished (result : Except StoreError Shown)

/-- Take one step of an errand. -/
def Stores.step (stores : Stores) : Errand → Stores × Progress
  | .last call =>
    let (after, result) := stores.answer call
    (after, .finished result)
  | .issuesOf customer project call =>
    match stores.projects.get projectKind customer project with
    | .error refusal => (stores, .finished (.error refusal))
    | .ok row => (stores, .pending (.last (.issues ⟨row.scope, row.id⟩ call)))
  | .commentsOf customer project issue call =>
    match stores.projects.get projectKind customer project with
    | .error refusal => (stores, .finished (.error refusal))
    | .ok row => (stores, .pending (.commentsUnder ⟨row.scope, row.id⟩ issue call))
  | .commentsUnder scope issue call =>
    match stores.issues.get issueKind scope issue with
    | .error refusal => (stores, .finished (.error refusal))
    | .ok row =>
      (stores, .pending (.last (.comments ⟨row.scope.customer, row.scope.project, row.id⟩ call)))

/-- How many steps an errand takes at most. -/
def Errand.size : Errand → Nat
  | .last _ => 1
  | .issuesOf _ _ _ => 2
  | .commentsUnder _ _ _ => 2
  | .commentsOf _ _ _ _ => 3

/-- A step brings an errand closer to its end. -/
theorem Errand.size_of_pending {stores after : Stores} {errand rest : Errand}
    (stepped : stores.step errand = (after, .pending rest)) : rest.size < errand.size := by
  cases errand with
  | last call => simp [Stores.step] at stepped
  | issuesOf customer project call =>
    simp only [Stores.step] at stepped
    split at stepped <;> simp at stepped
    obtain ⟨_, rfl⟩ := stepped
    simp [Errand.size]
  | commentsOf customer project issue call =>
    simp only [Stores.step] at stepped
    split at stepped <;> simp at stepped
    obtain ⟨_, rfl⟩ := stepped
    simp [Errand.size]
  | commentsUnder scope issue call =>
    simp only [Stores.step] at stepped
    split at stepped <;> simp at stepped
    obtain ⟨_, rfl⟩ := stepped
    simp [Errand.size]

/-- Run an errand to its end, with no other errand in between. -/
def Stores.run (stores : Stores) (errand : Errand) : Stores × Except StoreError Shown :=
  match _ : stores.step errand with
  | (after, .finished result) => (after, result)
  | (after, .pending rest) => after.run rest
termination_by errand.size
decreasing_by exact Errand.size_of_pending (by assumption)

end IssueTracker.Store

import IssueTracker.Store.Records

/-!
# Calls on the stores

What can be asked of a collection, as data, and what it answers. Every call is one atomic step: it
sees whole stores and leaves whole stores. A call brings along the scope in which it is made, and
the identifier and the clock reading that it may need.
-/

namespace IssueTracker.Store

/-- What is asked of a collection in one of its scopes. -/
inductive Call (ο φ : Type)
  /-- A page of the rows. -/
  | list (listing : Listing)
  /-- The row with an identifier. -/
  | get (id : Uuid)
  /-- A new row, with a fresh identifier and a reading of the clock. -/
  | create (origin : ο) (fields : φ) (id : Uuid) (now : Instant)
  /-- Other fields for the row with an identifier, as of a reading of the clock. -/
  | update (id : Uuid) (fields : φ) (now : Instant)
deriving Repr, DecidableEq

/-- What a collection shows in answer to a call that it does not refuse. -/
inductive Reply (ρ : Type)
  | page (rows : List ρ)
  | found (row : ρ)
  | created (row : ρ)
  | updated (row : ρ)
deriving Repr, DecidableEq

/-- Make a call on a collection. -/
def Collection.answer {σ ο φ : Type} [DecidableEq σ] (rows : Collection σ ο φ) (kind : Kind φ)
    (scope : σ) :
    Call ο φ → Collection σ ο φ × Except StoreError (Reply (Row σ ο φ))
  | .list listing => (rows, .ok (.page (rows.list kind scope listing)))
  | .get id => (rows, (rows.get kind scope id).map .found)
  | .create origin fields id now =>
    let (after, result) := rows.create kind scope origin fields id now
    (after, result.map .created)
  | .update id fields now =>
    let (after, result) := rows.update kind scope id fields now
    (after, result.map .updated)

/-- A call on one of the stores. -/
inductive StoreCall
  | customers (call : Call Unit Profile)
  | projects (customer : Uuid) (call : Call Unit Profile)
  | issues (scope : IssueScope) (call : Call IssueOrigin IssueFields)
  | comments (scope : CommentScope) (call : Call String String)
deriving Repr, DecidableEq

/-- What the stores show. -/
inductive Shown
  | customers (reply : Reply CustomerRow)
  | projects (reply : Reply ProjectRow)
  | issues (reply : Reply IssueRow)
  | comments (reply : Reply CommentRow)
deriving Repr, DecidableEq

/-- Make a call on the stores. It touches one of them. -/
def Stores.answer (stores : Stores) : StoreCall → Stores × Except StoreError Shown
  | .customers call =>
    let (after, result) := stores.customers.answer customerKind () call
    ({ stores with customers := after }, result.map .customers)
  | .projects customer call =>
    let (after, result) := stores.projects.answer projectKind customer call
    ({ stores with projects := after }, result.map .projects)
  | .issues scope call =>
    let (after, result) := stores.issues.answer issueKind scope call
    ({ stores with issues := after }, result.map .issues)
  | .comments scope call =>
    let (after, result) := stores.comments.answer commentKind scope call
    ({ stores with comments := after }, result.map .comments)

end IssueTracker.Store

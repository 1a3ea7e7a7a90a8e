import IssueTracker.Store.Listing
import IssueTracker.Time.Instant
import IssueTracker.Uuid

/-!
# Collections of records

A collection keeps the rows of one kind of record in the order of their creation. Each row belongs
to a scope, and is reached only through it. What the service decides at creation never changes;
what the caller supplies is replaced as a whole by an update. A kind may require that names be
unique within a scope.

Identifiers and clock readings are supplied from outside. Each call is one step: it sees and
leaves a whole collection.
-/

namespace IssueTracker.Store

/-- A stored record, with scopes in `σ`, what the service decided in `ο` and what the caller
supplied in `φ`. -/
structure Row (σ ο φ : Type) where
  id : Uuid
  /-- What the record belongs to. -/
  scope : σ
  /-- What the service decided at creation. -/
  origin : ο
  /-- What the caller supplied last. -/
  fields : φ
  createdAt : Instant
  updatedAt : Instant
deriving Repr, DecidableEq

/-- The rules of a kind of record. -/
structure Kind (φ : Type) where
  /-- The name of the kind in messages. -/
  resource : String
  /-- The text that list requests look in. For kinds with unique names it is the name. -/
  label : φ → String
  /-- Whether names are unique within a scope. -/
  hasUniqueNames : Bool

/-- Why a call changes nothing and yields no row. -/
inductive StoreError
  | notFound (resource : String)
  | conflict (resource name : String)
deriving Repr, DecidableEq

/-- The wording of a refusal. -/
def StoreError.message : StoreError → String
  | .notFound resource => s!"{resource} not found"
  | .conflict resource name => s!"{resource} already exists: {name}"

/-- The rows of one kind, the oldest first. -/
abbrev Collection (σ ο φ : Type) := List (Row σ ο φ)

namespace Collection

variable {σ ο φ : Type} [DecidableEq σ]

/-- The rows of a scope. -/
def owned (rows : Collection σ ο φ) (scope : σ) : List (Row σ ο φ) :=
  rows.filter (·.scope = scope)

/-- A page of the rows of a scope. -/
def list (rows : Collection σ ο φ) (kind : Kind φ) (scope : σ) (listing : Listing) :
    List (Row σ ο φ) :=
  listing.page (fun row => kind.label row.fields) (rows.owned scope)

/-- The row of a scope with an identifier. -/
def get? (rows : Collection σ ο φ) (scope : σ) (id : Uuid) : Option (Row σ ο φ) :=
  rows.find? fun row => row.id = id && row.scope = scope

/-- The row of a scope with an identifier, or its absence as a refusal. -/
def get (rows : Collection σ ο φ) (kind : Kind φ) (scope : σ) (id : Uuid) :
    Except StoreError (Row σ ο φ) :=
  match rows.get? scope id with
  | some row => .ok row
  | none => .error (.notFound kind.resource)

/-- Whether a name is taken in a scope by a row that is not excepted. -/
def isTaken (rows : Collection σ ο φ) (kind : Kind φ) (scope : σ) (name : String)
    (excepted : Uuid → Bool) : Bool :=
  kind.hasUniqueNames
    && rows.any fun row => row.scope = scope && kind.label row.fields = name && !excepted row.id

/-- Append a row with a fresh identifier, unless its name is taken. -/
def create (rows : Collection σ ο φ) (kind : Kind φ) (scope : σ) (origin : ο) (fields : φ)
    (id : Uuid) (now : Instant) : Collection σ ο φ × Except StoreError (Row σ ο φ) :=
  let name := kind.label fields
  if rows.isTaken kind scope name (fun _ => false) then
    (rows, .error (.conflict kind.resource name))
  else
    let row := { id, scope, origin, fields, createdAt := now, updatedAt := now }
    (rows ++ [row], .ok row)

/-- A row with other fields, as of a point in time. -/
def revised (row : Row σ ο φ) (fields : φ) (now : Instant) : Row σ ο φ :=
  { row with fields, updatedAt := now }

/-- Put a row in place of the first one of a scope with an identifier. -/
def replace (rows : Collection σ ο φ) (scope : σ) (id : Uuid) (new : Row σ ο φ) :
    Collection σ ο φ :=
  match rows with
  | [] => []
  | row :: rest =>
    if row.id = id && row.scope = scope then new :: rest else row :: replace rest scope id new

/-- Replace the fields of a row, unless another row of its scope has the new name. A taken name is
reported even when there is no such row. -/
def update (rows : Collection σ ο φ) (kind : Kind φ) (scope : σ) (id : Uuid) (fields : φ)
    (now : Instant) : Collection σ ο φ × Except StoreError (Row σ ο φ) :=
  let name := kind.label fields
  if rows.isTaken kind scope name (· = id) then (rows, .error (.conflict kind.resource name))
  else
    match rows.get? scope id with
    | none => (rows, .error (.notFound kind.resource))
    | some row =>
      let new := revised row fields now
      (rows.replace scope id new, .ok new)

end Collection

end IssueTracker.Store

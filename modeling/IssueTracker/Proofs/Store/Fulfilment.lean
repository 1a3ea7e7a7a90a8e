import IssueTracker.Proofs.Store.DataModel
import IssueTracker.Proofs.Store.Naming

/-!
# When a call is fulfilled

A call on the stores asks for something, and names what it is about: its parents, and a row where it
is about one that is there. It is blocked if it gives a name that another row has. Whatever the
stores hold, a call that is blocked is refused as a conflict, one whose row or parents are not there
is refused for want of them, and any other is fulfilled; and a call that is refused changes nothing.

What it is to be fulfilled is said here of the rows, without the functions that find, append and
replace them. A row that is shown belongs to the scope of the call, and a row that is changed stands
where it stood, with all others as they were.

So a collection only ever grows: each of its rows was there before, in its place, or is the one that
was appended.
-/

namespace IssueTracker.Store

variable {σ ο φ : Type}

/-- The identifier of the row that a call is about, if it is about one that is there. -/
def Call.target? : Call ο φ → Option Uuid
  | .get id | .update id _ _ => some id
  | .list _ | .create _ _ _ _ => none

/-- Whether two rows are the same but for what callers supply. -/
structure Row.SameRecord (one other : Row σ ο φ) : Prop where
  id : one.id = other.id
  scope : one.scope = other.scope
  origin : one.origin = other.origin
  createdAt : one.createdAt = other.createdAt

namespace Collection

/-- Whether the row is there that a call is about. -/
def Reaches (rows : Collection σ ο φ) (scope : σ) (call : Call ο φ) : Prop :=
  ∀ id, call.target? = some id → rows.HasRow scope id

/-- Whether a row has the name that a call gives, in a kind whose names are unique. -/
def Blocks (rows : Collection σ ο φ) (kind : Kind φ) (scope : σ) : Call ο φ → Prop
  | .create _ fields _ _ =>
    kind.hasUniqueNames = true ∧ rows.HasName kind scope (kind.label fields)
  | .update id fields _ =>
    kind.hasUniqueNames = true ∧ rows.HasNameBesides kind scope id (kind.label fields)
  | .list _ | .get _ => False

/-- Whether a collection becomes another and shows something as a call asks for. -/
def Fulfils [DecidableEq σ] (rows : Collection σ ο φ) (kind : Kind φ) (scope : σ) :
    Call ο φ → Collection σ ο φ → Reply (Row σ ο φ) → Prop
  | .list listing, after, reply =>
    after = rows ∧ reply = .page ((((rows.filter fun row => row.scope = scope).filter fun row =>
      listing.isMatch (kind.label row.fields)).drop listing.offset).take listing.limit)
  | .get id, after, reply =>
    after = rows ∧ ∃ row ∈ rows, row.scope = scope ∧ row.id = id ∧ reply = .found row
  | .create origin fields id now, after, reply =>
    after = rows ++ [.made scope origin fields id now] ∧
      reply = .created (.made scope origin fields id now)
  | .update id fields now, after, reply =>
    ∃ front old back, rows = front ++ old :: back ∧ old.scope = scope ∧ old.id = id ∧
      after = front ++ { old with fields, updatedAt := now } :: back ∧
        reply = .updated { old with fields, updatedAt := now }

/-- Whether a collection is another one with the row more at the end that a call creates. -/
def Appends (rows : Collection σ ο φ) (scope : σ) : Call ο φ → Collection σ ο φ → Prop
  | .create origin fields id now, after => after = rows ++ [.made scope origin fields id now]
  | .list _, _ | .get _, _ | .update _ _ _, _ => False

/-- Whether a collection is another one in which the row that a call updates has the fields of the
call in place of its own, as of the time of the call. It is the same row otherwise, in the same
place, and all other rows are what they were. -/
def Revises (rows : Collection σ ο φ) (scope : σ) : Call ο φ → Collection σ ο φ → Prop
  | .update id fields now, after =>
    ∃ front old back, rows = front ++ old :: back ∧ old.scope = scope ∧ old.id = id ∧
      after = front ++ { old with fields, updatedAt := now } :: back
  | .list _, _ | .get _, _ | .create _ _ _ _, _ => False

variable [DecidableEq σ] {rows after : Collection σ ο φ} {kind : Kind φ} {scope : σ}
  {call : Call ο φ} {reply : Reply (Row σ ο φ)}

/-- A name is taken for a call exactly if the call is blocked. -/
theorem blocks_create_iff {origin : ο} {fields : φ} {id : Uuid} {now : Instant} :
    rows.Blocks kind scope (.create origin fields id now) ↔
      rows.isTaken kind scope (kind.label fields) (fun _ => false) = true := by
  cases unique : kind.hasUniqueNames with
  | true => simp [Blocks, unique, isTaken_iff_hasName unique]
  | false => simp [Blocks, unique, isTaken]

theorem blocks_update_iff {fields : φ} {id : Uuid} {now : Instant} :
    rows.Blocks kind scope (.update id fields now : Call ο φ) ↔
      rows.isTaken kind scope (kind.label fields) (· = id) = true := by
  cases unique : kind.hasUniqueNames with
  | true => simp [Blocks, unique, isTaken_iff_hasNameBesides unique]
  | false => simp [Blocks, unique, isTaken]

/-- A call is blocked, or fails for want of a row, or is fulfilled. -/
theorem answer_exact (rows : Collection σ ο φ) (kind : Kind φ) (scope : σ) (call : Call ο φ) :
    (rows.Blocks kind scope call ∧
        ∃ name, rows.answer kind scope call = (rows, .error (.conflict kind.resource name))) ∨
      (¬ rows.Blocks kind scope call ∧ ¬ rows.Reaches scope call ∧
        rows.answer kind scope call = (rows, .error (.notFound kind.resource))) ∨
      (¬ rows.Blocks kind scope call ∧ rows.Reaches scope call ∧
        ∃ after reply, rows.answer kind scope call = (after, .ok reply) ∧
          rows.Fulfils kind scope call after reply) := by
  cases call with
  | list listing =>
    right; right
    exact ⟨id, by simp [Reaches, Call.target?], _, _, rfl, rfl, rfl⟩
  | get id =>
    right
    have reaches : rows.Reaches scope (.get id : Call ο φ) ↔
        (rows.get? scope id).isSome = true := by
      simp [Reaches, Call.target?, get?_isSome_iff]
    rw [reaches]
    cases found : rows.get? scope id with
    | none => exact .inl ⟨False.elim, by simp, answer_get_of_absent found⟩
    | some row =>
      obtain ⟨front, back, shape, itsId, itsScope, -⟩ := exists_of_get? found
      exact .inr ⟨False.elim, rfl, _, _, answer_get_of_found found, rfl, row, by simp [shape],
        itsScope, itsId, rfl⟩
  | create origin fields id now =>
    rw [blocks_create_iff]
    cases taken : rows.isTaken kind scope (kind.label fields) (fun _ => false) with
    | true => exact .inl ⟨rfl, _, answer_create_of_taken taken⟩
    | false =>
      right; right
      exact ⟨Bool.false_ne_true, by simp [Reaches, Call.target?], _, _,
        answer_create_of_free taken, rfl, rfl⟩
  | update id fields now =>
    have reaches : rows.Reaches scope (.update id fields now : Call ο φ) ↔
        (rows.get? scope id).isSome = true := by
      simp [Reaches, Call.target?, get?_isSome_iff]
    rw [blocks_update_iff, reaches]
    cases taken : rows.isTaken kind scope (kind.label fields) (· = id) with
    | true => exact .inl ⟨rfl, _, answer_update_of_taken taken⟩
    | false =>
      right
      cases found : rows.get? scope id with
      | none =>
        exact .inl ⟨Bool.false_ne_true, by simp, answer_update_of_absent taken found⟩
      | some old =>
        obtain ⟨front, back, shape, itsId, itsScope, put⟩ := exists_of_get? found
        refine .inr ⟨Bool.false_ne_true, rfl, _, _, answer_update_of_found taken found, ?_⟩
        exact ⟨front, old, back, shape, itsScope, itsId, put _, rfl⟩

end Collection

namespace Stores

variable {stores after : Stores} {call : StoreCall} {shown : Shown}

/-- Whether all parents are there under which a call is made. -/
def HaveLineage (stores : Stores) : StoreCall → Prop
  | .customers _ | .projects _ _ => True
  | .issues scope _ => stores.HaveProjectOf scope
  | .comments scope _ =>
    stores.HaveProjectOf ⟨scope.customer, scope.project⟩ ∧ stores.HaveIssueOf scope

/-- Whether the row is there that a call is about. -/
def HaveTarget (stores : Stores) : StoreCall → Prop
  | .customers call => stores.customers.Reaches () call
  | .projects customer call => stores.projects.Reaches customer call
  | .issues scope call => stores.issues.Reaches scope call
  | .comments scope call => stores.comments.Reaches scope call

/-- Whether a row has the name that a call gives, where names are unique. -/
def Block (stores : Stores) : StoreCall → Prop
  | .customers call => stores.customers.Blocks customerKind () call
  | .projects customer call => stores.projects.Blocks projectKind customer call
  | .issues scope call => stores.issues.Blocks issueKind scope call
  | .comments scope call => stores.comments.Blocks commentKind scope call

/-- Whether stores become others and show something as a call asks for. The call is on one of them.
-/
def Fulfil (stores : Stores) : StoreCall → Stores → Shown → Prop
  | .customers call, after, shown => ∃ rows reply,
    stores.customers.Fulfils customerKind () call rows reply ∧
      after = { stores with customers := rows } ∧ shown = .customers reply
  | .projects customer call, after, shown => ∃ rows reply,
    stores.projects.Fulfils projectKind customer call rows reply ∧
      after = { stores with projects := rows } ∧ shown = .projects reply
  | .issues scope call, after, shown => ∃ rows reply,
    stores.issues.Fulfils issueKind scope call rows reply ∧
      after = { stores with issues := rows } ∧ shown = .issues reply
  | .comments scope call, after, shown => ∃ rows reply,
    stores.comments.Fulfils commentKind scope call rows reply ∧
      after = { stores with comments := rows } ∧ shown = .comments reply

/-- Whether the store that a call is on changes in a certain way, and the others do not. -/
inductive ChangeOne
    (change : ∀ {σ ο φ : Type}, Collection σ ο φ → σ → Call ο φ → Collection σ ο φ → Prop)
    (stores : Stores) : StoreCall → Stores → Prop
  | customers {call : Call Unit Profile} {rows : Collection Unit Unit Profile}
      (changed : change stores.customers () call rows) :
      ChangeOne change stores (.customers call) { stores with customers := rows }
  | projects {customer : Uuid} {call : Call Unit Profile} {rows : Collection Uuid Unit Profile}
      (changed : change stores.projects customer call rows) :
      ChangeOne change stores (.projects customer call) { stores with projects := rows }
  | issues {scope : IssueScope} {call : Call IssueOrigin IssueFields}
      {rows : Collection IssueScope IssueOrigin IssueFields}
      (changed : change stores.issues scope call rows) :
      ChangeOne change stores (.issues scope call) { stores with issues := rows }
  | comments {scope : CommentScope} {call : Call String String}
      {rows : Collection CommentScope String String}
      (changed : change stores.comments scope call rows) :
      ChangeOne change stores (.comments scope call) { stores with comments := rows }

/-- What a call on one of the stores comes to, for the stores as a whole. -/
theorem exact_within {σ ο φ : Type} [DecidableEq σ] {rows : Collection σ ο φ} {kind : Kind φ}
    {scope : σ} {call : Call ο φ} {done : Stores × Except StoreError Shown}
    (put : Collection σ ο φ → Stores) (shows : Reply (Row σ ο φ) → Shown) (same : put rows = stores)
    (answered : done =
      (put (rows.answer kind scope call).1, (rows.answer kind scope call).2.map shows)) :
    (rows.Blocks kind scope call ∧
        ∃ resource name, done = (stores, .error (.conflict resource name))) ∨
      (¬ rows.Blocks kind scope call ∧ ¬ rows.Reaches scope call ∧
        ∃ resource, done = (stores, .error (.notFound resource))) ∨
      (¬ rows.Blocks kind scope call ∧ rows.Reaches scope call ∧
        ∃ after shown, done = (after, .ok shown) ∧
          ∃ rows' reply, rows.Fulfils kind scope call rows' reply ∧ after = put rows' ∧
            shown = shows reply) := by
  subst same answered
  rcases rows.answer_exact kind scope call with
    ⟨blocked, name, done⟩ | ⟨free, absent, done⟩ | ⟨free, there, rows', reply, done, fulfilled⟩
  · exact .inl ⟨blocked, _, name, by rw [done]; rfl⟩
  · exact .inr (.inl ⟨free, absent, _, by rw [done]; rfl⟩)
  · exact .inr (.inr ⟨free, there, _, _, by rw [done]; rfl, rows', reply, fulfilled, rfl, rfl⟩)

/-- A call is blocked, or fails for want of the row that it is about, or is fulfilled. -/
theorem answer_exact (stores : Stores) (call : StoreCall) :
    (stores.Block call ∧
        ∃ resource name, stores.answer call = (stores, .error (.conflict resource name))) ∨
      (¬ stores.Block call ∧ ¬ stores.HaveTarget call ∧
        ∃ resource, stores.answer call = (stores, .error (.notFound resource))) ∨
      (¬ stores.Block call ∧ stores.HaveTarget call ∧
        ∃ after shown, stores.answer call = (after, .ok shown) ∧
          stores.Fulfil call after shown) := by
  cases call with
  | customers call =>
    exact exact_within (fun rows => { stores with customers := rows }) .customers rfl rfl
  | projects customer call =>
    exact exact_within (fun rows => { stores with projects := rows }) .projects rfl rfl
  | issues scope call =>
    exact exact_within (fun rows => { stores with issues := rows }) .issues rfl rfl
  | comments scope call =>
    exact exact_within (fun rows => { stores with comments := rows }) .comments rfl rfl

/-- Only a call whose parents need not be looked up can be blocked. -/
theorem Block.haveLineage (blocked : stores.Block call) : stores.HaveLineage call := by
  cases call with
  | customers _ | projects _ _ => trivial
  | issues scope call => cases call <;> simp [Block, Collection.Blocks, issueKind] at blocked
  | comments scope call => cases call <;> simp [Block, Collection.Blocks, commentKind] at blocked

/-- The errand about a call looks all parents up, and fails for want of the first that is missing.
-/
theorem lookUp_errand (stores : Stores) (call : StoreCall) :
    (stores.HaveLineage call ∧ stores.lookUp call.errand = .ok ()) ∨
      (¬ stores.HaveLineage call ∧
        ∃ resource, stores.lookUp call.errand = .error (.notFound resource)) := by
  cases call with
  | customers _ | projects _ _ => exact .inl ⟨trivial, rfl⟩
  | issues scope call =>
    rcases stores.projects.require_cases projectKind scope.customer scope.project with
      ⟨there, found⟩ | ⟨absent, missing⟩
    · exact .inl ⟨there, found⟩
    · exact .inr ⟨absent, _, missing⟩
  | comments scope call =>
    rcases stores.projects.require_cases projectKind scope.customer scope.project with
      ⟨there, found⟩ | ⟨absent, missing⟩
    · rcases stores.issues.require_cases issueKind ⟨scope.customer, scope.project⟩ scope.issue with
        ⟨its, reached⟩ | ⟨absent, missing⟩
      · exact .inl ⟨⟨there, its⟩, Except.bind_eq_ok.mpr ⟨(), found, reached⟩⟩
      · exact .inr ⟨fun both => absent both.2, _,
          Except.bind_eq_error.mpr (.inr ⟨(), found, missing⟩)⟩
    · exact .inr ⟨fun both => absent both.1, _, Except.bind_eq_error.mpr (.inl missing)⟩

/-- An errand about a call is blocked, or fails for want of a parent or the row that it is about, or
the call is fulfilled. -/
theorem run_exact (stores : Stores) (call : StoreCall) :
    (stores.Block call ∧
        ∃ resource name, stores.run call.errand = (stores, .error (.conflict resource name))) ∨
      (¬ stores.Block call ∧ ¬ (stores.HaveLineage call ∧ stores.HaveTarget call) ∧
        ∃ resource, stores.run call.errand = (stores, .error (.notFound resource))) ∨
      (¬ stores.Block call ∧ (stores.HaveLineage call ∧ stores.HaveTarget call) ∧
        ∃ after shown, stores.run call.errand = (after, .ok shown) ∧
          stores.Fulfil call after shown) := by
  rw [run_eq, call.call_errand]
  rcases stores.lookUp_errand call with ⟨lineage, found⟩ | ⟨orphaned, resource, missing⟩
  · simp only [found, lineage, true_and]
    exact stores.answer_exact call
  · simp only [missing]
    right; left
    exact ⟨fun blocked => orphaned blocked.haveLineage, fun both => orphaned both.1, resource, rfl⟩

end Stores

section Growth

namespace Row.SameRecord

variable {one other another : Row σ ο φ}

theorem refl (row : Row σ ο φ) : row.SameRecord row := ⟨rfl, rfl, rfl, rfl⟩

theorem trans (first : one.SameRecord other) (second : other.SameRecord another) :
    one.SameRecord another where
  id := first.id.trans second.id
  scope := first.scope.trans second.scope
  origin := first.origin.trans second.origin
  createdAt := first.createdAt.trans second.createdAt

end Row.SameRecord

namespace Collection

variable {rows after : Collection σ ο φ} {founded : Row σ ο φ → Prop}

end Collection

namespace Stores

variable {stores after : Stores} {call : StoreCall} {shown : Shown}

end Stores

end Growth

end IssueTracker.Store

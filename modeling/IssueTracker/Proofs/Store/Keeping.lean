import IssueTracker.Proofs.Store.Naming
import IssueTracker.Proofs.Store.Resolution

/-!
# What a row may keep

Whatever calls are made, every row may keep its name, as no row with another identifier has it in
the same scope. That identifiers are distinct is not needed for this, since a change is not checked
against rows with the identifier that it names.

So a row that is found can always be changed to what it is. Nothing is different then but the time
of its last change.
-/

namespace IssueTracker.Store

section Collection

variable {σ ο φ : Type}

namespace Collection

/-- Whether every row may keep its name, in a kind whose names are unique. -/
def KeepsNames (rows : Collection σ ο φ) (kind : Kind φ) : Prop :=
  kind.hasUniqueNames = true → ∀ row ∈ rows,
    ¬ rows.HasNameBesides kind row.scope row.id (kind.label row.fields)

/-- Whether a collection becomes another in which nothing is different but when a row was changed
last. -/
def Retimes (rows : Collection σ ο φ) (row : Row σ ο φ) (now : Instant)
    (after : Collection σ ο φ) : Prop :=
  ∃ front back, rows = front ++ row :: back ∧
    after = front ++ { row with updatedAt := now } :: back

variable {rows after : Collection σ ο φ} {kind : Kind φ} {scope : σ} {id : Uuid}
  {row : Row σ ο φ}

/-- Without rows there are no names. -/
theorem keepsNames_nil (kind : Kind φ) : KeepsNames ([] : Collection σ ο φ) kind := nofun

/-- A row more, or in the place of another, leaves all rows their names if it has one that no row
with another identifier has. -/
theorem KeepsNames.of_new (keeps : rows.KeepsNames kind) (new : Row σ ο φ)
    (free : kind.hasUniqueNames = true →
      ¬ rows.HasNameBesides kind new.scope new.id (kind.label new.fields))
    (origin : ∀ row ∈ after, row ∈ rows ∨ row = new) :
    after.KeepsNames kind := by
  rintro unique row inside ⟨other, there, sameScope, apart, sameName⟩
  rcases origin row inside with before | rfl
  · rcases origin other there with earlier | rfl
    · exact keeps unique row before ⟨other, earlier, sameScope, apart, sameName⟩
    · exact free unique ⟨row, before, sameScope.symm, apart.symm, sameName.symm⟩
  · rcases origin other there with earlier | rfl
    · exact free unique ⟨other, earlier, sameScope, apart, sameName⟩
    · exact apart rfl

variable [DecidableEq σ]

/-- A call leaves all rows their names. -/
theorem KeepsNames.answer (keeps : rows.KeepsNames kind) (scope : σ) (call : Call ο φ) :
    (rows.answer kind scope call).1.KeepsNames kind := by
  rcases rows.answer_cases kind scope call with
    ⟨same, -⟩ | ⟨origin, fields, id, now, rfl, free, done⟩ |
      ⟨id, fields, now, front, old, back, rfl, free, shape, itsId, itsScope, done⟩
  · rwa [same]
  · rw [done]
    refine keeps.of_new (.made scope origin fields id now) (fun unique named => ?_) ?_
    · obtain ⟨other, there, sameScope, -, sameName⟩ := named
      have taken := (isTaken_iff_hasName unique).mpr ⟨other, there, sameScope, sameName⟩
      exact absurd (free.symm.trans taken) Bool.false_ne_true
    · intro row inside
      simpa using inside
  · rw [done]
    refine keeps.of_new (revised old fields now) (fun unique named => ?_) ?_
    · rw [revised_scope, revised_id, itsScope, itsId] at named
      have taken := (isTaken_iff_hasNameBesides unique).mpr named
      exact absurd (free.symm.trans taken) Bool.false_ne_true
    · intro row inside
      rw [shape]
      simp only [List.mem_append, List.mem_cons] at inside ⊢
      tauto

/-- A row that is found can be changed to what it is. -/
theorem KeepsNames.answer_own (keeps : rows.KeepsNames kind)
    (found : rows.get? scope id = some row) (now : Instant) :
    ∃ after, rows.Retimes row now after ∧
      rows.answer kind scope (.update id row.fields now) =
        (after, .ok (.updated (revised row row.fields now))) := by
  obtain ⟨front, back, shape, itsId, itsScope, put⟩ := exists_of_get? found
  have free : rows.isTaken kind scope (kind.label row.fields) (· = id) = false := by
    cases unique : kind.hasUniqueNames with
    | false => simp [isTaken, unique]
    | true =>
      rw [← Bool.not_eq_true, isTaken_iff_hasNameBesides unique, ← itsScope, ← itsId]
      exact keeps unique row (by simp [shape])
  refine ⟨front ++ revised row row.fields now :: back, ⟨front, back, shape, rfl⟩, ?_⟩
  rw [answer_update_of_found free found, put]

end Collection

end Collection

namespace Stores

/-- Whether every row of all four stores may keep its name. -/
structure KeepNames (stores : Stores) : Prop where
  customers : stores.customers.KeepsNames customerKind
  projects : stores.projects.KeepsNames projectKind
  issues : stores.issues.KeepsNames issueKind
  comments : stores.comments.KeepsNames commentKind

variable {stores : Stores} {errand : Errand} {shown : Shown}

/-- In empty stores there are no names. -/
theorem keepNames_empty : Stores.empty.KeepNames :=
  ⟨Collection.keepsNames_nil _, Collection.keepsNames_nil _, Collection.keepsNames_nil _,
    Collection.keepsNames_nil _⟩

/-- A call leaves all rows their names. -/
theorem KeepNames.answer (keep : stores.KeepNames) (call : StoreCall) :
    (stores.answer call).1.KeepNames := by
  cases call with
  | customers call => exact { keep with customers := keep.customers.answer () call }
  | projects customer call => exact { keep with projects := keep.projects.answer customer call }
  | issues scope call => exact { keep with issues := keep.issues.answer scope call }
  | comments scope call => exact { keep with comments := keep.comments.answer scope call }

/-- An errand leaves all rows their names. -/
theorem KeepNames.run (keep : stores.KeepNames) (errand : Errand) :
    (stores.run errand).1.KeepNames :=
  run_induction keep fun _ => keep.answer errand.call

/-- An errand that shows something has found the parents of its call, and shows what that shows. -/
theorem answer_of_shown (done : (stores.run errand).2 = .ok shown) :
    stores.lookUp errand = .ok () ∧ (stores.answer errand.call).2 = .ok shown := by
  rw [run_eq] at done
  cases found : stores.lookUp errand with
  | error refusal => simp [found] at done
  | ok _ => exact ⟨rfl, by simpa [found] using done⟩

/-- What an errand shows that has a row found can be written back. The row is then the same as
before, up to the time of its last change, and nothing else is different. -/
theorem written_back_within {σ ο φ : Type} [DecidableEq σ] {rows : Collection σ ο φ}
    {kind : Kind φ} {scope : σ} {id : Uuid} (called : Call ο φ → StoreCall)
    (put : Collection σ ο φ → Stores) (shows : Reply (Row σ ο φ) → Shown)
    (answered : ∀ call, stores.answer (called call) =
      (put (rows.answer kind scope call).1, (rows.answer kind scope call).2.map shows))
    (alike : ∀ one other, stores.lookUp (called one).errand = stores.lookUp (called other).errand)
    (keeps : rows.KeepsNames kind)
    (done : (stores.run (called (.get id)).errand).2 = .ok shown) :
    ∃ row ∈ rows, row.scope = scope ∧ row.id = id ∧ shown = shows (.found row) ∧
      ∀ now, ∃ after, rows.Retimes row now after ∧
        stores.run (called (.update id row.fields now)).errand =
          (put after, .ok (shows (.updated (Collection.revised row row.fields now)))) := by
  obtain ⟨lineage, reached⟩ := answer_of_shown done
  rw [StoreCall.call_errand, answered] at reached
  cases found : rows.get? scope id with
  | none =>
    rw [Collection.answer_get_of_absent found] at reached
    cases reached
  | some row =>
    rw [Collection.answer_get_of_found found] at reached
    cases reached
    obtain ⟨front, back, shape, itsId, itsScope, -⟩ := Collection.exists_of_get? found
    refine ⟨row, by simp [shape], itsScope, itsId, rfl, fun now => ?_⟩
    obtain ⟨after, retimes, changed⟩ := keeps.answer_own found now
    refine ⟨after, retimes, ?_⟩
    rw [run_eq, alike _ (.get id), lineage, StoreCall.call_errand, answered, changed]
    rfl

end Stores

end IssueTracker.Store

import IssueTracker.Store.Errand

/-!
# Rows stay where they are

No call takes a row away. A row that is reached through its scope and identifier is reached so ever
after, with the same origin and time of creation; only its fields and its time of revision may be
others. So what an errand found out about a parent it looked up is still so when other errands have
taken their steps, and what remains of the errand does in any later stores what the whole errand
would do there.
-/

namespace IssueTracker.Store

section Collection

variable {σ ο φ : Type} [DecidableEq σ]

/-- Whether every row of one collection is in another, though perhaps with other fields. -/
def Collection.Persists (earlier later : Collection σ ο φ) : Prop :=
  ∀ scope id row, earlier.get? scope id = some row →
    ∃ kept, later.get? scope id = some kept ∧ kept.origin = row.origin ∧
      kept.createdAt = row.createdAt

namespace Collection

variable {rows later : Collection σ ο φ} {kind : Kind φ} {scope other : σ} {id its : Uuid}
  {row new : Row σ ο φ}

/-- A row is reached through its own scope and identifier. -/
theorem get?_eq_some (found : rows.get? scope id = some row) : row.id = id ∧ row.scope = scope := by
  have fits := List.find?_some found
  simpa using fits

/-- A row is found exactly if it is reached. -/
theorem get_eq_ok_iff : rows.get kind scope id = .ok row ↔ rows.get? scope id = some row := by
  cases reached : rows.get? scope id <;> simp [get, reached]

/-- A row is reached as before if another one is appended. -/
theorem get?_append (found : rows.get? scope id = some row) :
    get? (rows ++ [new]) scope id = some row := by
  simp only [get?] at found ⊢
  rw [List.find?_append, found, Option.some_or]

/-- The row that was put in place of another is reached where that was, and any other row is
reached as before. -/
theorem get?_replace (newScope : new.scope = scope) (newId : new.id = id) :
    (rows.replace scope id new).get? other its =
      if its = id ∧ other = scope then (rows.get? scope id).map fun _ => new
      else rows.get? other its := by
  induction rows with
  | nil => simp [replace, get?]
  | cons first rest inductionHypothesis =>
    by_cases replaced : first.id = id ∧ first.scope = scope
    · by_cases asked : its = id ∧ other = scope
      · simp [replace, get?, replaced, asked, newScope, newId]
      · have different : (id = its && scope = other) = false := by
          simpa using fun same scopes => asked ⟨same.symm, scopes.symm⟩
        simp only [replace, replaced, decide_true, Bool.and_self, if_true, asked, if_false]
        simp only [get?, List.find?_cons]
        simp [replaced, newScope, newId, different]
    · have passed : (first.id = id && first.scope = scope) = false := by simpa using replaced
      simp only [replace, passed, Bool.false_eq_true, if_false]
      simp only [get?, List.find?_cons] at inductionHypothesis ⊢
      by_cases asked : its = id ∧ other = scope
      · simp only [asked, passed, and_self, if_true] at inductionHypothesis ⊢
        exact inductionHypothesis
      · simp only [asked, if_false] at inductionHypothesis ⊢
        rw [inductionHypothesis]

/-- Nothing changes without a call. -/
theorem persists_refl (rows : Collection σ ο φ) : rows.Persists rows :=
  fun _ _ row found => ⟨row, found, rfl, rfl⟩

/-- What persists twice persists throughout. -/
theorem Persists.trans {middle : Collection σ ο φ} (first : rows.Persists middle)
    (second : middle.Persists later) :
    rows.Persists later := by
  intro scope id row found
  obtain ⟨between, foundBetween, origin, created⟩ := first scope id row found
  obtain ⟨kept, foundLater, sameOrigin, sameCreated⟩ := second scope id between foundBetween
  exact ⟨kept, foundLater, sameOrigin.trans origin, sameCreated.trans created⟩

/-- A row that is found is found later, in the same scope and with the same identifier. -/
theorem Persists.get (persists : rows.Persists later)
    (found : rows.get kind scope id = .ok row) :
    ∃ kept, later.get kind scope id = .ok kept ∧ kept.scope = row.scope ∧ kept.id = row.id := by
  have reached := get_eq_ok_iff.mp found
  obtain ⟨kept, again, -, -⟩ := persists scope id row reached
  obtain ⟨rowId, rowScope⟩ := get?_eq_some reached
  obtain ⟨keptId, keptScope⟩ := get?_eq_some again
  exact ⟨kept, get_eq_ok_iff.mpr again, by rw [keptScope, rowScope], by rw [keptId, rowId]⟩

/-- No call takes a row away. -/
theorem persists_answer (call : Call ο φ) : rows.Persists (rows.answer kind scope call).1 := by
  intro asked its row found
  cases call with
  | list listing => exact persists_refl rows asked its row found
  | get id => exact persists_refl rows asked its row found
  | create origin fields id now =>
    by_cases taken : rows.isTaken kind scope (kind.label fields) (fun _ => false) = true
    · simpa [answer, create, taken] using persists_refl rows asked its row found
    · refine ⟨row, ?_, rfl, rfl⟩
      simpa [answer, create, taken] using get?_append found
  | update id fields now =>
    by_cases taken : rows.isTaken kind scope (kind.label fields) (· = id) = true
    · simpa [answer, update, taken] using persists_refl rows asked its row found
    · cases target : rows.get? scope id with
      | none => simpa [answer, update, taken, target] using persists_refl rows asked its row found
      | some old =>
        obtain ⟨oldId, oldScope⟩ := get?_eq_some target
        have place : (rows.replace scope id (revised old fields now)).get? asked its = _ :=
          get?_replace oldScope oldId
        simp only [answer, update, taken, target, Bool.false_eq_true, if_false, place]
        by_cases same : its = id ∧ asked = scope
        · obtain ⟨rfl, rfl⟩ := same
          obtain rfl : old = row := by simpa [target] using found
          exact ⟨revised old fields now, by simp, rfl, rfl⟩
        · exact ⟨row, by simp [same, found], rfl, rfl⟩

end Collection

end Collection

/-- Whether every row of some stores is in other ones, though perhaps with other fields. -/
structure Stores.Persist (earlier later : Stores) : Prop where
  customers : earlier.customers.Persists later.customers
  projects : earlier.projects.Persists later.projects
  issues : earlier.issues.Persists later.issues
  comments : earlier.comments.Persists later.comments

namespace Stores

variable {stores after later : Stores} {errand original rest : Errand}

/-- Nothing changes without a call. -/
theorem persist_refl (stores : Stores) : stores.Persist stores :=
  ⟨Collection.persists_refl _, Collection.persists_refl _, Collection.persists_refl _,
    Collection.persists_refl _⟩

/-- What persists twice persists throughout. -/
theorem Persist.trans (first : stores.Persist after) (second : after.Persist later) :
    stores.Persist later :=
  ⟨first.customers.trans second.customers, first.projects.trans second.projects,
    first.issues.trans second.issues, first.comments.trans second.comments⟩

/-- No call takes a row away from any store. -/
theorem persist_answer (call : StoreCall) : stores.Persist (stores.answer call).1 := by
  have same := persist_refl stores
  cases call with
  | customers call => exact ⟨Collection.persists_answer call, same.2, same.3, same.4⟩
  | projects customer call => exact ⟨same.1, Collection.persists_answer call, same.3, same.4⟩
  | issues scope call => exact ⟨same.1, same.2, Collection.persists_answer call, same.4⟩
  | comments scope call => exact ⟨same.1, same.2, same.3, Collection.persists_answer call⟩

/-- A step that leaves something to be done has only looked. It looks the same in later stores. -/
theorem step_of_pending (stepped : stores.step errand = (after, .pending rest)) :
    after = stores ∧
      ∀ later, stores.Persist later → later.step errand = (later, .pending rest) := by
  cases errand with
  | last call => simp [step] at stepped
  | issuesOf customer project call =>
    cases found : stores.projects.get projectKind customer project with
    | error refusal => simp [step, found] at stepped
    | ok row =>
      obtain ⟨rfl, rfl⟩ : stores = after ∧ .last (.issues ⟨row.scope, row.id⟩ call) = rest := by
        simpa [step, found] using stepped
      refine ⟨rfl, fun later persist => ?_⟩
      obtain ⟨kept, again, scope, id⟩ := persist.projects.get found
      simp [step, again, scope, id]
  | commentsOf customer project issue call =>
    cases found : stores.projects.get projectKind customer project with
    | error refusal => simp [step, found] at stepped
    | ok row =>
      obtain ⟨rfl, rfl⟩ :
          stores = after ∧ .commentsUnder ⟨row.scope, row.id⟩ issue call = rest := by
        simpa [step, found] using stepped
      refine ⟨rfl, fun later persist => ?_⟩
      obtain ⟨kept, again, scope, id⟩ := persist.projects.get found
      simp [step, again, scope, id]
  | commentsUnder scope issue call =>
    cases found : stores.issues.get issueKind scope issue with
    | error refusal => simp [step, found] at stepped
    | ok row =>
      obtain ⟨rfl, rfl⟩ : stores = after ∧
          .last (.comments ⟨row.scope.customer, row.scope.project, row.id⟩ call) = rest := by
        simpa [step, found] using stepped
      refine ⟨rfl, fun later persist => ?_⟩
      obtain ⟨kept, again, scope, id⟩ := persist.issues.get found
      simp [step, again, scope, id]

/-- No step takes a row away. -/
theorem persist_step (stores : Stores) (errand : Errand) :
    stores.Persist (stores.step errand).1 := by
  cases errand with
  | last call => exact persist_answer call
  | issuesOf customer project call =>
    simp only [step]
    split <;> exact persist_refl stores
  | commentsOf customer project issue call =>
    simp only [step]
    split <;> exact persist_refl stores
  | commentsUnder scope issue call =>
    simp only [step]
    split <;> exact persist_refl stores

/-- An errand of one step is done when that is taken. -/
theorem run_of_finished {result : Except StoreError Shown}
    (stepped : stores.step errand = (after, .finished result)) :
    stores.run errand = (after, result) := by
  rw [run]
  split
  · next taken =>
    rw [stepped] at taken
    cases taken
    rfl
  · next taken =>
    rw [stepped] at taken
    cases taken

/-- An errand of several steps goes on where its first step leads. -/
theorem run_of_pending (stepped : stores.step errand = (after, .pending rest)) :
    stores.run errand = after.run rest := by
  rw [run]
  split
  · next taken =>
    rw [stepped] at taken
    cases taken
  · next taken =>
    rw [stepped] at taken
    cases taken
    rfl

/-- Whether what remains of an errand does, in these stores and in any later ones, what the whole
errand would do there. -/
def Continues (stores : Stores) (original rest : Errand) : Prop :=
  ∀ later, stores.Persist later → later.run original = later.run rest

/-- An errand that is not begun remains as a whole. -/
theorem continues_refl (stores : Stores) (errand : Errand) : stores.Continues errand errand :=
  fun _ _ => rfl

/-- What remains of an errand remains so while other errands take their steps. -/
theorem Continues.of_persist (continues : stores.Continues original errand)
    (persist : stores.Persist later) :
    later.Continues original errand :=
  fun last further => continues last (persist.trans further)

/-- What remains after a further step remains of the whole errand. -/
theorem Continues.of_pending (continues : stores.Continues original errand)
    (stepped : stores.step errand = (after, .pending rest)) :
    stores.Continues original rest := by
  intro later persist
  have again := (step_of_pending stepped).2 later persist
  exact (continues later persist).trans (run_of_pending again)

/-- The last step of an errand does what the whole errand would do at once. -/
theorem Continues.run_of_finished {result : Except StoreError Shown}
    (continues : stores.Continues original errand)
    (stepped : stores.step errand = (after, .finished result)) :
    stores.run original = (after, result) :=
  (continues stores (persist_refl stores)).trans (Stores.run_of_finished stepped)

end Stores

end IssueTracker.Store

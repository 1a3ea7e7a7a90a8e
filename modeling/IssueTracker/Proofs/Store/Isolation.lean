import IssueTracker.Proofs.Store.Sequence

/-!
# Scopes do not touch each other

A region of the stores is one of them within one scope: all customers, the projects of a customer,
the issues of a project or the comments of an issue. What is asked in a region is answered from its
rows alone, and what is done in it changes no rows of any other. So the calls in a region are
answered as if there were no others, also where other calls name identifiers of its rows.

Nothing is assumed of identifiers here.
-/

namespace IssueTracker.Store

variable {σ ο φ : Type} [DecidableEq σ]

namespace Collection

variable {rows : Collection σ ο φ} {kind : Kind φ} {scope other : σ} {id : Uuid}

/-- The rows of a scope are all of that scope. -/
@[simp] theorem owned_owned : owned (rows.owned scope) scope = rows.owned scope := by
  simp [owned, List.filter_filter]

/-- A page of a scope is cut from its rows. -/
@[simp] theorem list_owned {listing : Listing} :
    list (rows.owned scope) kind scope listing = rows.list kind scope listing := by
  simp [list]

/-- A row is reached through its scope among the rows of that. -/
@[simp] theorem get?_owned : get? (rows.owned scope) scope id = rows.get? scope id := by
  simp only [get?, owned, List.find?_filter]
  congr 1
  funext row
  by_cases its : row.scope = scope <;> simp [its]

/-- A name is taken in a scope by the rows of that. -/
@[simp] theorem isTaken_owned {name : String} {excepted : Uuid → Bool} :
    isTaken (rows.owned scope) kind scope name excepted =
      rows.isTaken kind scope name excepted := by
  simp only [isTaken, owned, List.any_filter]
  congr 2
  funext row
  by_cases its : row.scope = scope <;> simp [its]

/-- A row of a scope is replaced among the rows of that. -/
theorem owned_replace {new : Row σ ο φ} (within : new.scope = scope) :
    (rows.replace scope id new).owned scope = replace (rows.owned scope) scope id new := by
  induction rows with
  | nil => rfl
  | cons first rest inductionHypothesis =>
    simp only [owned] at inductionHypothesis
    by_cases its : first.scope = scope
    · by_cases here : first.id = id
      · simp [replace, owned, its, here, within]
      · simp [replace, owned, its, here, inductionHypothesis]
    · simp [replace, owned, its, inductionHypothesis]

/-- What is asked in a scope is answered from its rows, and does to them what it does among all. -/
theorem answer_owned (call : Call ο φ) :
    answer (rows.owned scope) kind scope call =
      ((rows.answer kind scope call).1.owned scope, (rows.answer kind scope call).2) := by
  cases call with
  | list listing => simp [answer]
  | get id => simp [answer, get]
  | create origin fields id now =>
    cases taken : rows.isTaken kind scope (kind.label fields) fun _ => false with
    | true => rw [answer_create_of_taken taken, answer_create_of_taken (by rwa [isTaken_owned])]
    | false =>
      rw [answer_create_of_free taken, answer_create_of_free (by rwa [isTaken_owned])]
      simp [owned, Row.made]
  | update id fields now =>
    cases taken : rows.isTaken kind scope (kind.label fields) (· = id) with
    | true => rw [answer_update_of_taken taken, answer_update_of_taken (by rwa [isTaken_owned])]
    | false =>
      cases found : rows.get? scope id with
      | none =>
        rw [answer_update_of_absent taken found,
          answer_update_of_absent (by rwa [isTaken_owned]) (by rwa [get?_owned])]
      | some old =>
        obtain ⟨front, back, -, -, itsScope, -⟩ := exists_of_get? found
        rw [answer_update_of_found taken found,
          answer_update_of_found (by rwa [isTaken_owned]) (by rwa [get?_owned]),
          owned_replace (by rw [revised_scope, itsScope])]

/-- What is asked in a scope changes no rows of another. -/
theorem owned_answer_of_ne (call : Call ο φ) (apart : scope ≠ other) :
    (rows.answer kind scope call).1.owned other = rows.owned other := by
  rcases rows.answer_cases kind scope call with
    ⟨same, -⟩ | ⟨origin, fields, id, now, rfl, -, done⟩ |
      ⟨id, fields, now, front, old, back, rfl, -, rfl, -, itsScope, done⟩
  · rw [same]
  · simp [done, owned, Row.made, apart]
  · simp [done, owned, itsScope, apart]

end Collection

/-- One of the stores within one scope. -/
inductive Region
  | customers
  | projectsOf (customer : Uuid)
  | issuesOf (scope : IssueScope)
  | commentsOf (scope : CommentScope)
deriving DecidableEq

/-- The region in which a call is made. -/
def StoreCall.region : StoreCall → Region
  | .customers _ => .customers
  | .projects customer _ => .projectsOf customer
  | .issues scope _ => .issuesOf scope
  | .comments scope _ => .commentsOf scope

namespace Stores

/-- The stores with the rows of a region only. -/
def within (stores : Stores) : Region → Stores
  | .customers => { customers := stores.customers.owned () }
  | .projectsOf customer => { projects := stores.projects.owned customer }
  | .issuesOf scope => { issues := stores.issues.owned scope }
  | .commentsOf scope => { comments := stores.comments.owned scope }

/-- A call is answered from the rows of its region, and does to them what it does among all. -/
theorem answer_within (stores : Stores) (call : StoreCall) :
    (stores.within call.region).answer call =
      ((stores.answer call).1.within call.region, (stores.answer call).2) := by
  cases call with
  | customers call => simp only [StoreCall.region, within, answer, Collection.answer_owned]
  | projects customer call => simp only [StoreCall.region, within, answer, Collection.answer_owned]
  | issues scope call => simp only [StoreCall.region, within, answer, Collection.answer_owned]
  | comments scope call => simp only [StoreCall.region, within, answer, Collection.answer_owned]

/-- A call changes no rows of another region. -/
theorem within_answer_of_ne {region : Region} (stores : Stores) (call : StoreCall)
    (apart : call.region ≠ region) :
    (stores.answer call).1.within region = stores.within region := by
  cases call with
  | customers call =>
    cases region with
    | customers => exact absurd rfl apart
    | projectsOf _ | issuesOf _ | commentsOf _ => rfl
  | projects customer call =>
    cases region with
    | projectsOf other =>
      have others : customer ≠ other := fun same => apart (by rw [same, StoreCall.region])
      simp only [answer, within, Collection.owned_answer_of_ne call others]
    | customers | issuesOf _ | commentsOf _ => rfl
  | issues scope call =>
    cases region with
    | issuesOf other =>
      have others : scope ≠ other := fun same => apart (by rw [same, StoreCall.region])
      simp only [answer, within, Collection.owned_answer_of_ne call others]
    | customers | projectsOf _ | commentsOf _ => rfl
  | comments scope call =>
    cases region with
    | commentsOf other =>
      have others : scope ≠ other := fun same => apart (by rw [same, StoreCall.region])
      simp only [answer, within, Collection.owned_answer_of_ne call others]
    | customers | projectsOf _ | issuesOf _ => rfl

/-- The calls in a region are answered in any stores as they are answered without the other calls in
stores with the rows of the region only. -/
theorem log_within (stores : Stores) (region : Region) (calls : List StoreCall) :
    (stores.log calls).filter (·.1.region = region) =
      (stores.within region).log (calls.filter (·.region = region)) := by
  induction calls generalizing stores with
  | nil => rfl
  | cons call calls inductionHypothesis =>
    by_cases its : call.region = region
    · subst its
      simp [answer_within, inductionHypothesis]
    · simp [its, inductionHypothesis, within_answer_of_ne stores call its]

/-- The log has all calls, in order. -/
theorem map_fst_log (stores : Stores) (calls : List StoreCall) :
    (stores.log calls).map (·.1) = calls := by
  induction calls generalizing stores with
  | nil => rfl
  | cons call calls inductionHypothesis => simp [inductionHypothesis]

end Stores

/-- Scopes are isolated from each other. Whatever stores there are and whatever calls are made on
them, the calls in one scope are answered exactly as in the sequence without all calls in others. -/
theorem region_isolated (stores : Stores) (calls : List StoreCall) (region : Region) :
    (stores.log calls).filter (·.1.region = region) =
      stores.log (calls.filter (·.region = region)) := by
  -- What is left of the calls without the others has no others to leave out.
  have alone : (stores.log (calls.filter (·.region = region))).filter (·.1.region = region) =
      stores.log (calls.filter (·.region = region)) := by
    refine List.filter_eq_self.mpr fun entry member => ?_
    have made : entry.1 ∈ calls.filter (·.region = region) := by
      rw [← stores.map_fst_log (calls.filter (·.region = region))]
      exact List.mem_map_of_mem member
    exact (List.mem_filter.mp made).2
  calc (stores.log calls).filter (·.1.region = region)
      = (stores.within region).log (calls.filter (·.region = region)) :=
        stores.log_within region calls
    _ = (stores.within region).log
          ((calls.filter (·.region = region)).filter (·.region = region)) := by
        simp
    _ = (stores.log (calls.filter (·.region = region))).filter (·.1.region = region) :=
        (stores.log_within region _).symm
    _ = stores.log (calls.filter (·.region = region)) := alone

end IssueTracker.Store

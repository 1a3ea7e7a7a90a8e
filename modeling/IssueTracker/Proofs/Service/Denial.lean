import IssueTracker.Proofs.Service.Admission

/-!
# What callers are told who may not do what they ask for

A caller whose token is accepted but grants no scope that the operation requires has nothing done.
That the scope is insufficient is said only of a request that could be read: a segment that names no
identifier, a query or a body that cannot be read is told of instead, the first of them that there
is. Whether a submission obeys the rules of its kind is not asked of such a caller.

So who is denied learns whether the request is well-formed, and nothing of what is stored.
-/

namespace IssueTracker

open Api Auth Http Store

namespace Service

variable {service : Service} {arrival : Arrival} {request : Request} {operation : Operation}
  {token : String} {payload : TokenPayload}

/-- Only a rejection has the status of an insufficient scope if it is one. -/
theorem status_denial (flaw? : Option Rejection) :
    (Occasion.denial flaw? (.failed .insufficientScope)).status = 403 ↔ flaw? = none := by
  cases flaw? with
  | none => exact ⟨fun _ => rfl, fun _ => rfl⟩
  | some rejection => cases rejection <;> decide

/-- Whoever is let in but granted no scope that the operation requires is told of the first thing in
the request that cannot be read, or else that the scope is insufficient. -/
theorem handle_of_ungranted
    (acceptance : Acceptance service arrival request operation token payload)
    (ungranted : ¬ ∃ scope ∈ splitScopes payload.scope, scope ∈ operation.required)
    (short : ¬ DeclaresTooMuch request) (stores : Stores) :
    service.handle stores arrival request =
      ⟨stores, service.complete arrival request
          (if service.waited arrival token ≤ deadline then
            .answered ((Occasion.denial
              ((service.occasionOf arrival request operation payload).flaw? operation)
              (.failed .insufficientScope)).toResponse service.wording operation request)
          else .late),
        (service.receive arrival request).providerCalls⟩ := by
  have denied : (service.occasionOf arrival request operation payload).errand operation = _ :=
    Occasion.errand_of_denied (authorize_of_ungranted ungranted) operation
  have received := receive_of_acceptance acceptance short
  rw [denied] at received
  by_cases timely : service.waited arrival token ≤ deadline
  · rw [if_pos timely] at received ⊢
    exact handle_of_settled received stores
  · rw [if_neg timely] at received ⊢
    exact handle_of_settled received stores

/-- What an accepted caller is told who is granted no scope that the operation requires. Nothing is
changed; the status is 403 exactly if the request could be read, and in time; and then the response
is the one for an insufficient scope. Otherwise it is the one for the first thing that cannot be
read, or the request is given up because the provider took too long. -/
theorem ungranted_denied (service : Service) (arrival : Arrival) (request : Request)
    (operation : Operation) (token : String) (payload : TokenPayload)
    (acceptance : Acceptance service arrival request operation token payload)
    (ungranted : ¬ ∃ scope ∈ splitScopes payload.scope, scope ∈ operation.required)
    (short : ¬ DeclaresTooMuch request) (stores : Stores) :
    (service.handle stores arrival request).stores = stores ∧
      (service.handle stores arrival request).response =
        service.complete arrival request
          (if service.waited arrival token ≤ deadline then
            match (service.occasionOf arrival request operation payload).flaw? operation with
            | none => .answered ApiError.insufficientScope.toResponse
            | some rejection =>
              .answered (rejection.toResponse service.wording operation request)
          else .late) ∧
      ((service.handle stores arrival request).response.status = 403 ↔
        service.waited arrival token ≤ deadline ∧
          (service.occasionOf arrival request operation payload).flaw? operation = none) := by
  rw [handle_of_ungranted acceptance ungranted short]
  refine ⟨rfl, ?_, ?_⟩
  · cases (service.occasionOf arrival request operation payload).flaw? operation <;> rfl
  · rw [status_complete]
    by_cases timely : service.waited arrival token ≤ deadline
    · simp only [timely, if_true, true_and, Outcome.status, Refusal.status_toResponse]
      exact status_denial _
    · simp [timely, Outcome.status]

/-- A reader's request to create a customer, with a body. -/
def readersCreationOf (body : String) : Request := { readersCreation with body := Utf8.encode body }

/-- Whatever its body is, its token is accepted and grants nothing that creating a customer
requires. -/
theorem readersCreationOf_ungranted (body : String) :
    Acceptance trusting epoch (readersCreationOf body) .createCustomer readerToken readerPayload ∧
      (¬ ∃ scope ∈ splitScopes readerPayload.scope,
        scope ∈ Operation.createCustomer.required) ∧
      ¬ DeclaresTooMuch (readersCreationOf body) := by
  have meant : Operation.createCustomer.MeantBy readersCreation := by decide +kernel
  have presented : headerText? readersCreation.headers "authorization" =
      some ("Bearer " ++ readerToken) := by
    decide +kernel
  have only : splitScopes readerPayload.scope = ["tracker/customer.read"] := by decide +kernel
  have silent : ¬ DeclaresTooMuch readersCreation := by decide +kernel
  refine ⟨⟨⟨meant.method, meant.proper, meant.path⟩, presented, by decide,
    readerToken_accepted.1⟩, ?_, silent⟩
  rw [only]
  simp [Operation.required]

/-- A reader who submits a customer is told that the scope is insufficient. -/
theorem readersCreation_denied :
    (trusting.handle Stores.empty epoch
        (readersCreationOf "\x7b\"name\":\"n\"\x7d")).response.status = 403 ∧
      (trusting.handle Stores.empty epoch
        (readersCreationOf "\x7b\"name\":\"n\"\x7d")).stores = Stores.empty := by
  obtain ⟨acceptance, ungranted, short⟩ :=
    readersCreationOf_ungranted "\x7b\"name\":\"n\"\x7d"
  obtain ⟨unchanged, -, denied⟩ :=
    ungranted_denied trusting epoch _ _ _ _ acceptance ungranted short Stores.empty
  exact ⟨denied.mpr ⟨readerToken_accepted.2, by decide +kernel⟩, unchanged⟩

/-- A reader who submits nothing is told of that, not that the scope is insufficient. -/
theorem readersNothing_rejected :
    Acceptance trusting epoch (readersCreationOf "\x7b\x7d") .createCustomer readerToken
        readerPayload ∧
      (¬ ∃ scope ∈ splitScopes readerPayload.scope,
        scope ∈ Operation.createCustomer.required) ∧
      ¬ DeclaresTooMuch (readersCreationOf "\x7b\x7d") ∧
      (trusting.handle Stores.empty epoch
        (readersCreationOf "\x7b\x7d")).response.status = 422 := by
  obtain ⟨acceptance, ungranted, short⟩ := readersCreationOf_ungranted "\x7b\x7d"
  refine ⟨acceptance, ungranted, short, ?_⟩
  rw [handle_of_ungranted acceptance ungranted short, status_complete,
    if_pos readerToken_accepted.2]
  decide +kernel

end Service

end IssueTracker

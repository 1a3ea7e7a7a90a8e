import IssueTracker.Proofs.Api.Presentation
import IssueTracker.Proofs.Service.Integrity
import IssueTracker.Proofs.Service.Interleaving
import IssueTracker.Proofs.Store.Fulfilment

/-!
# Only successful writes write

What a request does to the stores can be told from its method and the status of its response. It
appends a row to one of them and is answered with 201, or it has a row of one of them revised and is
answered with 200, or it leaves all of them as they are. Requests that are settled without the
stores, for whatever reason, are of the last sort, and so are errands that are refused and errands
that only look.

A row that is revised gets the fields that are submitted and the time of the request. It stays the
record that it was: with its identifier, its parents, what was decided about it and the time of its
creation.
-/

namespace IssueTracker

open Api Auth Http Store

namespace Store

variable {σ ο φ : Type}

/-- The verb that asks for a call. -/
def Call.verb : Call ο φ → Verb
  | .list _ | .get _ => .get
  | .create _ _ _ _ => .post
  | .update _ _ _ => .put

/-- The verb that asks for a call on the stores. -/
def StoreCall.verb : StoreCall → Verb
  | .customers call => call.verb
  | .projects _ call => call.verb
  | .issues _ call => call.verb
  | .comments _ call => call.verb

/-- What a call does to a collection that fulfils it, with the status with which that is shown. -/
theorem Collection.Fulfils.effect [DecidableEq σ] {rows after : Collection σ ο φ} {kind : Kind φ}
    {scope : σ} {call : Call ο φ} {reply : Reply (Row σ ο φ)}
    (fulfilled : rows.Fulfils kind scope call after reply) :
    (call.verb = .get ∧ reply.status = 200 ∧ after = rows) ∨
      (call.verb = .post ∧ reply.status = 201 ∧ rows.Appends scope call after) ∨
        call.verb = .put ∧ reply.status = 200 ∧ rows.Revises scope call after := by
  cases call with
  | list listing =>
    obtain ⟨same, rfl⟩ := fulfilled
    exact .inl ⟨rfl, rfl, same⟩
  | get id =>
    obtain ⟨same, row, -, -, -, rfl⟩ := fulfilled
    exact .inl ⟨rfl, rfl, same⟩
  | create origin fields id now =>
    obtain ⟨appended, rfl⟩ := fulfilled
    exact .inr (.inl ⟨rfl, rfl, appended⟩)
  | update id fields now =>
    obtain ⟨front, old, back, shape, itsScope, itsId, revised, rfl⟩ := fulfilled
    exact .inr (.inr ⟨rfl, rfl, front, old, back, shape, itsScope, itsId, revised⟩)

/-- What a call on one of the stores does to the stores as a whole. -/
theorem Stores.effect_within [DecidableEq σ] {stores after : Stores} {shown : Shown}
    {rows : Collection σ ο φ} {kind : Kind φ} {scope : σ} {call : Call ο φ} {whole : StoreCall}
    (put : Collection σ ο φ → Stores) (shows : Reply (Row σ ο φ) → Shown) (same : put rows = stores)
    (status : ∀ reply, (Presentation.shown (shows reply)).status = reply.status)
    (within : ∀ (change : ∀ {σ ο φ : Type},
        Collection σ ο φ → σ → Call ο φ → Collection σ ο φ → Prop) rows',
      change rows scope call rows' → stores.ChangeOne change whole (put rows'))
    (fulfilled : ∃ rows' reply, rows.Fulfils kind scope call rows' reply ∧ after = put rows' ∧
      shown = shows reply) :
    (call.verb = .get ∧ (Presentation.shown shown).status = 200 ∧ after = stores) ∨
      (call.verb = .post ∧ (Presentation.shown shown).status = 201 ∧
        stores.ChangeOne Collection.Appends whole after) ∨
        call.verb = .put ∧ (Presentation.shown shown).status = 200 ∧
          stores.ChangeOne Collection.Revises whole after := by
  obtain ⟨rows', reply, own, rfl, rfl⟩ := fulfilled
  rw [status]
  rcases own.effect with ⟨verb, shown, rfl⟩ | ⟨verb, shown, changed⟩ | ⟨verb, shown, changed⟩
  · exact .inl ⟨verb, shown, same⟩
  · exact .inr (.inl ⟨verb, shown, within _ _ changed⟩)
  · exact .inr (.inr ⟨verb, shown, within _ _ changed⟩)

/-- What a call does to stores that fulfil it. -/
theorem Stores.Fulfil.effect {stores after : Stores} {call : StoreCall} {shown : Shown}
    (fulfilled : stores.Fulfil call after shown) :
    (call.verb = .get ∧ (Presentation.shown shown).status = 200 ∧ after = stores) ∨
      (call.verb = .post ∧ (Presentation.shown shown).status = 201 ∧
        stores.ChangeOne Collection.Appends call after) ∨
        call.verb = .put ∧ (Presentation.shown shown).status = 200 ∧
          stores.ChangeOne Collection.Revises call after := by
  cases call with
  | customers call =>
    exact effect_within (fun rows => { stores with customers := rows }) .customers rfl
      (Presentation.status_reply _ _) (fun _ _ => .customers) fulfilled
  | projects customer call =>
    exact effect_within (fun rows => { stores with projects := rows }) .projects rfl
      (Presentation.status_reply _ _) (fun _ _ => .projects) fulfilled
  | issues scope call =>
    exact effect_within (fun rows => { stores with issues := rows }) .issues rfl
      (Presentation.status_reply _ _) (fun _ _ => .issues) fulfilled
  | comments scope call =>
    exact effect_within (fun rows => { stores with comments := rows }) .comments rfl
      (Presentation.status_reply _ _) (fun _ _ => .comments) fulfilled

end Store

namespace Api

/-- What is asked for is a call that the verb of the operation asks for. -/
theorem Occasion.Asks.verb_eq {occasion : Occasion} {operation : Operation} {call : StoreCall}
    (asks : occasion.Asks operation call) :
    call.verb = operation.verb := by
  cases asks <;> rfl

/-- No error has the status of a success. -/
theorem ApiError.error_status (error : ApiError) : 400 ≤ error.status := by
  cases error <;> simp [status]

/-- No refusal is answered with the status of a success. -/
theorem Refusal.error_status (refusal : Refusal) : 400 ≤ refusal.status := by
  cases refusal with
  | rejected rejection => cases rejection <;> decide
  | failed error => exact error.error_status

end Api

namespace Service

variable {service : Service} {stores : Stores} {arrival : Arrival} {request : Request}

/-- A request for an operation that is settled without the stores comes to an error. -/
theorem error_of_receiveOperation {operation : Operation} (meant : operation.MeantBy request)
    {outcome : Outcome}
    (received : (service.receiveOperation arrival request operation).reception =
      .settled outcome) :
    400 ≤ outcome.status := by
  rcases service.receiveOperation_cases arrival meant with
    late | ⟨refusal, refused⟩ | ⟨_, _, _, -, -, fetched⟩
  · rw [late] at received
    cases received
    decide
  · rw [refused] at received
    cases received
    rw [Outcome.status, Refusal.status_toResponse]
    exact refusal.error_status
  · rw [fetched] at received
    cases received

/-- A request that is settled without the stores comes to an error, unless it asks what a browser
may do, or how the service is. -/
theorem status_of_settled {outcome : Outcome}
    (received : (service.receive arrival request).reception = .settled outcome) :
    400 ≤ outcome.status ∨
      outcome.status = 200 ∧ request.method ≠ "PUT" := by
  have way := service.isReceivedAs arrival request
  generalize service.receive arrival request = whole at way received
  cases way with
  | tooLong =>
    cases received
    exact .inl (by decide)
  | preflight browser =>
    cases received
    exact .inr ⟨rfl, by rw [browser]; decide⟩
  | unserved failed =>
    cases received
    left
    rcases failed with rfl | rfl <;> decide
  | health reading =>
    cases received
    refine .inr ⟨rfl, ?_⟩
    rintro put
    rw [put] at reading
    cases reading
  | operation meant => exact .inl (error_of_receiveOperation meant received)

/-- A verb is asked for by its method. -/
theorem method_of_meant {operation : Operation} (meant : operation.MeantBy request) :
    (operation.verb = .get → request.method ≠ "PUT") ∧
      (operation.verb = .post → request.method = "POST") ∧
        (operation.verb = .put → request.method = "PUT") := by
  rcases meant.method with own | ⟨head, get⟩
  · rw [own]
    cases operation.verb <;> decide
  · rw [head, get]
    decide

/-- Whether a request asks for a call, in the name of a caller whose token is accepted. -/
def AsksFor (service : Service) (arrival : Arrival) (request : Request) (call : StoreCall) : Prop :=
  ∃ operation token payload, Acceptance service arrival request operation token payload ∧
    (service.occasionOf arrival request operation payload).Asks operation call

/-- What a request does to the stores: nothing; or it appends the row to one of them that it asks to
create, and is answered with 201; or it revises the row of one of them that it asks to update, and
is answered with 200. -/
theorem handle_effect (service : Service) (stores : Stores) (arrival : Arrival)
    (request : Request) :
    ((service.handle stores arrival request).stores = stores ∧
        (400 ≤ (service.handle stores arrival request).response.status ∨
          (service.handle stores arrival request).response.status = 200 ∧
            request.method ≠ "PUT")) ∨
      ∃ call, service.AsksFor arrival request call ∧
        (request.method = "POST" ∧ (service.handle stores arrival request).response.status = 201 ∧
            stores.ChangeOne Collection.Appends call
              (service.handle stores arrival request).stores ∨
          request.method = "PUT" ∧ (service.handle stores arrival request).response.status = 200 ∧
            stores.ChangeOne Collection.Revises call
              (service.handle stores arrival request).stores) := by
  cases received : (service.receive arrival request).reception with
  | settled outcome =>
    left
    rw [handle_of_settled received, status_complete]
    exact ⟨rfl, status_of_settled received⟩
  | errand errand =>
    obtain ⟨operation, token, payload, acceptance, passed⟩ := acceptance_of_errand received
    obtain ⟨-, call, asks, rfl⟩ := Occasion.errand_eq_ok_iff.mp passed
    obtain ⟨reading, creating, updating⟩ := method_of_meant acceptance.meant
    rw [← asks.verb_eq] at reading creating updating
    have handled : service.handle stores arrival request =
        ⟨(stores.run call.errand).1, service.complete arrival request
          (.answered (Presentation.result (stores.run call.errand).2)),
          (service.receive arrival request).providerCalls⟩ := by
      simp only [handle, received]
    have asked : service.AsksFor arrival request call :=
      ⟨operation, token, payload, acceptance, asks⟩
    rw [handled, status_complete]
    rcases stores.run_exact call with
      ⟨-, resource, name, done⟩ | ⟨-, -, resource, done⟩ | ⟨-, -, after, shown, done, fulfilled⟩
    · left
      rw [done]
      exact ⟨rfl, .inl (ApiError.error_status (.ofStore (.conflict resource name)))⟩
    · left
      rw [done]
      exact ⟨rfl, .inl (ApiError.error_status (.ofStore (.notFound resource)))⟩
    · rw [done]
      rcases fulfilled.effect with
        ⟨verb, status, rfl⟩ | ⟨verb, status, changed⟩ | ⟨verb, status, changed⟩
      · exact .inl ⟨rfl, .inr ⟨status, reading verb⟩⟩
      · exact .inr ⟨call, asked, .inl ⟨creating verb, status, changed⟩⟩
      · exact .inr ⟨call, asked, .inr ⟨updating verb, status, changed⟩⟩

/-- Only successful writes write. Whatever stores there are, a request whose method only reads, or
whose response has another status than 200 or 201, leaves all of them as they are. One that is
answered with 201 appends one row to one of them, which is the row that it asks to create. One that
puts something and is answered with 200 replaces one row of one of them in its place, which is the
row that it asks to update, by the same row with the fields that are submitted, as of the time of
the request. -/
theorem only_successes_write (service : Service) (stores : Stores) (arrival : Arrival)
    (request : Request) :
    ((request.method ∈ ["GET", "HEAD", "OPTIONS"] ∨
        (service.handle stores arrival request).response.status ∉ [200, 201]) →
          (service.handle stores arrival request).stores = stores) ∧
      ((service.handle stores arrival request).response.status = 201 →
        ∃ call, service.AsksFor arrival request call ∧ stores.ChangeOne Collection.Appends call
          (service.handle stores arrival request).stores) ∧
        (request.method = "PUT" → (service.handle stores arrival request).response.status = 200 →
          ∃ call, service.AsksFor arrival request call ∧ stores.ChangeOne Collection.Revises call
            (service.handle stores arrival request).stores) := by
  rcases service.handle_effect stores arrival request with
    ⟨same, status⟩ | ⟨call, asked, ⟨post, status, changed⟩ | ⟨put, status, changed⟩⟩
  · refine ⟨fun _ => same, ?_, ?_⟩
    · intro created
      rw [created] at status
      omega
    · intro put updated
      rw [updated] at status
      rcases status with failed | ⟨-, other⟩
      · omega
      · exact absurd put other
  · refine ⟨?_, fun _ => ⟨call, asked, changed⟩, ?_⟩
    · rw [post, status]
      intro reading
      simp at reading
    · intro put
      rw [post] at put
      exact absurd put (by decide)
  · refine ⟨?_, ?_, fun _ _ => ⟨call, asked, changed⟩⟩
    · rw [put, status]
      intro reading
      simp at reading
    · rw [status]
      intro created
      cases created

section Renamed

/-- An author's request, a second later, to give the project with the identifier of zeros another
name. -/
def renamed : Visit :=
  let visit := creationOf 1 "/00000000-0000-0000-0000-000000000000" "\x7b\"name\":\"q\"\x7d"
  { arrival := { visit.arrival with recordedAt := ⟨1, 0⟩ }
    request := { visit.request with method := "PUT" } }

/-- An author's request to create an issue in that project, with or without a subject. -/
def creationUnder (subject : String) : Visit :=
  creationOf 1 "/00000000-0000-0000-0000-000000000000/issues"
    ("\x7b\"subject\":\"" ++ subject ++ "\",\"severity\":\"v\",\"category\":\"c\"\x7d")

/-- What an author asks for is handled as the errand of the operation says. -/
theorem handle_author {visit : Visit} (operation : Operation)
    (judged : visit.arrival.judgedAt = epoch.judgedAt) (meant : operation.MeantBy visit.request)
    (presented : headerText? visit.request.headers "authorization" =
      some ("Bearer " ++ authorToken))
    (short : ¬ DeclaresTooMuch visit.request) (stores : Stores) :
    trusting.handle stores visit.arrival visit.request =
      match (trusting.occasionOf visit.arrival visit.request operation authorPayload).errand
          operation with
      | .error refusal =>
        ⟨stores, trusting.complete visit.arrival visit.request
            (.answered (refusal.toResponse trusting.wording operation visit.request)),
          (trusting.receive visit.arrival visit.request).providerCalls⟩
      | .ok errand =>
        ⟨(stores.run errand).1, trusting.complete visit.arrival visit.request
            (.answered (Presentation.result (stores.run errand).2)),
          (trusting.receive visit.arrival visit.request).providerCalls⟩ := by
  obtain ⟨acceptance, timely⟩ := acceptance_author judged meant presented
  exact handle_of_acceptance acceptance short timely stores

/-- The project gets its name, an issue is created, and nothing is done without a subject. -/
theorem renamed_writes :
    (renamed.request.method = "PUT" ∧
        (trusting.handle oneProject renamed.arrival renamed.request).response.status = 200 ∧
        (∃ call, trusting.AsksFor renamed.arrival renamed.request call ∧
          oneProject.ChangeOne Collection.Revises call
            (trusting.handle oneProject renamed.arrival renamed.request).stores) ∧
        (trusting.handle oneProject renamed.arrival renamed.request).stores =
          { projects := [⟨Uuid.zero, Uuid.zero, (), ⟨"q", "", []⟩, ⟨0, 0⟩, ⟨1, 0⟩⟩] }) ∧
      ((trusting.handle oneProject (creationUnder "s").arrival
          (creationUnder "s").request).response.status = 201 ∧
        (∃ call, trusting.AsksFor (creationUnder "s").arrival (creationUnder "s").request call ∧
          oneProject.ChangeOne Collection.Appends call (trusting.handle oneProject
            (creationUnder "s").arrival (creationUnder "s").request).stores) ∧
        (trusting.handle oneProject (creationUnder "s").arrival
          (creationUnder "s").request).stores =
            { oneProject with issues := [⟨numbered 1, ⟨Uuid.zero, Uuid.zero⟩, ⟨"", "created"⟩,
              ⟨"s", "v", "c", [], ""⟩, ⟨0, 0⟩, ⟨0, 0⟩⟩] }) ∧
      ((trusting.handle oneProject (creationUnder " ").arrival
          (creationUnder " ").request).response.status ∉ [200, 201] ∧
        (trusting.handle oneProject (creationUnder " ").arrival
          (creationUnder " ").request).stores = oneProject) := by
  have updated :
      (trusting.handle oneProject renamed.arrival renamed.request).response.status = 200 ∧
        (trusting.handle oneProject renamed.arrival renamed.request).stores =
          { projects := [⟨Uuid.zero, Uuid.zero, (), ⟨"q", "", []⟩, ⟨0, 0⟩, ⟨1, 0⟩⟩] } := by
    rw [handle_author (.updateProject "00000000-0000-0000-0000-000000000000")
      rfl (by decide +kernel) (by decide +kernel) (by decide +kernel)]
    decide +kernel
  have created : (trusting.handle oneProject (creationUnder "s").arrival
      (creationUnder "s").request).response.status = 201 ∧
      (trusting.handle oneProject (creationUnder "s").arrival (creationUnder "s").request).stores =
        { oneProject with issues := [⟨numbered 1, ⟨Uuid.zero, Uuid.zero⟩, ⟨"", "created"⟩,
          ⟨"s", "v", "c", [], ""⟩, ⟨0, 0⟩, ⟨0, 0⟩⟩] } := by
    rw [handle_author (.createIssue "00000000-0000-0000-0000-000000000000")
      rfl (by decide +kernel) (by decide +kernel) (by decide +kernel)]
    decide +kernel
  have refused : (trusting.handle oneProject (creationUnder " ").arrival
      (creationUnder " ").request).response.status ∉ [200, 201] := by
    rw [handle_author (.createIssue "00000000-0000-0000-0000-000000000000")
      rfl (by decide +kernel) (by decide +kernel) (by decide +kernel)]
    decide +kernel
  obtain ⟨-, -, revises⟩ :=
    only_successes_write trusting oneProject renamed.arrival renamed.request
  obtain ⟨-, appends, -⟩ := only_successes_write trusting oneProject (creationUnder "s").arrival
    (creationUnder "s").request
  obtain ⟨unchanged, -, -⟩ := only_successes_write trusting oneProject (creationUnder " ").arrival
    (creationUnder " ").request
  exact ⟨⟨rfl, updated.1, revises rfl updated.1, updated.2⟩,
    ⟨created.1, appends created.1, created.2⟩, refused, unchanged (.inr refused)⟩

end Renamed

end Service

end IssueTracker

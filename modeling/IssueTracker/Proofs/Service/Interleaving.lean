import IssueTracker.Proofs.Service.Visits
import IssueTracker.Proofs.Store.Persistence
import Mathlib.Data.List.Dedup
import Mathlib.Data.List.FinRange
import Mathlib.Logic.Function.Basic

/-!
# Requests at the same time

Several requests are under way at once, and each step that one of them takes in the stores may come
between two steps of any other. Whatever the interleaving, the responses and the final stores are
those of handling the requests whole, one after another, in the order of their last steps. All but
the last step of a request only look up parents, and what they find is still so at the last step;
so the whole request might as well have been handled then.
-/

namespace IssueTracker

open Api Http Store

/-- Where a request stands. -/
inductive Standing
  /-- The stores are yet to be asked for something. -/
  | underway (errand : Errand)
  | answered (response : Response)

/-- Whether the stores are yet to be asked for something. -/
def Standing.isUnderway : Standing → Bool
  | .underway _ => true
  | .answered _ => false

/-- The stores at some point in time, and where each of the requests stands. -/
structure Moment (n : Nat) where
  stores : Stores
  standing : Fin n → Standing

/-- Whether every request is answered. -/
def Moment.IsSettled {n : Nat} (moment : Moment n) : Prop :=
  ∀ i, ∃ response, moment.standing i = .answered response

namespace Service

variable {n : Nat}

/-- Where a request stands before it takes a step in the stores. -/
def arrive (service : Service) (visit : Visit) : Standing :=
  match (service.receive visit.arrival visit.request).reception with
  | .settled outcome => .answered (service.complete visit.arrival visit.request outcome)
  | .errand errand => .underway errand

/-- Where a request stands after a step. -/
def proceed (service : Service) (visit : Visit) : Progress → Standing
  | .pending rest => .underway rest
  | .finished result =>
    .answered
      (service.complete visit.arrival visit.request (.answered (Presentation.result result)))

/-- All requests before their first steps. -/
def begin (service : Service) (visits : Fin n → Visit) (stores : Stores) : Moment n :=
  ⟨stores, fun i => service.arrive (visits i)⟩

/-- Let a request take its next step, if it has one to take. -/
def step? (service : Service) (visits : Fin n → Visit) (moment : Moment n) (i : Fin n) :
    Option (Moment n) :=
  match moment.standing i with
  | .answered _ => none
  | .underway errand =>
    let (after, progress) := moment.stores.step errand
    some ⟨after, Function.update moment.standing i (service.proceed (visits i) progress)⟩

/-- Let requests take steps as a schedule says, if each has one to take when its turn comes. -/
def run? (service : Service) (visits : Fin n → Visit) (moment : Moment n) :
    List (Fin n) → Option (Moment n)
  | [] => some moment
  | i :: schedule =>
    (service.step? visits moment i).bind fun next => service.run? visits next schedule

/-- Handle requests whole, one after another. -/
def serve (service : Service) (visits : Fin n → Visit) (stores : Stores) :
    List (Fin n) → Stores × List Response
  | [] => (stores, [])
  | i :: order =>
    let handled := service.handle stores (visits i).arrival (visits i).request
    let (last, responses) := service.serve visits handled.stores order
    (last, handled.response :: responses)

/-- Whether a request takes steps in the stores at all. -/
def asks (service : Service) (visits : Fin n → Visit) (i : Fin n) : Bool :=
  (service.arrive (visits i)).isUnderway

/-- An order of all requests in which those that take steps stand as their last steps do in a
schedule. The others stand anywhere. -/
structure IsSerialOrder (service : Service) (visits : Fin n → Visit)
    (schedule order : List (Fin n)) : Prop where
  all : order.Perm (List.finRange n)
  /-- Without its repetitions, a list keeps the last occurrence of each item. -/
  lastSteps : order.filter (service.asks visits) = schedule.dedup

/-- Whether each errand under way remains of the errand of its request. -/
def IsFaithful (service : Service) (visits : Fin n → Visit) (moment : Moment n) : Prop :=
  ∀ i rest, moment.standing i = .underway rest →
    ∃ errand, service.arrive (visits i) = .underway errand ∧ moment.stores.Continues errand rest

section Handling

variable {service : Service} {visit : Visit} {stores after : Stores}

/-- A request that is settled without the stores is handled so, whatever they hold. -/
theorem handle_of_answered {response : Response}
    (settled : service.arrive visit = .answered response) (stores : Stores) :
    (service.handle stores visit.arrival visit.request).stores = stores ∧
      (service.handle stores visit.arrival visit.request).response = response := by
  unfold arrive at settled
  unfold handle
  split at settled
  · next outcome received =>
    cases settled
    simp only [received, and_self]
  · cases settled

/-- A request that has an errand is handled by running it. -/
theorem handle_of_underway {errand : Errand} {result : Except StoreError Shown}
    (underway : service.arrive visit = .underway errand)
    (ran : stores.run errand = (after, result)) :
    (service.handle stores visit.arrival visit.request).stores = after ∧
      .answered (service.handle stores visit.arrival visit.request).response =
        service.proceed visit (.finished result) := by
  unfold arrive at underway
  unfold handle
  split at underway
  · cases underway
  · next own received =>
    cases underway
    simp only [received, ran, proceed, and_self]

end Handling

section Steps

variable {service : Service} {visits : Fin n → Visit} {moment next final : Moment n} {i : Fin n}
  {schedule : List (Fin n)} {stores : Stores}

/-- Before the first steps every errand is whole. -/
theorem isFaithful_begin : service.IsFaithful visits (service.begin visits stores) :=
  fun _ errand underway => ⟨errand, underway, stores.continues_refl errand⟩

/-- What a step does: it has taken what was next to be done of an errand, and no other request is
touched by it. -/
theorem step?_eq_some (stepped : service.step? visits moment i = some next) :
    ∃ rest progress, moment.standing i = .underway rest ∧
      moment.stores.step rest = (next.stores, progress) ∧
      next.standing = Function.update moment.standing i (service.proceed (visits i) progress) := by
  unfold step? at stepped
  split at stepped
  · cases stepped
  · next rest underway =>
    cases stepped
    exact ⟨rest, (moment.stores.step rest).2, underway, rfl, rfl⟩

/-- A step leaves every errand under way a remainder of that of its request. -/
theorem IsFaithful.step (faithful : service.IsFaithful visits moment)
    (stepped : service.step? visits moment i = some next) :
    service.IsFaithful visits next := by
  obtain ⟨own, progress, underway, taken, standing⟩ := step?_eq_some stepped
  have persist : moment.stores.Persist next.stores := by
    simpa [taken] using moment.stores.persist_step own
  intro j rest remains
  by_cases same : j = i
  · subst same
    obtain ⟨errand, admitted, continues⟩ := faithful j own underway
    rw [standing, Function.update_self] at remains
    cases progress with
    | finished result => cases remains
    | pending more =>
      cases remains
      exact ⟨errand, admitted, (continues.of_pending taken).of_persist persist⟩
  · rw [standing, Function.update_of_ne same] at remains
    obtain ⟨errand, admitted, continues⟩ := faithful j rest remains
    exact ⟨errand, admitted, continues.of_persist persist⟩

/-- A step is the last one of its request, and does all that handling the request would do now; or
it is not the last one, and does nothing to the stores. -/
theorem step_last_or_pending (faithful : service.IsFaithful visits moment)
    (stepped : service.step? visits moment i = some next) :
    (∃ rest, next.standing i = .underway rest ∧ next.stores = moment.stores) ∨
      ((service.handle moment.stores (visits i).arrival (visits i).request).stores = next.stores ∧
        next.standing i = .answered
          (service.handle moment.stores (visits i).arrival (visits i).request).response) := by
  obtain ⟨own, progress, underway, taken, standing⟩ := step?_eq_some stepped
  obtain ⟨errand, admitted, continues⟩ := faithful i own underway
  cases progress with
  | pending rest =>
    left
    refine ⟨rest, ?_, (Stores.step_of_pending taken).1⟩
    rw [standing, Function.update_self]
    rfl
  | finished result =>
    right
    obtain ⟨after, response⟩ := handle_of_underway admitted (continues.run_of_finished taken)
    refine ⟨after, ?_⟩
    rw [standing, Function.update_self, response]

/-- A schedule leaves the requests alone that are not on it. -/
theorem standing_of_not_mem (ran : service.run? visits moment schedule = some final)
    (absent : i ∉ schedule) :
    final.standing i = moment.standing i := by
  induction schedule generalizing moment with
  | nil =>
    cases ran
    rfl
  | cons j schedule inductionHypothesis =>
    obtain ⟨next, stepped, rest⟩ := Option.bind_eq_some_iff.mp ran
    obtain ⟨_, _, _, _, standing⟩ := step?_eq_some stepped
    simp only [List.mem_cons, not_or] at absent
    rw [inductionHypothesis rest absent.2, standing, Function.update_of_ne absent.1]

/-- A schedule that settles every request has exactly those on it that were under way. -/
theorem mem_schedule_iff (ran : service.run? visits moment schedule = some final)
    (settled : final.IsSettled) :
    i ∈ schedule ↔ (moment.standing i).isUnderway = true := by
  induction schedule generalizing moment with
  | nil =>
    cases ran
    obtain ⟨response, answered⟩ := settled i
    simp [answered, Standing.isUnderway]
  | cons j schedule inductionHypothesis =>
    obtain ⟨next, stepped, rest⟩ := Option.bind_eq_some_iff.mp ran
    obtain ⟨own, _, underway, _, standing⟩ := step?_eq_some stepped
    by_cases same : i = j
    · subst same
      simp [underway, Standing.isUnderway]
    · simp [same, inductionHypothesis rest, standing]

/-- Handling the requests under way whole, in the order of their last steps, does what their
interleaved steps do. The induction is on the schedule: a step that is not the last one of its
request is as if it were not taken, and the last one is as if the request were handled then. -/
theorem serve_dedup (faithful : service.IsFaithful visits moment)
    (ran : service.run? visits moment schedule = some final) (settled : final.IsSettled) :
    (service.serve visits moment.stores schedule.dedup).1 = final.stores ∧
      (service.serve visits moment.stores schedule.dedup).2.map Standing.answered =
        schedule.dedup.map final.standing := by
  induction schedule generalizing moment with
  | nil =>
    cases ran
    simp [serve]
  | cons i schedule inductionHypothesis =>
    obtain ⟨next, stepped, rest⟩ := Option.bind_eq_some_iff.mp ran
    obtain ⟨ending, standings⟩ := inductionHypothesis (faithful.step stepped) rest
    have further := mem_schedule_iff (i := i) rest settled
    rcases step_last_or_pending faithful stepped with ⟨more, underway, same⟩ | ⟨after, answered⟩
    · have again : i ∈ schedule := further.mpr (by simp [underway, Standing.isUnderway])
      rw [List.dedup_cons_of_mem again, ← same]
      exact ⟨ending, standings⟩
    · have last : i ∉ schedule := by simp [further, answered, Standing.isUnderway]
      have response := standing_of_not_mem rest last
      rw [List.dedup_cons_of_notMem last]
      simp only [serve, after, List.map_cons, ending, standings, response, answered, and_self]

/-- Requests that take no steps in the stores may be handled anywhere among the others. -/
theorem serve_of_filter {order : List (Fin n)} {standing : Fin n → Standing} {last : Stores}
    (untouched : ∀ i, service.asks visits i = false → standing i = service.arrive (visits i))
    (done : (service.serve visits stores (order.filter (service.asks visits))).1 = last)
    (responses : (service.serve visits stores (order.filter (service.asks visits))).2.map
      Standing.answered = (order.filter (service.asks visits)).map standing) :
    (service.serve visits stores order).1 = last ∧
      (service.serve visits stores order).2.map Standing.answered = order.map standing := by
  induction order generalizing stores with
  | nil => simpa [serve] using done
  | cons i order inductionHypothesis =>
    cases asking : service.asks visits i with
    | true =>
      rw [List.filter_cons_of_pos asking] at done responses
      simp only [serve, List.map_cons, List.cons.injEq] at done responses
      obtain ⟨ending, others⟩ := inductionHypothesis done responses.2
      simp only [serve, List.map_cons, ending, others, responses.1, and_self]
    | false =>
      rw [List.filter_cons_of_neg (by simp [asking])] at done responses
      obtain ⟨ending, others⟩ := inductionHypothesis done responses
      cases admitted : service.arrive (visits i) with
      | underway errand => simp [asks, admitted, Standing.isUnderway] at asking
      | answered response =>
        obtain ⟨same, own⟩ := handle_of_answered admitted stores
        have before := untouched i asking
        simp only [serve, List.map_cons, same, ending, others, own, before, admitted, and_self]

/-- There is an order of all requests that a schedule calls for. -/
theorem exists_isSerialOrder
    (ran : service.run? visits (service.begin visits stores) schedule = some final)
    (settled : final.IsSettled) :
    ∃ order, service.IsSerialOrder visits schedule order := by
  have member (i : Fin n) : i ∈ schedule ↔ service.asks visits i = true :=
    mem_schedule_iff ran settled
  refine ⟨schedule.dedup ++ (List.finRange n).filter (!service.asks visits ·), ?_, ?_⟩
  · have distinct :
        (schedule.dedup ++ (List.finRange n).filter (!service.asks visits ·)).Nodup := by
      refine List.Nodup.append (List.nodup_dedup _) ((List.nodup_finRange n).filter _) ?_
      intro i first second
      rw [List.mem_dedup, member] at first
      simp [first] at second
    refine (List.perm_ext_iff_of_nodup distinct (List.nodup_finRange n)).mpr fun i => ?_
    cases asking : service.asks visits i <;> simp [member, asking]
  · rw [List.filter_append, List.filter_eq_self.mpr (by simp [member]), List.filter_filter]
    simp

end Steps

/-- Concurrent requests are serialisable. Whatever stores there are and however the steps of any
number of requests are interleaved until all are answered, the responses and the final stores are
those of handling the requests whole, one after another, in the order of their last steps, with
those that take no step in the stores put anywhere. -/
theorem interleaving_serializable (service : Service) (visits : Fin n → Visit) (stores : Stores)
    (schedule : List (Fin n)) (final : Moment n)
    (ran : service.run? visits (service.begin visits stores) schedule = some final)
    (settled : final.IsSettled) :
    (∃ order, service.IsSerialOrder visits schedule order) ∧
      ∀ order, service.IsSerialOrder visits schedule order →
        (service.serve visits stores order).1 = final.stores ∧
          (service.serve visits stores order).2.map Standing.answered =
            order.map final.standing := by
  refine ⟨exists_isSerialOrder ran settled, fun order serial => ?_⟩
  obtain ⟨last, responses⟩ := serve_dedup isFaithful_begin ran settled
  refine serve_of_filter ?_ (by rw [serial.lastSteps]; exact last)
    (by rw [serial.lastSteps]; exact responses)
  intro i silent
  have absent : i ∉ schedule := by
    rw [mem_schedule_iff ran settled]
    exact Bool.not_eq_true _ ▸ silent
  exact standing_of_not_mem ran absent

section Crossing

/-- A token that is good for the first second of 1970, and grants writing issues. -/
def writerToken : String :=
  "eyJhbGciOiJSUzI1NiJ9"
    ++ ".eyJpc3MiOiJpc3N1ZXIiLCJleHAiOjEsInNjb3BlIjoidHJhY2tlci9pc3N1ZS53cml0ZSJ9"
    ++ ".c2ln"

/-- A writer's request about the issues of the project with the identifier of zeros. -/
def issuesRequest (method : String) (body : Bytes) : Request where
  method := method
  path := "/api/v1/projects/00000000-0000-0000-0000-000000000000/issues"
  query := ""
  headers := [.ofText "authorization" ("Bearer " ++ writerToken),
    .ofText "content-type" "application/json"]
  body := body

/-- One request creates an issue, one lists the issues, and one asks whether the service is well. -/
def crossing : Fin 3 → Visit
  | 0 => ⟨epoch, issuesRequest "POST"
      (Utf8.encode "\x7b\"subject\":\"s\",\"severity\":\"v\",\"category\":\"c\"\x7d")⟩
  | 1 => ⟨epoch, issuesRequest "GET" []⟩
  | 2 => ⟨epoch, ⟨"GET", "/api/v1/health", "", [], []⟩⟩

/-- Stores with that project and nothing else. -/
def oneProject : Stores :=
  { projects := [⟨Uuid.zero, Uuid.zero, (), ⟨"p", "", []⟩, ⟨0, 0⟩, ⟨0, 0⟩⟩] }

/-- What is found to have no request under way is settled. -/
theorem exists_settled {moment? : Option (Moment n)}
    (checked : (moment?.any fun moment =>
      (List.finRange n).all fun i => !(moment.standing i).isUnderway) = true) :
    ∃ moment, moment? = some moment ∧ moment.IsSettled := by
  cases moment? with
  | none => cases checked
  | some moment =>
    refine ⟨moment, rfl, fun i => ?_⟩
    have answered : (moment.standing i).isUnderway = false := by
      simpa using List.all_eq_true.mp checked i (List.mem_finRange i)
    cases standing : moment.standing i with
    | underway errand => simp [standing, Standing.isUnderway] at answered
    | answered response => exact ⟨response, rfl⟩

/-- Both requests look the project up before either is done, and the issues are listed before the
one is created that was asked for first. That is as if they had been listed first. -/
theorem crossing_serialized :
    ∃ final, trusting.run? crossing (trusting.begin crossing oneProject) [0, 1, 1, 0] = some final ∧
      final.IsSettled ∧ trusting.IsSerialOrder crossing [0, 1, 1, 0] [1, 2, 0] ∧
        (trusting.serve crossing oneProject [1, 2, 0]).1 = final.stores ∧
          (trusting.serve crossing oneProject [1, 2, 0]).2.map Standing.answered =
            [1, 2, 0].map final.standing := by
  have checked : ((trusting.run? crossing (trusting.begin crossing oneProject) [0, 1, 1, 0]).any
      fun moment => (List.finRange 3).all fun i => !(moment.standing i).isUnderway) = true := by
    decide +kernel
  obtain ⟨final, ran, settled⟩ := exists_settled checked
  have serial : trusting.IsSerialOrder crossing [0, 1, 1, 0] [1, 2, 0] :=
    ⟨by decide, by decide +kernel⟩
  have serialized := interleaving_serializable trusting crossing oneProject [0, 1, 1, 0] final ran
    settled
  exact ⟨final, ran, settled, serial, serialized.2 [1, 2, 0] serial⟩

end Crossing

end Service

end IssueTracker

import IssueTracker.Proofs.Service.Admission

/-!
# The headers of responses

What is answered to a request has no headers of its own but the type of its body. All others are
added for all responses alike: under names that are known beforehand, and the permission to call
from another origin. That one every response has that is not given up and not refused for the length
of the body, since only these are settled before anybody asks where a call comes from.
-/

namespace IssueTracker

open Api Auth Http Store

namespace Http

/-- The names of the headers that responses have, but for the permission to call. -/
def usualNames : List String := [
  "content-type", "x-request-id", "allow", "vary", "x-frame-options", "content-security-policy",
  "x-content-type-options", "referrer-policy", "cache-control", "access-control-expose-headers",
  "access-control-allow-methods", "access-control-allow-headers", "access-control-max-age"]

namespace Response

variable {response : Response} {header : Header}

/-- Whether a response has no headers but the type of its body. -/
def IsPlain (response : Response) : Prop :=
  ∀ header ∈ response.headers, header.name = "content-type"

theorem isPlain_empty (status : Nat) : (empty status).IsPlain := by simp [IsPlain, empty]

theorem isPlain_json (status : Nat) (value : Json) : (json status value).IsPlain := by
  simp [IsPlain, json, Header.ofText]

theorem isPlain_text (status : Nat) (value : String) : (text status value).IsPlain := by
  simp [IsPlain, text, Header.ofText]

/-- Headers that are added where they are absent come from there. -/
theorem mem_addIfAbsent {added : List Header}
    (member : header ∈ (added.foldl addIfAbsent response).headers) :
    header ∈ response.headers ∨ header ∈ added := by
  induction added generalizing response with
  | nil => exact .inl member
  | cons first rest inductionHypothesis =>
    rcases inductionHypothesis member with earlier | later
    · unfold addIfAbsent at earlier
      split at earlier
      · exact .inl earlier
      · rcases List.mem_append.mp earlier with own | new
        · exact .inl own
        · obtain rfl := List.mem_singleton.mp new
          exact .inr List.mem_cons_self
    · exact .inr (List.mem_cons_of_mem _ later)

end Response

end Http

/-- A refusal is a plain response. -/
theorem Api.Refusal.isPlain_toResponse (wording : Wording) (operation : Operation)
    (request : Request) (refusal : Refusal) :
    (refusal.toResponse wording operation request).IsPlain := by
  cases refusal with
  | rejected rejection => exact Response.isPlain_text _ _
  | failed error => exact Response.isPlain_json _ _

/-- The response to what the stores come to is a plain one. -/
theorem Api.Presentation.isPlain_result (result : Except StoreError Shown) :
    (Presentation.result result).IsPlain := by
  cases result with
  | error refusal => exact Response.isPlain_json _ _
  | ok shown =>
    rcases shown with reply | reply | reply | reply <;> cases reply <;>
      exact Response.isPlain_json _ _

/-- Whether an outcome that is a response is a plain one. -/
def Outcome.IsPlain : Outcome → Prop
  | .answered response => response.IsPlain
  | .tooLong | .preflight | .late => True

namespace Service

variable {service : Service} {arrival : Arrival} {request : Request} {outcome : Outcome}
  {header : Header}

/-- A request is settled with a plain response. -/
theorem isPlain_of_settled
    (received : (service.receive arrival request).reception = .settled outcome) :
    outcome.IsPlain := by
  have way := service.isReceivedAs arrival request
  generalize service.receive arrival request = whole at way received
  cases way with
  | tooLong | preflight =>
    cases received
    trivial
  | unserved =>
    cases received
    exact Response.isPlain_empty _
  | health =>
    cases received
    exact Response.isPlain_json _ _
  | operation meant =>
    rcases service.receiveOperation_cases arrival meant with
      late | ⟨refusal, refused⟩ | ⟨_, _, _, -, -, fetched⟩
    · cases received.symm.trans late
      trivial
    · cases received.symm.trans refused
      exact refusal.isPlain_toResponse _ _ _
    · cases received.symm.trans fetched

/-- A request is refused for the length of its body only if it declares too much. -/
theorem declaresTooMuch_of_settled
    (received : (service.receive arrival request).reception = .settled .tooLong) :
    DeclaresTooMuch request := by
  have way := service.isReceivedAs arrival request
  generalize service.receive arrival request = whole at way received
  cases way with
  | tooLong declared => exact declared
  | preflight | unserved | health => cases received
  | operation meant =>
    rcases service.receiveOperation_cases arrival meant with
      other | ⟨_, other⟩ | ⟨_, _, _, -, -, other⟩ <;> cases received.symm.trans other

/-- Every request comes to an outcome with a plain response. It is refused for the length of its
body only if it declares too much. -/
theorem exists_outcome (service : Service) (stores : Stores) (arrival : Arrival)
    (request : Request) :
    ∃ outcome : Outcome, outcome.IsPlain ∧
      (service.handle stores arrival request).response =
        service.complete arrival request outcome ∧
      (outcome = .tooLong → DeclaresTooMuch request) := by
  cases received : (service.receive arrival request).reception with
  | errand errand =>
    refine ⟨.answered _, Presentation.isPlain_result (stores.run errand).2, ?_, nofun⟩
    simp only [handle, received]
  | settled outcome =>
    refine ⟨outcome, isPlain_of_settled received, ?_, ?_⟩
    · rw [handle_of_settled received]
    · rintro rfl
      exact declaresTooMuch_of_settled received

/-- What is added to all responses has usual names, but for the permission. -/
theorem mem_headers_complete (plain : outcome.IsPlain)
    (member : header ∈ (service.complete arrival request outcome).headers) :
    header.name ∈ usualNames ∨ header ∈ service.cors.permission request.headers := by
  have name : (requestName arrival request).name ∈ usualNames := by
    simp [requestName, usualNames]
  have allowed : ∀ header ∈ allowance request, header.name ∈ usualNames := by
    unfold allowance
    split
    · split <;> simp [Header.ofText, usualNames]
    · simp
  have secure : ∀ header ∈ securityHeaders, header.name ∈ usualNames := by decide
  simp only [complete, headers_bareOrNot, Response.add, List.mem_append] at member
  rcases member with member | member
  · cases outcome with
    | late => cases member
    | tooLong =>
      left
      rcases List.mem_append.mp member with own | added
      · rw [Response.isPlain_text 413 _ header own]
        decide
      · rw [List.mem_singleton.mp added]
        exact name
    | preflight =>
      simp only [CorsPolicy.preflight, Response.add, Response.empty, List.nil_append,
        List.mem_append, List.mem_cons, List.not_mem_nil, or_false] at member
      rcases member with (granted | rfl | rfl | rfl | rfl) | rfl
      · exact .inr granted
      all_goals first | exact .inl name | exact .inl (by decide)
    | answered response =>
      simp only [CorsPolicy.apply, Response.add, List.mem_append, List.mem_cons,
        List.not_mem_nil, or_false] at member
      rcases member with (own | granted | rfl | rfl) | rfl
      · left
        rcases Response.mem_addIfAbsent own with before | added
        · rw [plain header before]
          decide
        · exact secure header added
      · exact .inr granted
      all_goals first | exact .inl name | exact .inl (by decide)
  · exact .inl (allowed header member)

/-- The permission is in every response that is not given up and not refused for its length. -/
theorem permission_mem_complete (member : header ∈ service.cors.permission request.headers)
    (fits : outcome ≠ .tooLong) (timely : outcome ≠ .late) :
    header ∈ (service.complete arrival request outcome).headers := by
  simp only [complete, headers_bareOrNot]
  cases outcome with
  | late => exact absurd rfl timely
  | tooLong => exact absurd rfl fits
  | preflight => simp [CorsPolicy.preflight, Response.add, member]
  | answered response => simp [CorsPolicy.apply, Response.add, member]

end Service

end IssueTracker

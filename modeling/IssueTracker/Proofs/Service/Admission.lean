import IssueTracker.Proofs.Service.Reception

/-!
# Who reaches the stores

A request is authorised if it means a guarded route, presents a credential, the credential is
accepted, and it grants a scope that the route requires. This says nothing of how the service
finds that out, nor of anything it checks besides. Whoever is not authorised changes no store, and
is answered the same whatever the stores hold.
-/

namespace IssueTracker

open Api Auth Http Store

/-- What makes a request authorised, with the route that it means, the token that it presents and
the payload that is accepted. -/
structure Admission (service : Service) (arrival : Arrival) (request : Request) (route : Route)
    (token : String) (payload : TokenPayload) : Prop where
  guarded : route ∈ Route.guarded
  serves : route.Serves request.method request.path
  presented : headerText? request.headers "authorization" =
    some (service.access.scheme ++ " " ++ token)
  nonempty : token ≠ ""
  accepted : (service.access.validator.validateAt service.access.provider arrival.judgedAt
    token).result = .ok payload
  granted : ∃ scope ∈ splitScopes payload.scope, scope ∈ route.required

/-- Whether a request is authorised. -/
def Authorised (service : Service) (arrival : Arrival) (request : Request) : Prop :=
  ∃ route token payload, Admission service arrival request route token payload

namespace Service

variable {service : Service} {arrival : Arrival} {request : Request}

/-- An accepted request is authorised if a scope is granted that its operation requires. -/
theorem authorised_of_acceptance {operation : Operation} {token : String} {payload : TokenPayload}
    (acceptance : Acceptance service arrival request operation token payload)
    (granted : ∃ scope ∈ splitScopes payload.scope, scope ∈ operation.required) :
    Authorised service arrival request := by
  obtain ⟨route, guarded, serves, required⟩ := acceptance.meant.exists_serves
  rw [← required] at granted
  exact ⟨route, token, payload, guarded, serves, acceptance.presented, acceptance.nonempty,
    acceptance.accepted, granted⟩

/-- A request that has an errand is authorised. -/
theorem authorised_of_errand {errand : Errand}
    (received : (service.receive arrival request).reception = .errand errand) :
    Authorised service arrival request := by
  obtain ⟨operation, token, payload, acceptance, passed⟩ := acceptance_of_errand received
  apply authorised_of_acceptance acceptance
  exact authorize_occasionOf.mp (Occasion.authorize_of_errand passed)

/-- A request that is not authorised leaves the stores as they are, and its response is the same
for all contents of the stores. -/
theorem unauthorised_confined (service : Service) (arrival : Arrival) (request : Request)
    (refused : ¬ Authorised service arrival request) :
    (∀ stores, (service.handle stores arrival request).stores = stores) ∧
      ∀ one other, (service.handle one arrival request).response =
        (service.handle other arrival request).response := by
  cases received : (service.receive arrival request).reception with
  | errand errand => exact absurd (authorised_of_errand received) refused
  | settled outcome =>
    constructor
    · intro stores
      rw [handle_of_settled received]
    · intro one other
      rw [handle_of_settled received, handle_of_settled received]

/-- A service whose provider vouches for every payload that can be decoded. -/
def trusting : Service where
  access := {
    scheme := "Bearer"
    validator := ⟨"issuer", none, ["RS256"], Duration.ofSeconds 5⟩
    provider token :=
      ⟨(Envelope.decodePayload token).mapError fun _ => .signatureMismatch, Duration.zero⟩ }
  cors := .any
  tenant := Uuid.zero

/-- Everything at the start of 1970. -/
def epoch : Arrival := ⟨⟨0, 0⟩, ⟨0, 0⟩, Uuid.zero, "first"⟩

/-- A token that is good for the first second of 1970, and grants reading customers. -/
def readerToken : String :=
  "eyJhbGciOiJSUzI1NiJ9"
    ++ ".eyJpc3MiOiJpc3N1ZXIiLCJleHAiOjEsInNjb3BlIjoidHJhY2tlci9jdXN0b21lci5yZWFkIn0"
    ++ ".c2ln"

/-- The payload of that token. -/
def readerPayload : TokenPayload where
  subject := ""
  tokenUse := ""
  scope := "tracker/customer.read"
  authTime := none
  issuer := "issuer"
  expires := ⟨1, 0⟩
  issuedAt := none
  version := 0
  tokenId := ""
  clientId := ""

/-- The reader's token is accepted at once. -/
theorem readerToken_accepted :
    (trusting.access.validator.validateAt trusting.access.provider epoch.judgedAt
        readerToken).result = .ok readerPayload ∧
      trusting.waited epoch readerToken ≤ deadline := by
  decide +kernel

/-- A reader's request to create a customer. -/
def readersCreation : Request where
  method := "POST"
  path := "/api/v1/customers"
  query := ""
  headers := [.ofText "authorization" ("Bearer " ++ readerToken),
    .ofText "content-type" "application/json"]
  body := Utf8.encode "\x7b\"name\":\"n\",\"description\":\"d\"\x7d"

/-- The reader's token is accepted, but grants nothing that any route for creating requires. -/
theorem readersCreation_refused : ¬ Authorised trusting epoch readersCreation := by
  rintro ⟨route, token, payload, admission⟩
  have sent : headerText? readersCreation.headers "authorization" =
      some ("Bearer " ++ readerToken) := by decide +kernel
  have known : token = readerToken := by
    have same := sent.symm.trans admission.presented
    rw [Option.some.injEq, ← String.toList_inj] at same
    have letters : token.toList = readerToken.toList := by simpa [trusting] using same.symm
    exact String.toList_inj.mp letters
  have claimed : payload = readerPayload := by
    have accepted := admission.accepted
    rw [known, readerToken_accepted.1] at accepted
    exact (Except.ok.inj accepted).symm
  obtain ⟨scope, granted, required⟩ := admission.granted
  have only : splitScopes readerPayload.scope = ["tracker/customer.read"] := by decide +kernel
  rw [claimed, only, List.mem_singleton] at granted
  have writing : ∀ route ∈ Route.guarded, route.method = "POST" →
      "tracker/customer.read" ∉ route.required := by decide +kernel
  have posted : route.method = "POST" := by
    rcases admission.serves.method with own | ⟨reading, -⟩
    · exact own.symm
    · exact absurd reading (by decide)
  exact writing route admission.guarded posted (granted ▸ required)

/-- Who may read customers creates none, and learns nothing of those there are. -/
theorem readersCreation_confined :
    ¬ Authorised trusting epoch readersCreation ∧
      (∀ stores, (trusting.handle stores epoch readersCreation).stores = stores) ∧
        ∀ one other, (trusting.handle one epoch readersCreation).response =
          (trusting.handle other epoch readersCreation).response :=
  ⟨readersCreation_refused,
    unauthorised_confined trusting epoch readersCreation readersCreation_refused⟩

end Service

end IssueTracker

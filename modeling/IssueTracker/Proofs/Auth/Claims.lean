import IssueTracker.Proofs.Auth.Inspection
import IssueTracker.Proofs.Json.Records

/-!
# What claims are read as

Each claim is read from the value that is given for it, and from nothing else. Where none is given
for a claim that is a text, the claim is empty.
-/

namespace IssueTracker.Auth

/-- Claims that are the values given for a record, each read by itself. -/
structure TokenPayload.TakenFrom (given : Json.Given) (payload : TokenPayload) : Prop where
  subject : given.readOr "sub" Json.asText "" = .ok payload.subject
  tokenUse : given.readOr "token_use" Json.asText "" = .ok payload.tokenUse
  scope : given.readOr "scope" Json.asText "" = .ok payload.scope
  authTime : given.readOr "auth_time" (Json.asOptional asInstant) none = .ok payload.authTime
  issuer : given.readOr "iss" Json.asText "" = .ok payload.issuer
  expires : given.read "exp" asInstant = .ok payload.expires
  issuedAt : given.readOr "iat" (Json.asOptional asInstant) none = .ok payload.issuedAt
  version : given.readOr "version" asWord 0 = .ok payload.version
  tokenId : given.readOr "jti" Json.asText "" = .ok payload.tokenId
  clientId : given.readOr "client_id" Json.asText "" = .ok payload.clientId

section Taken

variable {given : Json.Given} {payload : TokenPayload} {bytes : Bytes}

/-- Claims are read from values exactly if they are taken from them. -/
theorem ofGiven_eq_ok_iff : TokenPayload.ofGiven given = .ok payload ↔ payload.TakenFrom given := by
  simp only [TokenPayload.ofGiven, Except.bind_eq_ok]
  constructor
  · rintro ⟨_, subject, _, tokenUse, _, scope, _, authTime, _, issuer, _, expires, _, issuedAt, _,
      version, _, tokenId, _, clientId, built⟩
    cases built
    exact ⟨subject, tokenUse, scope, authTime, issuer, expires, issuedAt, version, tokenId,
      clientId⟩
  · rintro ⟨subject, tokenUse, scope, authTime, issuer, expires, issuedAt, version, tokenId,
      clientId⟩
    exact ⟨_, subject, _, tokenUse, _, scope, _, authTime, _, issuer, _, expires, _, issuedAt, _,
      version, _, tokenId, _, clientId, rfl⟩

/-- The octets of claims are a whole JSON text, of a record that the claims are taken from. -/
theorem ofBytes_taken_iff :
    TokenPayload.ofBytes bytes = .ok payload ↔
      (Json.read bytes).complete = true ∧
        ∃ given, Json.asRecord TokenPayload.fields (Json.read bytes).root = .ok given ∧
          payload.TakenFrom given := by
  rw [ofBytes_eq_ok_iff, Json.decode_eq_ok_iff, and_comm]
  simp only [← ofGiven_eq_ok_iff]
  exact and_congr_right fun _ => Except.bind_eq_ok

/-- A text that is not given for a claim is empty. -/
theorem readOr_of_lacks {name text : String}
    (lacking : Json.Lacks TokenPayload.fields name (Json.read bytes).root)
    (known : Json.IsFieldName TokenPayload.fields name)
    (record : Json.asRecord TokenPayload.fields (Json.read bytes).root = .ok given)
    (read : given.readOr name Json.asText "" = .ok text) :
    text = "" := by
  rw [Json.Given.readOr_eq, lacking.value?_eq_none known record] at read
  cases read
  rfl

/-- The issuer is empty if it is absent. -/
theorem issuer_of_lacks (read : TokenPayload.ofBytes bytes = .ok payload)
    (lacking : Json.Lacks TokenPayload.fields "iss" (Json.read bytes).root) :
    payload.issuer = "" := by
  obtain ⟨-, given, record, taken⟩ := ofBytes_taken_iff.mp read
  have known : Json.IsFieldName TokenPayload.fields "iss" := by
    simp [Json.IsFieldName, TokenPayload.fields, Json.Field.of]
  exact readOr_of_lacks lacking known record taken.issuer

/-- The client is empty if it is absent. -/
theorem clientId_of_lacks (read : TokenPayload.ofBytes bytes = .ok payload)
    (lacking : Json.Lacks TokenPayload.fields "client_id" (Json.read bytes).root) :
    payload.clientId = "" := by
  obtain ⟨-, given, record, taken⟩ := ofBytes_taken_iff.mp read
  have known : Json.IsFieldName TokenPayload.fields "client_id" := by
    simp [Json.IsFieldName, TokenPayload.fields, Json.Field.of]
  exact readOr_of_lacks lacking known record taken.clientId

end Taken

end IssueTracker.Auth

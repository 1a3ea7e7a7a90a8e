import IssueTracker.Proofs.Auth.Claims
import IssueTracker.Proofs.Settings.Loading

/-!
# Claims that are absent

An absent claim is empty, so it passes a check exactly if nothing is what the check asks for. For
the issuer that cannot be: the address of a provider is absolute, and the empty text is not. But the
client of the settings may be any text. If it is the empty one, then to enforce it lets in tokens
that are issued to no client.
-/

namespace IssueTracker.Config

open Auth (TokenPayload)

variable {lookup : String → Option String} {config : Config} {payload : TokenPayload}
  {bytes : Bytes} {now : Instant}

/-- The provider's address is not empty. -/
theorem LoadedFrom.providerUrl_ne (loaded : LoadedFrom lookup config) :
    config.providerUrl ≠ "" := by
  intro empty
  have absolute := loaded.absolute
  rw [empty] at absolute
  exact absurd absolute (by decide)

/-- What is issued by nobody is refused for it. -/
theorem LoadedFrom.check_of_no_issuer (loaded : LoadedFrom lookup config)
    (absent : payload.issuer = "") :
    config.validator.policy.check payload now = .error (.issuerMismatch config.providerUrl "") := by
  rw [Auth.check_eq_error_iff]
  left
  rw [absent]
  exact ⟨loaded.providerUrl_ne.symm, rfl⟩

/-- Where the client is enforced, what is issued to nobody is accepted if it is otherwise in order
and nobody is the client. -/
theorem LoadedFrom.check_of_no_client (loaded : LoadedFrom lookup config)
    (enforced : config.enforceClientId = true) (absent : payload.clientId = "") :
    config.validator.policy.check payload now = .ok () ↔
      payload.issuer = config.providerUrl ∧ now.before payload.expires = true ∧
        lookup "OAUTH_CLIENT_ID" = some "" := by
  have client : config.validator.policy.clientId = some config.clientId := by
    simp [validator, Auth.ValidatorConfig.policy, enforced]
  rw [Auth.check_eq_ok_iff, client, loaded.clientId, absent]
  apply and_congr_right
  intro issued
  apply and_congr_right
  intro current
  constructor
  · intro nobody
    exact congrArg some (nobody config.clientId rfl).symm
  · rintro nobody expected same
    exact (Option.some.inj (same.symm.trans nobody)).symm

/-- Where the settings can be read, claims without an issuer are refused for it. Where they enforce
the client, claims without one are accepted exactly if they are otherwise in order and the client of
the settings is the empty text. -/
theorem absent_claims_exact (lookup : String → Option String) (config : Config) (bytes : Bytes)
    (payload : TokenPayload) (now : Instant) (read : ofLookup lookup = .ok config)
    (told : TokenPayload.ofBytes bytes = .ok payload) :
    (Json.Lacks TokenPayload.fields "iss" (Json.read bytes).root →
      config.validator.policy.check payload now =
        .error (.issuerMismatch config.providerUrl "")) ∧
    (config.enforceClientId = true →
      Json.Lacks TokenPayload.fields "client_id" (Json.read bytes).root →
        (config.validator.policy.check payload now = .ok () ↔
          payload.issuer = config.providerUrl ∧ now.before payload.expires = true ∧
            lookup "OAUTH_CLIENT_ID" = some "")) := by
  have loaded := ofLookup_eq_ok_iff.mp read
  constructor
  · intro lacking
    exact loaded.check_of_no_issuer (Auth.issuer_of_lacks told lacking)
  · intro enforced lacking
    exact loaded.check_of_no_client enforced (Auth.clientId_of_lacks told lacking)

section Enforcing

/-- The texts of settings that enforce a client. -/
def enforcingTexts (client : String) : String → Option String
  | "OPENID_PROVIDER_URL" => some "https://idp.example"
  | "OAUTH_CLIENT_ID" => some client
  | "AUTH_ENFORCE_CLIENT_ID" => some "true"
  | _ => none

/-- The settings that these texts are read as. -/
def enforcingSettings (client : String) : Config where
  port := 8080
  stage := .development
  corsOrigins := []
  providerUrl := "https://idp.example"
  clientId := client
  enforceClientId := true
  authScheme := "Bearer"
  authAlgorithms := ["RS256"]
  verifyTimeout := .ofMillis 5000
  providerTimeout := .ofSeconds 10
  tenant := (Uuid.ofText? defaultTenant).getD .zero

/-- The octets of claims that have an issuer, are good for the first second of 1970, and say nothing
else. -/
def bareClaims : Bytes := Utf8.encode "\x7b\"iss\":\"https://idp.example\",\"exp\":1\x7d"

/-- The payload that these claims are read as. -/
def barePayload : TokenPayload where
  subject := ""
  tokenUse := ""
  scope := ""
  authTime := none
  issuer := "https://idp.example"
  expires := ⟨1, 0⟩
  issuedAt := none
  version := 0
  tokenId := ""
  clientId := ""

/-- The octets of claims that do not even have an issuer. -/
def barestClaims : Bytes := Utf8.encode "\x7b\"exp\":1\x7d"

/-- With a client that is named, both are refused. -/
theorem bareClaims_refused :
    ofLookup (enforcingTexts "tracker-web") = .ok (enforcingSettings "tracker-web") ∧
      (TokenPayload.ofBytes barestClaims = .ok { barePayload with issuer := "" } ∧
        Json.Lacks TokenPayload.fields "iss" (Json.read barestClaims).root ∧
        (enforcingSettings "tracker-web").validator.policy.check
            { barePayload with issuer := "" } ⟨0, 0⟩ =
          .error (.issuerMismatch "https://idp.example" "")) ∧
      TokenPayload.ofBytes bareClaims = .ok barePayload ∧
      Json.Lacks TokenPayload.fields "client_id" (Json.read bareClaims).root ∧
      (enforcingSettings "tracker-web").validator.policy.check barePayload ⟨0, 0⟩ ≠ .ok () := by
  have read : ofLookup (enforcingTexts "tracker-web") = .ok (enforcingSettings "tracker-web") := by
    decide +kernel
  have toldBarest : TokenPayload.ofBytes barestClaims = .ok { barePayload with issuer := "" } := by
    decide +kernel
  have told : TokenPayload.ofBytes bareClaims = .ok barePayload := by decide +kernel
  have noIssuer : Json.Lacks TokenPayload.fields "iss" (Json.read barestClaims).root := by
    decide +kernel
  have noClient : Json.Lacks TokenPayload.fields "client_id" (Json.read bareClaims).root := by
    decide +kernel
  refine ⟨read, ⟨toldBarest, noIssuer, ?_⟩, told, noClient, ?_⟩
  · exact (absent_claims_exact _ _ _ _ ⟨0, 0⟩ read toldBarest).1 noIssuer
  · rw [Ne, (absent_claims_exact _ _ _ _ ⟨0, 0⟩ read told).2 rfl noClient]
    rintro ⟨-, -, nobody⟩
    exact absurd nobody (by decide)

/-- With the empty text as the client, to enforce it does not keep out claims without a client. -/
theorem bareClaims_accepted :
    ofLookup (enforcingTexts "") = .ok (enforcingSettings "") ∧
      (enforcingSettings "").enforceClientId = true ∧
      TokenPayload.ofBytes bareClaims = .ok barePayload ∧
      Json.Lacks TokenPayload.fields "client_id" (Json.read bareClaims).root ∧
      (enforcingSettings "").validator.policy.check barePayload ⟨0, 0⟩ = .ok () := by
  refine ⟨by decide +kernel, rfl, by decide +kernel, by decide +kernel, by decide +kernel⟩

end Enforcing

end IssueTracker.Config

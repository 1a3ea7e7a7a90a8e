import IssueTracker.Proofs.Auth.Credential
import IssueTracker.Proofs.Auth.Inspection
import IssueTracker.Proofs.Settings.Loading

/-!
# No settings weaken authentication

Whatever texts the settings are given as, if the service can be run with them at all then it insists
on the one algorithm that it supports, on credentials under a scheme that is one word, and on limits
of time that are not nothing. It binds tokens to its client if and only if it is told to, and the
origins it lets in are words without a comma.
-/

namespace IssueTracker.Config

open Auth (SignatureEntry)

/-- What holds of the settings in which authentication is as strict as it is meant to be. -/
structure IsStrict (lookup : String → Option String) (config : Config) : Prop where
  /-- Some algorithm is accepted. -/
  algorithms : config.authAlgorithms ≠ []
  /-- A signature is accepted under no other algorithm than this. -/
  algorithm : ∀ entry : SignatureEntry,
    Auth.Envelope.checkAlgorithm entry config.authAlgorithms = .ok () ↔ entry.alg = some "RS256"
  /-- The scheme is one word. -/
  scheme : config.authScheme ≠ "" ∧ Blank.IsTrimmed config.authScheme ∧
    ' ' ∉ config.authScheme.toList
  /-- A credential is what follows the scheme and one space. -/
  credential : ∀ (header : Option String) (token : String),
    Auth.credential header config.authScheme = .ok token ↔
      header = some (config.authScheme ++ " " ++ token) ∧ token ≠ ""
  verifyTimeout : 0 < config.verifyTimeout.nanos
  providerTimeout : 0 < config.providerTimeout.nanos
  /-- The client is enforced if the settings say so. -/
  enforced : config.enforceClientId = true ↔
    ∃ text, lookup "AUTH_ENFORCE_CLIENT_ID" = some text ∧ flag? text = some true
  /-- Then tokens must be issued to the client of the settings. -/
  bound : ∀ client, config.validator.clientId = some client ↔
    config.enforceClientId = true ∧ lookup "OAUTH_CLIENT_ID" = some client
  /-- Otherwise they may be issued to any. -/
  unbound : config.validator.clientId = none ↔ config.enforceClientId = false
  origins : ∀ origin ∈ config.corsOrigins,
    origin ≠ "" ∧ Blank.IsTrimmed origin ∧ ',' ∉ origin.toList

section Loaded

variable {lookup : String → Option String} {config : Config}

/-- The algorithms are some, and all of them supported. -/
theorem LoadedFrom.algorithms_supported (loaded : LoadedFrom lookup config) :
    config.authAlgorithms ≠ [] ∧
      ∀ algorithm ∈ config.authAlgorithms, algorithm ∈ supportedAlgorithms := by
  refine loaded.authAlgorithms.satisfies ?_ ?_
  · simp [supportedAlgorithms]
  · intro text algorithms read
    exact (algorithms?_eq_some_iff.mp read).2

/-- A signature is accepted exactly under the one algorithm that is supported: any list of supported
ones has that in it, and no other. -/
theorem LoadedFrom.checkAlgorithm_iff (loaded : LoadedFrom lookup config) (entry : SignatureEntry) :
    Auth.Envelope.checkAlgorithm entry config.authAlgorithms = .ok () ↔
      entry.alg = some "RS256" := by
  obtain ⟨nonempty, supported⟩ := loaded.algorithms_supported
  have only : ∀ algorithm ∈ config.authAlgorithms, algorithm = "RS256" := by
    intro algorithm member
    simpa [supportedAlgorithms] using supported algorithm member
  rw [Auth.checkAlgorithm_eq_ok_iff]
  constructor
  · rintro ⟨algorithm, member, named⟩
    rw [named, only algorithm member]
  · intro named
    obtain ⟨algorithm, member⟩ := List.exists_mem_of_ne_nil _ nonempty
    exact ⟨algorithm, member, by rw [named, only algorithm member]⟩

/-- The scheme is one word, whether it is given or not. -/
theorem LoadedFrom.scheme_sound (loaded : LoadedFrom lookup config) :
    config.authScheme ≠ "" ∧ Blank.IsTrimmed config.authScheme ∧
      ' ' ∉ config.authScheme.toList := by
  refine loaded.authScheme.satisfies ?_ ?_
  · have trimmed : Blank.trim defaultScheme = defaultScheme := by decide
    exact ⟨by decide, (Blank.trim_eq_self_iff _).mp trimmed, by decide⟩
  · intro text scheme read
    obtain ⟨rfl, nonempty, unspaced⟩ := scheme?_eq_some_iff.mp read
    exact ⟨nonempty, Blank.isTrimmed_trim text, unspaced⟩

/-- Neither limit of time is nothing. -/
theorem LoadedFrom.timeouts_pos (loaded : LoadedFrom lookup config) :
    0 < config.verifyTimeout.nanos ∧ 0 < config.providerTimeout.nanos := by
  obtain ⟨millis, millisRead, verifyTimeout⟩ := loaded.verifyTimeout
  obtain ⟨seconds, secondsRead, providerTimeout⟩ := loaded.providerTimeout
  have millisPos : 0 < millis :=
    millisRead.satisfies (by decide) fun _ _ read => pos_of_positive? read
  have secondsPos : 0 < seconds :=
    secondsRead.satisfies (by decide) fun _ _ read => pos_of_positive? read
  rw [verifyTimeout, providerTimeout]
  constructor
  · exact Nat.mul_pos millisPos (by decide)
  · exact Nat.mul_pos secondsPos (by decide)

/-- Tokens must be issued to a client exactly if that is enforced and it is the client of the
settings. -/
theorem LoadedFrom.clientId_iff (loaded : LoadedFrom lookup config) (client : String) :
    config.validator.clientId = some client ↔
      config.enforceClientId = true ∧ lookup "OAUTH_CLIENT_ID" = some client := by
  simp [validator, loaded.clientId]

end Loaded

/-- Settings that can be read at all are strict. -/
theorem strict_of_ofLookup (lookup : String → Option String) (config : Config)
    (read : ofLookup lookup = .ok config) :
    IsStrict lookup config := by
  have loaded := ofLookup_eq_ok_iff.mp read
  constructor
  case algorithms => exact loaded.algorithms_supported.1
  case algorithm => exact loaded.checkAlgorithm_iff
  case scheme => exact loaded.scheme_sound
  case credential =>
    intro header token
    exact Auth.credential_eq_ok_iff header config.authScheme token
  case verifyTimeout => exact loaded.timeouts_pos.1
  case providerTimeout => exact loaded.timeouts_pos.2
  case enforced => exact loaded.enforceClientId.eq_iff_of_ne (by decide)
  case bound => exact loaded.clientId_iff
  case unbound => simp [validator]
  case origins =>
    intro origin member
    rw [loaded.corsOrigins] at member
    exact item_sound member

/-- Texts with stray commas and blanks, a sign and leading zeros. -/
def untidyTexts : String → Option String
  | "OPENID_PROVIDER_URL" => some "https://idp.example"
  | "OAUTH_CLIENT_ID" => some "tracker-web"
  | "AUTH_ENFORCE_CLIENT_ID" => some " YES\t"
  | "AUTH_SCHEME" => some "  Token "
  | "AUTH_ALGORITHMS" => some ",RS256,, RS256 "
  | "AUTH_VERIFY_TIMEOUT_MS" => some " +007 "
  | "CORS_ALLOWED_ORIGINS" => some " , https://a.example ,,*"
  | _ => none

/-- The settings that the untidy texts are read as. -/
def untidySettings : Config where
  port := 8080
  stage := .development
  corsOrigins := ["https://a.example", "*"]
  providerUrl := "https://idp.example"
  clientId := "tracker-web"
  enforceClientId := true
  authScheme := "Token"
  authAlgorithms := ["RS256", "RS256"]
  verifyTimeout := .ofMillis 7
  providerTimeout := .ofSeconds 10
  tenant := (Uuid.ofText? defaultTenant).getD .zero

/-- The settings of untidy texts are strict all the same. -/
theorem untidySettings_strict :
    ofLookup untidyTexts = .ok untidySettings ∧ IsStrict untidyTexts untidySettings := by
  have read : ofLookup untidyTexts = .ok untidySettings := by decide +kernel
  exact ⟨read, strict_of_ofLookup untidyTexts untidySettings read⟩

end IssueTracker.Config

import IssueTracker.Proofs.Service.Headers
import IssueTracker.Proofs.Settings.Loading
import IssueTracker.Proofs.Text.Utf8

/-!
# Who may call from other origins

In production the settings list the origins that browsers may call from. An origin is on the list if
it stands between two commas or ends of the text, blanks around it aside, is neither empty nor a
star, and can stand in a header. What a response permits is the very origin that the request names,
and only if it is on the list; and that it permits it is sure, unless the request is refused for the
length of its body or given up. Credentials are never spoken of.
-/

namespace IssueTracker

open Api Auth Http Store

/-- Whether an origin is on the list in a text. -/
def Config.Lists (text : String) (origin : Bytes) : Prop :=
  ∃ piece, ',' ∉ piece.toList ∧ Auth.Envelope.StandsIn ',' piece.toList text.toList ∧
    Blank.trim piece ≠ "" ∧ Blank.trim piece ≠ "*" ∧ origin = Utf8.encode (Blank.trim piece) ∧
      origin.all isLegal = true

namespace Http.CorsPolicy

/-- The policy for a list of origins. A list with a star is refused, since that is no origin. -/
def ofList? (origins : List Bytes) : Option CorsPolicy :=
  if Utf8.encode "*" ∈ origins then none else some (.only origins)

variable {origins : List Bytes} {headers : List Header} {text : String} {origin : Bytes}

/-- Under a list the origin of a request is permitted exactly if it is on the list. -/
theorem mem_permission_only_iff {header : Header} :
    header ∈ (only origins).permission headers ↔
      header.name = "access-control-allow-origin" ∧ header? headers "origin" = some header.value ∧
        header.value ∈ origins := by
  simp only [permission]
  cases named : header? headers "origin" with
  | none => simp
  | some origin =>
    by_cases among : origin ∈ origins
    · simp only [List.contains_iff_mem, among, if_true, List.mem_singleton, Option.some.injEq]
      constructor
      · rintro rfl
        exact ⟨rfl, rfl, among⟩
      · rintro ⟨name, rfl, -⟩
        cases header
        cases name
        rfl
    · simp only [List.contains_iff_mem, among, if_false, List.not_mem_nil, false_iff,
        Option.some.injEq]
      rintro ⟨-, rfl, member⟩
      exact among member

/-- The origins of the policy for production are those on the list in the settings. -/
theorem mem_origins_iff :
    origin ∈ (((Config.items text).filter (· ≠ "*")).map Utf8.encode).filter (·.all isLegal) ↔
      Config.Lists text origin := by
  simp only [List.mem_filter, List.mem_map, Config.mem_items_iff, decide_eq_true_eq]
  constructor
  · rintro ⟨⟨_, ⟨⟨filled, piece, rfl, whole, stands⟩, proper⟩, rfl⟩, legal⟩
    exact ⟨piece, whole, stands, filled, proper, rfl, legal⟩
  · rintro ⟨piece, whole, stands, filled, proper, same, legal⟩
    exact ⟨⟨_, ⟨⟨filled, piece, rfl, whole, stands⟩, proper⟩, same.symm⟩, legal⟩

/-- A star is never on the list. -/
theorem star_not_listed : ¬ Config.Lists text (Utf8.encode "*") := by
  rintro ⟨piece, -, -, -, proper, same, -⟩
  exact proper (Utf8.encode_injective same).symm

/-- In production the policy is made of a list that is not refused. -/
theorem exists_ofList? {config : Config} (production : config.stage = .production)
    (listed : config.corsOrigins = Config.items text) :
    ∃ origins, ofList? origins = some (ofConfig config) ∧ ofConfig config = .only origins ∧
      ∀ origin, origin ∈ origins ↔ Config.Lists text origin := by
  refine ⟨_, ?_, ?_, fun origin => mem_origins_iff⟩
  · rw [ofList?, if_neg fun member => star_not_listed (mem_origins_iff.mp member)]
    simp only [ofConfig, production, listed]
  · simp only [ofConfig, production, listed]

end Http.CorsPolicy

/-- Whether a response to a request permits calls as a list says. -/
structure HonoursList (listed : Bytes → Prop) (request : Request) (response : Response) : Prop where
  /-- Only the origin that the request names is permitted, and only if it is on the list. -/
  only : ∀ value, ⟨"access-control-allow-origin", value⟩ ∈ response.headers →
    header? request.headers "origin" = some value ∧ listed value
  /-- So where nothing is on the list, nothing is permitted. -/
  closed : (∀ origin, ¬ listed origin) →
    ∀ value, ⟨"access-control-allow-origin", value⟩ ∉ response.headers
  /-- An origin on the list is, unless the body is too long or the request is given up. -/
  always : ∀ origin, header? request.headers "origin" = some origin → listed origin →
    ¬ Service.DeclaresTooMuch request → response.status ≠ 408 →
      ⟨"access-control-allow-origin", origin⟩ ∈ response.headers
  /-- Credentials are not permitted. -/
  uncredentialed : ∀ value, ⟨"access-control-allow-credentials", value⟩ ∉ response.headers

namespace Service

variable {service : Service} {origins : List Bytes}

/-- A service whose policy is a list permits calls as the list says. -/
theorem honoursList (policy : service.cors = .only origins) (stores : Stores) (arrival : Arrival)
    (request : Request) :
    HonoursList (· ∈ origins) request (service.handle stores arrival request).response := by
  obtain ⟨outcome, plain, response, long⟩ := exists_outcome service stores arrival request
  have sources (name : String) (value : Bytes) (unusual : name ∉ usualNames)
      (member : ⟨name, value⟩ ∈ (service.complete arrival request outcome).headers) :
      ⟨name, value⟩ ∈ (CorsPolicy.only origins).permission request.headers := by
    rcases mem_headers_complete plain member with usual | granted
    · exact absurd usual unusual
    · exact policy ▸ granted
  have only (value : Bytes) (member : ⟨"access-control-allow-origin", value⟩ ∈
        (service.complete arrival request outcome).headers) :
      header? request.headers "origin" = some value ∧ value ∈ origins :=
    (CorsPolicy.mem_permission_only_iff.mp (sources _ value (by decide) member)).2
  rw [response]
  constructor
  case only => exact only
  case closed =>
    intro nobody value member
    exact nobody value (only value member).2
  case always =>
    intro origin named listed short timely
    refine permission_mem_complete ?_ (fun tooLong => short (long tooLong)) ?_
    · rw [policy]
      exact CorsPolicy.mem_permission_only_iff.mpr ⟨rfl, named, listed⟩
    · rintro rfl
      exact timely (status_complete _)
  case uncredentialed =>
    intro value member
    have another : "access-control-allow-credentials" = "access-control-allow-origin" :=
      (CorsPolicy.mem_permission_only_iff.mp (sources _ value (by decide) member)).1
    exact absurd another (by decide)

/-- In production the list in the settings is what decides where browsers may call from. From texts
that are accepted a policy is built for every list, and for every request the response permits the
origin that the request names if it is on the list, and no other, to the octet; credentials it never
permits. Only a request that is refused for the length of its body or given up gets no permission.
-/
theorem allowList_exact (lookup : String → Option String) (config : Config) (provider : Provider)
    (wording : Wording) (loaded : Config.ofLookup lookup = .ok config)
    (production : ∃ text, lookup "APP_ENV" = some text ∧
      (text.map Char.toLower = "production" ∨ text.map Char.toLower = "prod")) :
    (∃ origins, CorsPolicy.ofList? origins = some (ofConfig config provider wording).cors ∧
      ∀ origin, origin ∈ origins ↔
        Config.Lists ((lookup "CORS_ALLOWED_ORIGINS").getD "") origin) ∧
    ∀ stores arrival request,
      HonoursList (Config.Lists ((lookup "CORS_ALLOWED_ORIGINS").getD "")) request
        ((ofConfig config provider wording).handle stores arrival request).response := by
  have settings := Config.ofLookup_eq_ok_iff.mp loaded
  have stage : config.stage = .production := by
    obtain ⟨text, found, named⟩ := production
    simp [settings.stage, found, Stage.ofText, named]
  obtain ⟨origins, built, policy, listed⟩ :=
    CorsPolicy.exists_ofList? stage settings.corsOrigins
  refine ⟨⟨origins, built, listed⟩, fun stores arrival request => ?_⟩
  have same : (· ∈ origins) = Config.Lists ((lookup "CORS_ALLOWED_ORIGINS").getD "") :=
    funext fun origin => propext (listed origin)
  exact same ▸ honoursList policy stores arrival request

section Production

/-- The texts of settings for production that list an origin, with something and a star behind it,
and give the provider more time than a request has. -/
def productionTexts : String → Option String
  | "APP_ENV" => some "Prod"
  | "CORS_ALLOWED_ORIGINS" => some " https://a.example,, * "
  | "OPENID_PROVIDER_URL" => some "https://idp.example"
  | "OAUTH_CLIENT_ID" => some "tracker-web"
  | "AUTH_VERIFY_TIMEOUT_MS" => some "30001"
  | _ => none

/-- The settings that these texts are read as. -/
def productionSettings : Config where
  port := 8080
  stage := .production
  corsOrigins := ["https://a.example", "*"]
  providerUrl := "https://idp.example"
  clientId := "tracker-web"
  enforceClientId := false
  authScheme := "Bearer"
  authAlgorithms := ["RS256"]
  verifyTimeout := .ofMillis 30001
  providerTimeout := .ofSeconds 10
  tenant := (Uuid.ofText? Config.defaultTenant).getD .zero

theorem productionTexts_read : Config.ofLookup productionTexts = .ok productionSettings := by
  decide +kernel

/-- The origin is on the list. -/
theorem example_listed :
    Config.Lists ((productionTexts "CORS_ALLOWED_ORIGINS").getD "")
      (Utf8.encode "https://a.example") :=
  ⟨" https://a.example", by decide, ⟨[], ",, * ".toList, by decide, .inl rfl, .inr ⟨_, rfl⟩⟩,
    by decide, by decide, by decide, by decide⟩

/-- A provider that takes an hour. -/
def slowProvider : Provider := fun _ => ⟨.error .signatureMismatch, Duration.ofSeconds 3600⟩

/-- What is answered with these settings to a request at the start of 1970. -/
def productionAnswer (request : Request) : Response :=
  ((ofConfig productionSettings slowProvider).handle Stores.empty epoch request).response

/-- A request from an origin. -/
def requestFrom (origin path : String) (others : List Header) : Request where
  method := "GET"
  path := "/api/v1" ++ path
  query := ""
  headers := .ofText "origin" origin :: others
  body := []

/-- The origin on the list may look whether the service is there, and a star may not. -/
theorem productionTexts_honoured :
    ⟨"access-control-allow-origin", Utf8.encode "https://a.example"⟩ ∈
        (productionAnswer (requestFrom "https://a.example" "/health" [])).headers ∧
      ∀ value, ⟨"access-control-allow-origin", value⟩ ∉
        (productionAnswer (requestFrom "*" "/health" [])).headers := by
  have honours (request : Request) : HonoursList _ request (productionAnswer request) :=
    (allowList_exact productionTexts productionSettings slowProvider .brief productionTexts_read
      ⟨"Prod", rfl, by decide +kernel⟩).2 Stores.empty epoch request
  constructor
  · exact (honours (requestFrom "https://a.example" "/health" [])).always _ (by decide)
      example_listed (by decide +kernel) (by decide +kernel)
  · intro value member
    obtain ⟨named, listed⟩ := (honours (requestFrom "*" "/health" [])).only value member
    obtain rfl : Utf8.encode "*" = value := Option.some.inj named
    exact CorsPolicy.star_not_listed listed

/-- A request from the origin with a token that nothing but the provider speaks against. -/
def slowRequest : Request :=
  requestFrom "https://a.example" "/customers" [.ofText "authorization" ("Bearer "
    ++ "eyJhbGciOiJSUzI1NiJ9" ++ ".eyJpc3MiOiJodHRwczovL2lkcC5leGFtcGxlIiwiZXhwIjoxfQ" ++ ".c2ln")]

/-- A request that is given up gets no permission, wherever it comes from. -/
theorem slowRequest_unpermitted :
    ¬ ∀ (lookup : String → Option String) (config : Config) (provider : Provider) (stores : Stores)
      (arrival : Arrival) (request : Request) (origin : Bytes),
      Config.ofLookup lookup = .ok config → config.stage = .production →
        header? request.headers "origin" = some origin →
          Config.Lists ((lookup "CORS_ALLOWED_ORIGINS").getD "") origin →
            ¬ DeclaresTooMuch request →
              ⟨"access-control-allow-origin", origin⟩ ∈
                ((ofConfig config provider).handle stores arrival request).response.headers := by
  intro all
  have member := all productionTexts productionSettings slowProvider Stores.empty epoch slowRequest
    _ productionTexts_read rfl rfl example_listed (by decide +kernel)
  have bare : (productionAnswer slowRequest).headers = [] := by decide +kernel
  rw [productionAnswer] at bare
  rw [bare] at member
  cases member

end Production

end Service

end IssueTracker

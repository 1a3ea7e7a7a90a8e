import IssueTracker.Auth.Validator
import IssueTracker.Number.Natural
import IssueTracker.Text.Blank
import IssueTracker.Url.Absolute
import IssueTracker.Uuid

/-!
# Settings

The settings of the service are read from named texts. Some are required, the others have
defaults; a text that is given must be in order. The first setting that is not, in a fixed order,
is reported.
-/

namespace IssueTracker

/-- What the service is run for. -/
inductive Stage
  | development
  | production
deriving Repr, DecidableEq

/-- Why the settings cannot be used. -/
inductive ConfigError
  | missing (key : String)
  | invalid (key : String)
deriving Repr, DecidableEq

/-- The wording of an error in the settings. -/
def ConfigError.message : ConfigError → String
  | .missing key => s!"missing configuration: {key}"
  | .invalid key => s!"invalid configuration: {key}"

/-- The settings of the service. -/
structure Config where
  /-- The port it listens on. -/
  port : Nat
  stage : Stage
  /-- The origins that browsers may call from. -/
  corsOrigins : List String
  /-- The address of the identity provider, which is also the issuer of tokens. -/
  providerUrl : String
  clientId : String
  /-- Whether tokens must be issued to the client. -/
  enforceClientId : Bool
  /-- The scheme of credentials. -/
  authScheme : String
  /-- The algorithms that tokens may name. -/
  authAlgorithms : List String
  /-- How long the provider may take to check a token. -/
  verifyTimeout : Duration
  /-- How long the provider may take to hand out its documents. -/
  providerTimeout : Duration
  /-- The customer whose projects are served. -/
  tenant : Uuid
deriving Repr, DecidableEq

namespace Stage

/-- The stage that a text names, letter case aside; everything unknown is development. -/
def ofText (text : String) : Stage :=
  let name := text.map Char.toLower
  if name = "production" ∨ name = "prod" then .production else .development

/-- A short description. -/
def describe : Stage → String
  | .development => "Development"
  | .production => "Production"

end Stage

namespace Config

/-- The names of the settings. -/
def keys : List String := [
  "PORT", "APP_ENV", "CORS_ALLOWED_ORIGINS", "OPENID_PROVIDER_URL", "OAUTH_CLIENT_ID",
  "AUTH_ENFORCE_CLIENT_ID", "AUTH_SCHEME", "AUTH_ALGORITHMS", "AUTH_VERIFY_TIMEOUT_MS",
  "PROVIDER_HTTP_TIMEOUT_SECS", "TENANT_CUSTOMER_ID"]

/-- The items of a list with commas, without the blanks around them and without empty ones. -/
def items (text : String) : List String :=
  ((Auth.Envelope.split ',' text).map Blank.trim).filter (!·.isEmpty)

/-- The answer that a text gives to a question, letter case and blanks around it aside. -/
def flag? (text : String) : Option Bool :=
  let word := (Blank.trim text).map Char.toLower
  if ["1", "true", "yes", "on"].contains word then some true
  else if ["0", "false", "no", "off"].contains word then some false
  else none

/-- The algorithms that can be asked for. -/
def supportedAlgorithms : List String := ["RS256"]

/-- The scheme of credentials when none is set. -/
def defaultScheme : String := "Bearer"

/-- The customer whose projects are served when none is set. -/
def defaultTenant : String := "a4a777ff-fd47-42ab-84b4-1cca19a51f8f"

/-- The value of a setting whose text was in order. -/
def accept {α : Type} (key : String) : Option α → Except ConfigError α
  | some value => .ok value
  | none => .error (.invalid key)

/-- The value of a setting that is given, read; a default stands in for one that is not. -/
def readOr {α : Type} (lookup : String → Option String) (key : String) (read : String → Option α)
    (default : α) : Except ConfigError α :=
  match lookup key with
  | none => .ok default
  | some text => accept key (read text)

/-- The text of a setting that is required. -/
def require (lookup : String → Option String) (key : String) : Except ConfigError String :=
  match lookup key with
  | some text => .ok text
  | none => .error (.missing key)

/-- A number above zero, blanks around it aside. -/
def positive? (text : String) : Option Nat :=
  (Natural.ofText? Natural.bound64 (Blank.trim text)).filter (0 < ·)

/-- A scheme is one word. -/
def scheme? (text : String) : Option String :=
  let scheme := Blank.trim text
  if scheme.isEmpty || scheme.toList.contains ' ' then none else some scheme

/-- A list of algorithms has at least one, and none that is not supported. -/
def algorithms? (text : String) : Option (List String) :=
  let algorithms := items text
  if algorithms.isEmpty || !algorithms.all supportedAlgorithms.contains then none
  else some algorithms

/-- The address of a provider is absolute, and kept as given. -/
def address? (text : String) : Option String := if Url.isAbsolute text then some text else none

/-- Read the settings. -/
def ofLookup (lookup : String → Option String) : Except ConfigError Config := do
  let port ← readOr lookup "PORT" (Natural.ofText? Natural.bound16) 8080
  let stage := ((lookup "APP_ENV").map Stage.ofText).getD .development
  let corsOrigins := items ((lookup "CORS_ALLOWED_ORIGINS").getD "")
  let address ← require lookup "OPENID_PROVIDER_URL"
  let providerUrl ← accept "OPENID_PROVIDER_URL" (address? address)
  let clientId ← require lookup "OAUTH_CLIENT_ID"
  let enforceClientId ← readOr lookup "AUTH_ENFORCE_CLIENT_ID" flag? false
  let authScheme ← readOr lookup "AUTH_SCHEME" scheme? defaultScheme
  let authAlgorithms ← readOr lookup "AUTH_ALGORITHMS" algorithms? supportedAlgorithms
  let verifyTimeout ← readOr lookup "AUTH_VERIFY_TIMEOUT_MS" positive? 5000
  let providerTimeout ← readOr lookup "PROVIDER_HTTP_TIMEOUT_SECS" positive? 10
  let tenant ← readOr lookup "TENANT_CUSTOMER_ID" Uuid.ofText?
    ((Uuid.ofText? defaultTenant).getD .zero)
  return { port, stage, corsOrigins, providerUrl, clientId, enforceClientId, authScheme,
           authAlgorithms, verifyTimeout := .ofMillis verifyTimeout,
           providerTimeout := .ofSeconds providerTimeout, tenant }

/-- The address that the service listens on. -/
def listenAddress (config : Config) : String := s!"0.0.0.0:{config.port}"

/-- What is required of tokens. -/
def validator (config : Config) : Auth.ValidatorConfig where
  issuer := config.providerUrl
  clientId := if config.enforceClientId then some config.clientId else none
  algorithms := config.authAlgorithms
  verifyTimeout := config.verifyTimeout

/-- A short description. -/
def describe (config : Config) : String :=
  "Config \x7b addr: " ++ config.listenAddress
    ++ ", app_env: " ++ config.stage.describe
    ++ ", cors_allowed_origins: " ++ Quoted.quoteList config.corsOrigins
    ++ ", provider_url: " ++ Quoted.quote config.providerUrl
    ++ ", client_id: " ++ Quoted.quote config.clientId
    ++ ", enforce_client_id: " ++ (if config.enforceClientId then "true" else "false")
    ++ ", auth_scheme: " ++ Quoted.quote config.authScheme
    ++ ", auth_algorithms: " ++ Quoted.quoteList config.authAlgorithms
    ++ ", verify_timeout: " ++ config.verifyTimeout.toText
    ++ ", provider_http_timeout: " ++ config.providerTimeout.toText
    ++ ", tenant_customer_id: " ++ config.tenant.toText ++ " \x7d"

end Config

end IssueTracker

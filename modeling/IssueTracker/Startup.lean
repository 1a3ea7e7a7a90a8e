import IssueTracker.Auth.Discovery
import IssueTracker.Service

/-!
# Startup

The service starts by reading its settings, discovering its identity provider and taking its port,
in this order. Whatever fails is fatal, and is reported in a chain of messages from the outermost
to the cause.
-/

namespace IssueTracker

/-- Why the service does not start. -/
inductive StartupError
  | settings (cause : ConfigError)
  /-- The provider at an address could not be set up. -/
  | provider (address : String) (cause : Auth.ProviderError)
  /-- The address to listen on could not be taken, for a reason given by whoever tried. -/
  | listen (address reason : String)
deriving Repr, DecidableEq

/-- The messages of a startup error, the outermost first. -/
def StartupError.chain : StartupError → List String
  | .settings cause => ["failed to load configuration", cause.message]
  | .provider address cause =>
    [s!"identity provider bootstrap failed for {address}", cause.message]
  | .listen address reason => [s!"failed to bind {address}", reason]

/-- What the start of the service needs of the outside world. -/
structure Surroundings where
  /-- The settings by name. -/
  lookup : String → Option String
  transport : Http.Transport
  /-- Why an address to listen on cannot be taken, if it cannot. -/
  obstacle : String → Option String

/-- How a start went. -/
structure Startup where
  result : Except StartupError Service
  /-- The addresses fetched, in order. -/
  fetched : List String

namespace Startup

/-- Discover the provider that settings name. -/
def discover (config : Config) (transport : Http.Transport) : Auth.Discovery :=
  Auth.Discovery.run transport config.providerTimeout config.providerUrl

/-- The result of a start with settings and a discovered provider. -/
def conclude (config : Config) (obstacle : String → Option String) :
    Except Auth.ProviderError Auth.OidcProvider → Except StartupError Service
  | .error cause => .error (.provider config.providerUrl cause)
  | .ok provider =>
    match obstacle config.listenAddress with
    | some reason => .error (.listen config.listenAddress reason)
    | none => .ok (Service.ofConfig config provider.toProvider)

/-- Start the service. -/
def run (surroundings : Surroundings) : Startup :=
  match Config.ofLookup surroundings.lookup with
  | .error cause => ⟨.error (.settings cause), []⟩
  | .ok config =>
    let discovery := discover config surroundings.transport
    ⟨conclude config surroundings.obstacle discovery.result, discovery.fetched⟩

end Startup

end IssueTracker

import IssueTracker.Http.Message
import IssueTracker.Config

/-!
# Calls from other origins

Which origins browsers may call from. In development every origin may; in production those may
that the settings list, exactly as written there. A wildcard in the list is not an origin. Whether
a caller is let in never depends on where it calls from.
-/

namespace IssueTracker.Http

/-- The origins that may call. -/
inductive CorsPolicy
  | any
  | only (origins : List Bytes)
deriving Repr, DecidableEq

namespace CorsPolicy

/-- The policy that settings ask for. Texts that cannot stand in a header are not origins. -/
def ofConfig (config : Config) : CorsPolicy :=
  match config.stage with
  | .development => .any
  | .production =>
    .only (((config.corsOrigins.filter (· ≠ "*")).map Utf8.encode).filter (·.all isLegal))

/-- The permission for the origin of a request, if it has one. -/
def permission (policy : CorsPolicy) (headers : List Header) : List Header :=
  let name := "access-control-allow-origin"
  match policy with
  | .any => [.ofText name "*"]
  | .only origins =>
    match header? headers "origin" with
    | some origin => if origins.contains origin then [⟨name, origin⟩] else []
    | none => []

/-- What responses depend on besides their target. -/
def vary : Header :=
  .ofText "vary" "origin, access-control-request-method, access-control-request-headers"

/-- The answer to a browser that asks what it may do, whatever the target. -/
def preflight (policy : CorsPolicy) (headers : List Header) : Response :=
  (Response.empty 200).add (policy.permission headers ++ [vary,
    .ofText "access-control-allow-methods" "GET,POST,PUT,OPTIONS",
    .ofText "access-control-allow-headers" "authorization,content-type,accept,x-request-id",
    .ofText "access-control-max-age" "600"])

/-- The headers of any other response. -/
def apply (policy : CorsPolicy) (headers : List Header) (response : Response) : Response :=
  response.add (policy.permission headers ++ [vary,
    .ofText "access-control-expose-headers" "x-request-id"])

end CorsPolicy

end IssueTracker.Http

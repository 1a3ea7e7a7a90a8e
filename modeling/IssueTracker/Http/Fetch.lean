import IssueTracker.Http.Message
import IssueTracker.Time.Duration
import IssueTracker.Url.Target

/-!
# Fetching documents

A document is fetched from an address, and the exchange ends with a status and a body, or with
nothing. What carries exchanges is supplied from outside. The octets that ask for a document and
those that answer are described here for plain connections, one exchange to a connection.
-/

namespace IssueTracker.Http

/-- What is answered to a fetch. -/
structure Fetched where
  status : Nat
  body : Bytes
deriving Repr, DecidableEq

/-- A fetch of an address: what is answered, if anything is, and how long that takes. -/
structure Exchange where
  reply : Option Fetched
  latency : Duration
deriving Repr, DecidableEq

/-- What carries exchanges, by address. -/
abbrev Transport := String → Exchange

namespace Transport

/-- Nothing gets through. -/
def none : Transport := fun _ => ⟨.none, Duration.zero⟩

/-- Exchanges that took place; nothing else gets through. -/
def ofList (exchanges : List (String × Exchange)) : Transport := fun address =>
  match exchanges.find? (·.1 = address) with
  | some (_, exchange) => exchange
  | .none => none address

end Transport

/-- Where a document is, on a plain connection. -/
structure Place where
  host : String
  port : Nat
  /-- The path and the query. -/
  target : String
deriving Repr, DecidableEq

namespace Place

/-- The place of an address, if it is one for plain connections. A user is left out, and a host in
brackets is not looked for. -/
def ofAddress? (address : String) : Option Place := do
  let (scheme, rest) ← Url.scheme? (Url.significant address.toList)
  if scheme ≠ ['h', 't', 't', 'p'] || !Url.isAbsolute address then none
  else
    let rest := rest.dropWhile Url.Scheme.web.isSolidus
    let isOwn : Char → Bool := fun c => !Url.Scheme.web.isDelimiter c
    let site := Url.siteOf (rest.takeWhile isOwn)
    let name := site.take (Url.hostLength false site)
    let labels ← (Url.resolved? name).bind Domain.labels?
    let port ← match site.drop (name.length + 1) with
      | [] => some 80
      | digits => Ip.number? 10 digits
    some {
      host := ".".intercalate (labels.map String.ofList)
      port
      target := String.ofList (Url.target (rest.dropWhile isOwn)) }

/-- The octets that ask for the document. -/
def ask (place : Place) (userAgent : String) : Bytes :=
  Utf8.encode ("\r\n".intercalate [
    s!"GET {place.target} HTTP/1.0",
    s!"host: {place.host}:{place.port}",
    s!"user-agent: {userAgent}",
    "accept: */*",
    "connection: close",
    "", ""])

end Place

/-- The octets behind the first empty line. -/
def behindEmptyLine : Bytes → Option Bytes
  | 0x0D :: 0x0A :: 0x0D :: 0x0A :: rest => some rest
  | _ :: rest => behindEmptyLine rest
  | [] => none

/-- The answer in the octets of a closed connection: the status is the second word. -/
def Fetched.ofOctets? (octets : Bytes) : Option Fetched := do
  let body ← behindEmptyLine octets
  let digits := ((octets.dropWhile (· ≠ 0x20)).drop 1).takeWhile Bytes.isDigit
  if digits.length = 3 then some ⟨Bytes.decimal digits, body⟩ else none

end IssueTracker.Http

import IssueTracker.Startup
import Std.Async
import Std.Http

/-!
# The program

Reads the settings from the environment, discovers the identity provider over plain connections,
and serves requests until it is interrupted. Everything that is decided is decided elsewhere; here
are only the clock, the source of randomness and the connections.
-/

namespace IssueTracker

open Std.Async Http

/-- A reading of the clock. -/
def readClock : IO Instant := do
  let nanos := (← Std.Time.Timestamp.now).toNanosecondsSinceUnixEpoch.val
  return ⟨nanos / 1000000000, (nanos % 1000000000).toNat⟩

/-- A new identifier. -/
def drawId : IO Uuid := do
  let octets ← IO.getRandomBytes 16
  return .ofRandom (BitVec.ofNat 128 (octets.data.foldl (fun n b => 256 * n + b.toNat) 0))

/-- What the outside world supplies for a request. -/
def readArrival : IO Arrival := do
  let now ← readClock
  return { judgedAt := now, recordedAt := now, freshId := ← drawId,
           requestId := (← drawId).toText }

/-- Everything that comes in on a connection until the other side closes it. -/
partial def receiveAll (socket : TCP.Socket.Client) (received : ByteArray) : Async ByteArray := do
  match ← socket.recv? 65536 with
  | some octets => receiveAll socket (received ++ octets)
  | none => return received

/-- Fetch the document at a place. -/
def fetchFrom (place : Place) : Async (Option Fetched) := do
  let addresses ← DNS.getAddrInfo place.host (toString place.port) (some .ipv4)
  match addresses.toList with
  | .v4 address :: _ =>
    let socket ← TCP.Socket.Client.mk
    socket.connect (.v4 ⟨address, place.port.toUInt16⟩)
    socket.send ⟨(place.ask Auth.Discovery.userAgent).toArray⟩
    let received ← receiveAll socket .empty
    return Fetched.ofOctets? received.toList
  | _ => return none

/-- Fetch the document at an address, unless that takes too long. -/
def exchange (timeout : Duration) (address : String) : IO Exchange := do
  let started ← IO.monoNanosNow
  let millis := timeout.nanos / 1000000
  let fetching : Async (Option Fetched) := match Place.ofAddress? address with
    | some place => fetchFrom place
    | none => return none
  let giveUp : Async (Option Fetched) := do
    sleep (.ofNat (millis + 1))
    return none
  let reply ← try (Async.race fetching giveUp).block catch _ => pure none
  return ⟨reply, ⟨(← IO.monoNanosNow) - started⟩⟩

/-- The settings that the environment gives. -/
def readSettings : IO (List (String × String)) :=
  Config.keys.filterMapM fun key => return (← IO.getEnv key).map fun value => (key, value)

/-- How a start goes with certain settings and the exchanges so far. -/
def startWith (settings : List (String × String)) (exchanges : List (String × Exchange)) :
    Startup :=
  Startup.run {
    lookup := fun key => (settings.find? (·.1 = key)).map (·.2)
    transport := .ofList exchanges
    obstacle := fun _ => none }

/-- Start the service: whatever the start turns out to fetch is fetched, and it begins anew. No
start fetches more than two documents. -/
def start (settings : List (String × String)) (timeout : Duration) : IO Startup := do
  let mut exchanges := []
  for _ in [0, 1] do
    for address in (startWith settings exchanges).fetched do
      unless exchanges.any (·.1 = address) do
        exchanges := (address, ← exchange timeout address) :: exchanges
  return startWith settings exchanges

/-- A service and what it has stored. -/
structure Running where
  service : Service
  stores : IO.Ref Store.Stores

/-- The body of a request, up to a little more than any may have. -/
partial def readBody (body : Std.Http.Body.Stream) (received : ByteArray) :
    ContextAsync ByteArray := do
  if Service.bodyLimit < received.size then return received
  match ← body.recv with
  | some chunk => readBody body (received ++ chunk.data)
  | none => return received

/-- A request as it came in. -/
def incoming (line : Std.Http.Request.Head) (body : ByteArray) : Request :=
  let headers := line.headers.toList.map fun (name, value) =>
    Header.of (toString name) (Utf8.encode (toString value))
  Request.ofTarget (toString line.method) (toString line.uri) headers body.toList

/-- A response as it goes out. -/
def outgoing (response : Response) : Async (Std.Http.Response Std.Http.Body.Full) := do
  let status := (Std.Http.Status.ofCode none response.status.toUInt16).getD .internalServerError
  let headers := response.headers.foldl (fun headers header =>
    match text? header.value with
    | some value => (headers.insert? header.name value).getD headers
    | none => headers) Std.Http.Headers.empty
  let body ← Std.Http.Body.Full.ofByteArray ⟨response.content.octets.toArray⟩
  return { line := { status, headers }, body }

/-- Answer a request. -/
def Running.answer (running : Running) (request : Std.Http.Request Std.Http.Body.Stream) :
    ContextAsync (Std.Http.Response Std.Http.Body.Any) := do
  let body ← readBody request.body .empty
  let arrival ← readArrival
  let response ← running.stores.modifyGet fun stores =>
    let handled := running.service.handle stores arrival (incoming request.line body)
    (handled.response, handled.stores)
  let sent ← outgoing response
  return { line := sent.line, body := .ofBody sent.body }

instance : Std.Http.Server.Handler Running where
  onRequest running request := running.answer request

/-- Serve requests on a port until interrupted. -/
def serve (service : Service) (port : Nat) : Async Unit := do
  let running : Running := ⟨service, ← IO.mkRef .empty⟩
  let address : Std.Net.SocketAddress := .v4 ⟨.ofParts 0 0 0 0, port.toUInt16⟩
  let server ← Std.Http.Server.serve address running
  let interrupt ← Signal.Waiter.mk .sigint false
  discard <| await (← interrupt.wait)
  server.shutdownAndWait

/-- Tell why the service did not start or stopped. -/
def report (error : StartupError) : IO UInt32 := do
  match error.chain with
  | first :: causes =>
    IO.eprintln s!"Error: {first}"
    unless causes.isEmpty do
      IO.eprintln "\nCaused by:"
      for cause in causes do
        IO.eprintln s!"    {cause}"
  | [] => pure ()
  return 1

/-- Run the program. -/
def runProgram : IO UInt32 := do
  let settings ← readSettings
  match Config.ofLookup fun key => (settings.find? (·.1 = key)).map (·.2) with
  | .error cause => report (.settings cause)
  | .ok config =>
    match (← start settings config.providerTimeout).result with
    | .error error => report error
    | .ok service =>
      try
        (serve service config.port).block
        return 0
      catch reason =>
        report (.listen config.listenAddress (toString reason))

end IssueTracker

/-- Run the program. -/
def main : IO UInt32 := IssueTracker.runProgram

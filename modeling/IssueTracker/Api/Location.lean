import IssueTracker.Api.Operation
import IssueTracker.Auth.Envelope

/-!
# Where things are

The paths of the service. A path names a location if it has exactly the location's segments, each
as written; a segment that stands for an identifier may be anything but empty. A location serves
certain verbs, each with an operation of its own.
-/

namespace IssueTracker.Api

/-- What is done at a location. -/
inductive Verb
  | get
  | post
  | put
deriving Repr, DecidableEq

namespace Verb

/-- The verb of a method. A request for headers alone is served like one for the whole. -/
def ofMethod? (method : String) : Option Verb :=
  if method = "GET" ∨ method = "HEAD" then some .get
  else if method = "POST" then some .post
  else if method = "PUT" then some .put
  else none

/-- All verbs. -/
def all : List Verb := [.get, .post, .put]

/-- The methods that a verb serves. -/
def methods : Verb → List String
  | .get => ["GET", "HEAD"]
  | .post => ["POST"]
  | .put => ["PUT"]

end Verb

/-- A location, with the segments that stand for identifiers as written. -/
inductive Location
  | health
  | customers
  | customer (id : String)
  | projects
  | project (id : String)
  | issues (projectId : String)
  | issue (projectId id : String)
  | comments (projectId issueId : String)
  | comment (projectId issueId id : String)
  | users
  | user (id : String)
deriving Repr, DecidableEq

/-- What serves a verb at a location. -/
inductive Endpoint
  /-- The only one that asks for no token. -/
  | health
  | guarded (operation : Operation)
deriving Repr, DecidableEq

namespace Location

/-- The location that segments name, before it is known whether one of them is empty. -/
def ofSegments? : List String → Option Location
  | ["health"] => some .health
  | ["customers"] => some .customers
  | ["customers", id] => some (.customer id)
  | ["projects"] => some .projects
  | ["projects", id] => some (.project id)
  | ["projects", p, "issues"] => some (.issues p)
  | ["projects", p, "issues", id] => some (.issue p id)
  | ["projects", p, "issues", i, "comments"] => some (.comments p i)
  | ["projects", p, "issues", i, "comments", id] => some (.comment p i id)
  | ["users"] => some .users
  | ["users", id] => some (.user id)
  | _ => none

/-- The location that a path names. -/
def ofPath? (path : String) : Option Location :=
  match Auth.Envelope.split '/' path with
  | "" :: "api" :: "v1" :: segments =>
    if segments.all (!·.isEmpty) then ofSegments? segments else none
  | _ => none

/-- What serves a verb at a location, if anything does. -/
def endpoint? : Location → Verb → Option Endpoint
  | .health, .get => some .health
  | .customers, .get => some (.guarded .listCustomers)
  | .customers, .post => some (.guarded .createCustomer)
  | .customer id, .get => some (.guarded (.getCustomer id))
  | .customer id, .put => some (.guarded (.updateCustomer id))
  | .projects, .get => some (.guarded .listProjects)
  | .projects, .post => some (.guarded .createProject)
  | .project id, .get => some (.guarded (.getProject id))
  | .project id, .put => some (.guarded (.updateProject id))
  | .issues p, .get => some (.guarded (.listIssues p))
  | .issues p, .post => some (.guarded (.createIssue p))
  | .issue p id, .get => some (.guarded (.getIssue p id))
  | .issue p id, .put => some (.guarded (.updateIssue p id))
  | .comments p i, .get => some (.guarded (.listComments p i))
  | .comments p i, .post => some (.guarded (.createComment p i))
  | .comment p i id, .get => some (.guarded (.getComment p i id))
  | .comment p i id, .put => some (.guarded (.updateComment p i id))
  | .users, .get => some (.guarded .listUsers)
  | .user id, .get => some (.guarded (.getUser id))
  | _, _ => none

/-- What serves a method at a location, if anything does. -/
def served? (location : Location) (method : String) : Option Endpoint :=
  (Verb.ofMethod? method).bind location.endpoint?

/-- The methods that a location serves, for callers who used another one. -/
def allowed (location : Location) : String :=
  ",".intercalate <|
    (Verb.all.filter fun verb => (location.endpoint? verb).isSome).flatMap Verb.methods

end Location

end IssueTracker.Api

import IssueTracker.Api.Access
import IssueTracker.Api.ListRequest
import IssueTracker.Api.Presentation
import IssueTracker.Api.Submission
import IssueTracker.Http.MediaType

/-!
# Operations

What callers can have done, up to the point where the stores are asked. Every operation requires
one of certain scopes. Its request is taken apart in a fixed order: the segments that stand for
identifiers, then the query or the body. Only then is it checked whether the caller may do this,
and last whether what was submitted obeys the rules of its kind. What remains for the stores is an
errand.
-/

namespace IssueTracker.Api

open Auth Store Http

/-- An operation, with the segments that stand for identifiers as written. -/
inductive Operation
  | listCustomers
  | createCustomer
  | getCustomer (id : String)
  | updateCustomer (id : String)
  | listProjects
  | createProject
  | getProject (id : String)
  | updateProject (id : String)
  | listIssues (project : String)
  | createIssue (project : String)
  | getIssue (project id : String)
  | updateIssue (project id : String)
  | listComments (project issue : String)
  | createComment (project issue : String)
  | getComment (project issue id : String)
  | updateComment (project issue id : String)
  | listUsers
  | getUser (id : String)
deriving Repr, DecidableEq

/-- The scopes of which an operation requires one. Who may write may read. -/
def Operation.required : Operation → List String
  | .listCustomers | .getCustomer _ => ["tracker/customer.read", "tracker/customer.write"]
  | .createCustomer | .updateCustomer _ => ["tracker/customer.write"]
  | .listProjects | .getProject _ => ["tracker/project.read", "tracker/project.write"]
  | .createProject | .updateProject _ => ["tracker/project.write"]
  | .listIssues _ | .getIssue _ _ | .listComments _ _ | .getComment _ _ _ =>
    ["tracker/issue.read", "tracker/issue.write"]
  | .createIssue _ | .updateIssue _ _ | .createComment _ _ | .updateComment _ _ _ =>
    ["tracker/issue.write"]
  | .listUsers | .getUser _ => ["tracker/user.read"]

/-- What parsers say of the parts of a request that they cannot read. The words are the parsers'
own, and may tell of a place in a text. Fixed is only what the parsers look at: the operation, which
has the segments and settles the type of what is read, and the text itself. -/
structure Wording where
  path : Operation → String
  query : String → String
  body : Operation → Bytes → String

/-- A wording that tells no more than what kind of thing is at fault. -/
def Wording.brief : Wording where
  path _ := "a segment is no identifier"
  query _ := "a value is not as expected"
  body _ _ := "the text is not as expected"

/-- Why a request is not understood. -/
inductive Rejection
  /-- A segment names no identifier. -/
  | path
  | query
  /-- The headers do not declare a JSON body. -/
  | mediaType
  /-- The body is longer than it may be. -/
  | length
  /-- The body is not JSON. -/
  | jsonText
  /-- The body is JSON of another shape. -/
  | jsonShape
deriving Repr, DecidableEq

namespace Rejection

/-- The rejection of a body that cannot be read. -/
def ofFault : Json.Fault → Rejection
  | .malformed => .jsonText
  | _ => .jsonShape

/-- The status of the response. -/
def status : Rejection → Nat
  | .path | .query | .jsonText => 400
  | .mediaType => 415
  | .length => 413
  | .jsonShape => 422

/-- What the text of the response begins with. -/
def headline : Rejection → String
  | .path => "Invalid URL"
  | .query => "Failed to deserialize query string"
  | .mediaType => "Expected request with `Content-Type: application/json`"
  | .length => "Failed to buffer the request body: length limit exceeded"
  | .jsonText => "Failed to parse the request body as JSON"
  | .jsonShape => "Failed to deserialize the JSON body into the target type"

/-- What the parser adds that could not read a part of a request. No parser has looked at the body
when its declared type or its length is at fault. -/
def detail? (wording : Wording) (operation : Operation) (request : Request) :
    Rejection → Option String
  | .path => some (wording.path operation)
  | .query => some (wording.query request.query)
  | .jsonText | .jsonShape => some (wording.body operation request.body)
  | .mediaType | .length => none

/-- The text of the response. -/
def message (wording : Wording) (operation : Operation) (request : Request)
    (rejection : Rejection) : String :=
  match rejection.detail? wording operation request with
  | some detail => rejection.headline ++ ": " ++ detail
  | none => rejection.headline

/-- The response. -/
def toResponse (wording : Wording) (operation : Operation) (request : Request)
    (rejection : Rejection) : Response :=
  .text rejection.status (rejection.message wording operation request)

end Rejection

/-- Why a request is answered without asking the stores. -/
inductive Refusal
  | rejected (rejection : Rejection)
  | failed (error : ApiError)
deriving Repr, DecidableEq

/-- The response. -/
def Refusal.toResponse (wording : Wording) (operation : Operation) (request : Request) :
    Refusal → Response
  | .rejected rejection => rejection.toResponse wording operation request
  | .failed error => error.toResponse

/-- What an operation knows besides its location and verb. -/
structure Occasion where
  request : Request
  /-- How long a body may be. -/
  bodyLimit : Nat
  /-- The attributes of the request. -/
  state : RequestState
  /-- The customer whose projects are served. -/
  tenant : Uuid
  /-- A reading of the clock, for what is recorded. -/
  now : Instant
  /-- An identifier that no record has, for a record that is created. -/
  freshId : Uuid

namespace Occasion

/-- The identifier that a segment names once its escapes are resolved. -/
def identifier (segment : String) : Except Refusal Uuid :=
  match (Utf8.decode? (Percent.decode (Utf8.encode segment))).bind Uuid.ofText? with
  | some id => .ok id
  | none => .error (.rejected .path)

/-- The list request in the query. -/
def listing (occasion : Occasion) : Except Refusal Listing :=
  match ListRequest.ofQuery (Utf8.encode occasion.request.query) with
  | some listing => .ok listing
  | none => .error (.rejected .query)

/-- What is submitted in the body. -/
def submission {α : Type} (occasion : Occasion) (reader : Json.Reader α) : Except Refusal α :=
  if !MediaType.declaresJson occasion.request.headers then .error (.rejected .mediaType)
  else if occasion.bodyLimit < occasion.request.body.length then .error (.rejected .length)
  else
    match Json.decode reader occasion.request.body with
    | .ok submitted => .ok submitted
    | .error fault => .error (.rejected (.ofFault fault))

/-- Go on only if the caller may do this. -/
def authorize (occasion : Occasion) : Except Refusal Unit :=
  match occasion.state.requireScope with
  | .ok () => .ok ()
  | .error error => .error (.failed error)

/-- The subject of the caller. -/
def subject (occasion : Occasion) : Except Refusal String :=
  match occasion.state.subject with
  | .ok subject => .ok subject
  | .error error => .error (.failed error)

/-- Go on only if what was submitted obeys its rules. -/
def valid {α : Type} : Except Submission.BlankField α → Except Refusal α
  | .ok checked => .ok checked
  | .error field => .error (.failed (.badRequest "VALIDATION_ERROR" field.message))

/-- A call that creates a record. -/
def creation {ο φ : Type} (occasion : Occasion) (origin : ο) (fields : φ) : Call ο φ :=
  .create origin fields occasion.freshId occasion.now

/-- What a caller submits for a customer or a project, if the caller may do so. -/
def profile (occasion : Occasion) : Except Refusal Profile := do
  let submitted ← occasion.submission Submission.profile
  occasion.authorize
  valid (Submission.checkProfile submitted)

/-- What a caller submits for an issue, if the caller may do so. -/
def issue (occasion : Occasion) : Except Refusal IssueFields := do
  let submitted ← occasion.submission Submission.issue
  occasion.authorize
  valid (Submission.checkIssue submitted)

/-- What a caller submits for a comment, if the caller may do so. -/
def comment (occasion : Occasion) : Except Refusal String := do
  let submitted ← occasion.submission Submission.comment
  occasion.authorize
  valid (Submission.checkComment submitted)

/-- The list request in the query, if the caller may make it. -/
def allowedListing (occasion : Occasion) : Except Refusal Listing := do
  let listing ← occasion.listing
  occasion.authorize
  return listing

/-- What the service decides when an issue is created. -/
def issueOrigin (occasion : Occasion) : Except Refusal IssueOrigin := do
  let reporter ← occasion.subject
  return { reporter, state := createdState }

/-- The errand of an operation. -/
def errand (occasion : Occasion) : Operation → Except Refusal Errand
  | .listCustomers => do
    let listing ← occasion.allowedListing
    return .last (.customers (.list listing))
  | .createCustomer => do
    let fields ← occasion.profile
    return .last (.customers (occasion.creation () fields))
  | .getCustomer id => do
    let id ← identifier id
    occasion.authorize
    return .last (.customers (.get id))
  | .updateCustomer id => do
    let id ← identifier id
    let fields ← occasion.profile
    return .last (.customers (.update id fields occasion.now))
  | .listProjects => do
    let listing ← occasion.allowedListing
    return .last (.projects occasion.tenant (.list listing))
  | .createProject => do
    let fields ← occasion.profile
    return .last (.projects occasion.tenant (occasion.creation () fields))
  | .getProject id => do
    let id ← identifier id
    occasion.authorize
    return .last (.projects occasion.tenant (.get id))
  | .updateProject id => do
    let id ← identifier id
    let fields ← occasion.profile
    return .last (.projects occasion.tenant (.update id fields occasion.now))
  | .listIssues project => do
    let project ← identifier project
    let listing ← occasion.allowedListing
    return .issuesOf occasion.tenant project (.list listing)
  | .createIssue project => do
    let project ← identifier project
    let fields ← occasion.issue
    let origin ← occasion.issueOrigin
    return .issuesOf occasion.tenant project (occasion.creation origin fields)
  | .getIssue project id => do
    let project ← identifier project
    let id ← identifier id
    occasion.authorize
    return .issuesOf occasion.tenant project (.get id)
  | .updateIssue project id => do
    let project ← identifier project
    let id ← identifier id
    let fields ← occasion.issue
    return .issuesOf occasion.tenant project (.update id fields occasion.now)
  | .listComments project issue => do
    let project ← identifier project
    let issue ← identifier issue
    let listing ← occasion.allowedListing
    return .commentsOf occasion.tenant project issue (.list listing)
  | .createComment project issue => do
    let project ← identifier project
    let issue ← identifier issue
    let content ← occasion.comment
    let author ← occasion.subject
    return .commentsOf occasion.tenant project issue (occasion.creation author content)
  | .getComment project issue id => do
    let project ← identifier project
    let issue ← identifier issue
    let id ← identifier id
    occasion.authorize
    return .commentsOf occasion.tenant project issue (.get id)
  | .updateComment project issue id => do
    let project ← identifier project
    let issue ← identifier issue
    let id ← identifier id
    let content ← occasion.comment
    return .commentsOf occasion.tenant project issue (.update id content occasion.now)
  | .listUsers => do
    occasion.authorize
    throw (.failed .notImplemented)
  | .getUser id => do
    let _ ← identifier id
    occasion.authorize
    throw (.failed .notImplemented)

end Occasion

end IssueTracker.Api

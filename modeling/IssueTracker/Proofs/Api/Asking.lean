import IssueTracker.Api.Operation
import IssueTracker.Proofs.Except
import IssueTracker.Proofs.Store.Resolution

/-!
# What a request asks for

A well-formed request for an operation asks for one call on the stores. Which one is said here for
each operation, without the order in which a request is taken apart and without regard to what the
caller may do. An errand comes out exactly if the request asks for its call and the caller may do
this.

A caller who may not do what the operation requires has no errand in any case, but is told so only
if the request could be read. Of what cannot be read the first thing counts: the segments that stand
for identifiers, and then the query or the body. Whether a submission obeys the rules of its kind is
not asked before the caller may make it.
-/

namespace IssueTracker.Api

open Store Http

/-- What a caller may submit. -/
inductive Form
  | profile
  | issue
  | comment
deriving DecidableEq

namespace Form

/-- The fields of a submission. -/
def fields : Form → List Json.Field
  | .profile => Submission.profileFields
  | .issue => Submission.issueFields
  | .comment => Submission.commentFields

/-- What is read of it. -/
abbrev Content : Form → Type
  | .profile => Profile
  | .issue => IssueFields
  | .comment => String

/-- How a submission is read. -/
def reader : (form : Form) → Json.Reader form.Content
  | .profile => Submission.profile
  | .issue => Submission.issue
  | .comment => Submission.comment

/-- What is wrong with a body as a submission. -/
def fault? (form : Form) (body : Bytes) : Option Json.Fault :=
  match Json.decode form.reader body with
  | .ok _ => none
  | .error fault => some fault

end Form

/-- What an operation reads of a request besides its path. -/
inductive Matter
  | nothing
  | query
  | body (form : Form)
deriving DecidableEq

namespace Operation

/-- The segments that stand for identifiers. -/
def segments : Operation → List String
  | .listCustomers | .createCustomer | .listProjects | .createProject | .listUsers => []
  | .getCustomer id | .updateCustomer id | .getProject id | .updateProject id | .getUser id => [id]
  | .listIssues project | .createIssue project => [project]
  | .getIssue project id | .updateIssue project id => [project, id]
  | .listComments project issue | .createComment project issue => [project, issue]
  | .getComment project issue id | .updateComment project issue id => [project, issue, id]

/-- What is read besides them. -/
def matter : Operation → Matter
  | .listCustomers | .listProjects | .listIssues _ | .listComments _ _ => .query
  | .createCustomer | .updateCustomer _ | .createProject | .updateProject _ =>
    .body .profile
  | .createIssue _ | .updateIssue _ _ => .body .issue
  | .createComment _ _ | .updateComment _ _ _ => .body .comment
  | .getCustomer _ | .getProject _ | .getIssue _ _ | .getComment _ _ _ | .listUsers | .getUser _ =>
    .nothing

end Operation

namespace Occasion

/-- Whether a body is submitted as one that a reader accepts. -/
structure Submits {α : Type} (occasion : Occasion) (reader : Json.Reader α) (submitted : α) :
    Prop where
  declared : MediaType.declaresJson occasion.request.headers = true
  fits : occasion.request.body.length ≤ occasion.bodyLimit
  read : Json.decode reader occasion.request.body = .ok submitted

/-- Whether what is submitted obeys its rules, and what is then to be stored of it. -/
def Supplies {α : Type} (occasion : Occasion) (reader : Json.Reader α)
    (check : α → Except Submission.BlankField α) (stored : α) : Prop :=
  ∃ submitted, occasion.Submits reader submitted ∧ check submitted = .ok stored

/-- Whether a request for an operation asks for a call. Users have no store, so nothing about them
does. -/
inductive Asks (occasion : Occasion) : Operation → StoreCall → Prop
  | listCustomers {listing : Listing} (listed : occasion.listing = .ok listing) :
      Asks occasion .listCustomers (.customers (.list listing))
  | createCustomer {fields : Profile}
      (supplied : occasion.Supplies Submission.profile Submission.checkProfile fields) :
      Asks occasion .createCustomer (.customers (occasion.creation () fields))
  | getCustomer {segment : String} {id : Uuid} (named : identifier segment = .ok id) :
      Asks occasion (.getCustomer segment) (.customers (.get id))
  | updateCustomer {segment : String} {id : Uuid} {fields : Profile}
      (named : identifier segment = .ok id)
      (supplied : occasion.Supplies Submission.profile Submission.checkProfile fields) :
      Asks occasion (.updateCustomer segment) (.customers (.update id fields occasion.now))
  | listProjects {listing : Listing} (listed : occasion.listing = .ok listing) :
      Asks occasion .listProjects (.projects occasion.tenant (.list listing))
  | createProject {fields : Profile}
      (supplied : occasion.Supplies Submission.profile Submission.checkProfile fields) :
      Asks occasion .createProject (.projects occasion.tenant (occasion.creation () fields))
  | getProject {segment : String} {id : Uuid} (named : identifier segment = .ok id) :
      Asks occasion (.getProject segment) (.projects occasion.tenant (.get id))
  | updateProject {segment : String} {id : Uuid} {fields : Profile}
      (named : identifier segment = .ok id)
      (supplied : occasion.Supplies Submission.profile Submission.checkProfile fields) :
      Asks occasion (.updateProject segment)
        (.projects occasion.tenant (.update id fields occasion.now))
  | listIssues {segment : String} {project : Uuid} {listing : Listing}
      (named : identifier segment = .ok project) (listed : occasion.listing = .ok listing) :
      Asks occasion (.listIssues segment) (.issues ⟨occasion.tenant, project⟩ (.list listing))
  | createIssue {segment : String} {project : Uuid} {fields : IssueFields} {reporter : String}
      (named : identifier segment = .ok project)
      (supplied : occasion.Supplies Submission.issue Submission.checkIssue fields)
      (known : occasion.subject = .ok reporter) :
      Asks occasion (.createIssue segment)
        (.issues ⟨occasion.tenant, project⟩ (occasion.creation ⟨reporter, createdState⟩ fields))
  | getIssue {first second : String} {project id : Uuid} (parent : identifier first = .ok project)
      (named : identifier second = .ok id) :
      Asks occasion (.getIssue first second) (.issues ⟨occasion.tenant, project⟩ (.get id))
  | updateIssue {first second : String} {project id : Uuid} {fields : IssueFields}
      (parent : identifier first = .ok project) (named : identifier second = .ok id)
      (supplied : occasion.Supplies Submission.issue Submission.checkIssue fields) :
      Asks occasion (.updateIssue first second)
        (.issues ⟨occasion.tenant, project⟩ (.update id fields occasion.now))
  | listComments {first second : String} {project issue : Uuid} {listing : Listing}
      (grandparent : identifier first = .ok project) (parent : identifier second = .ok issue)
      (listed : occasion.listing = .ok listing) :
      Asks occasion (.listComments first second)
        (.comments ⟨occasion.tenant, project, issue⟩ (.list listing))
  | createComment {first second : String} {project issue : Uuid} {content author : String}
      (grandparent : identifier first = .ok project) (parent : identifier second = .ok issue)
      (supplied : occasion.Supplies Submission.comment Submission.checkComment content)
      (known : occasion.subject = .ok author) :
      Asks occasion (.createComment first second)
        (.comments ⟨occasion.tenant, project, issue⟩ (occasion.creation author content))
  | getComment {first second third : String} {project issue id : Uuid}
      (grandparent : identifier first = .ok project) (parent : identifier second = .ok issue)
      (named : identifier third = .ok id) :
      Asks occasion (.getComment first second third)
        (.comments ⟨occasion.tenant, project, issue⟩ (.get id))
  | updateComment {first second third : String} {project issue id : Uuid} {content : String}
      (grandparent : identifier first = .ok project) (parent : identifier second = .ok issue)
      (named : identifier third = .ok id)
      (supplied : occasion.Supplies Submission.comment Submission.checkComment content) :
      Asks occasion (.updateComment first second third)
        (.comments ⟨occasion.tenant, project, issue⟩ (.update id content occasion.now))

/-- What is wrong with what a request brings along besides its path. -/
def matterFlaw? (occasion : Occasion) : Matter → Option Rejection
  | .nothing => none
  | .query =>
    if (ListRequest.ofQuery (Utf8.encode occasion.request.query)).isSome then none else some .query
  | .body form =>
    if !MediaType.declaresJson occasion.request.headers then some .mediaType
    else if occasion.bodyLimit < occasion.request.body.length then some .length
    else (form.fault? occasion.request.body).map .ofFault

/-- What is wrong with segments that stand for identifiers, or else with what is read besides. -/
def flawOf? (segments : List String) (other? : Option Rejection) : Option Rejection :=
  if ∀ segment ∈ segments, (identifier segment).isOk then other? else some .path

/-- The first thing in a request for an operation that cannot be read. -/
def flaw? (occasion : Occasion) (operation : Operation) : Option Rejection :=
  flawOf? operation.segments (occasion.matterFlaw? operation.matter)

section Passing

variable {occasion : Occasion}

/-- What was submitted obeys its rules if the operation goes on. -/
theorem valid_eq_ok_iff {α : Type} {result : Except Submission.BlankField α} {checked : α} :
    valid result = .ok checked ↔ result = .ok checked := by
  cases result <;> simp [valid]

/-- The body is read as a submission exactly if it is declared to be JSON, is no longer than it may
be, and is one. -/
theorem submission_eq_ok_iff {α : Type} {reader : Json.Reader α} {submitted : α} :
    occasion.submission reader = .ok submitted ↔ occasion.Submits reader submitted := by
  unfold submission
  constructor
  · intro read
    split at read
    · cases read
    · next declared =>
      split at read
      · cases read
      · next fits =>
        split at read
        · next found =>
          cases read
          exact ⟨by simpa using declared, Nat.le_of_not_lt fits, found⟩
        · cases read
  · rintro ⟨declared, fits, read⟩
    simp [declared, Nat.not_lt.mpr fits, read]

/-- A submission is passed on exactly if the caller may make it and it is well-formed. -/
theorem supplied_iff {α : Type} {reader : Json.Reader α}
    {check : α → Except Submission.BlankField α} {stored : α} :
    (do
        let submitted ← occasion.submission reader
        occasion.authorize
        valid (check submitted)) = .ok stored ↔
      occasion.authorize = .ok () ∧ occasion.Supplies reader check stored := by
  simp only [Except.bind_eq_ok, submission_eq_ok_iff, valid_eq_ok_iff, Supplies]
  constructor
  · rintro ⟨submitted, submits, _, allowed, checked⟩
    exact ⟨allowed, submitted, submits, checked⟩
  · rintro ⟨allowed, submitted, submits, checked⟩
    exact ⟨submitted, submits, (), allowed, checked⟩

theorem profile_eq_ok_iff {fields : Profile} :
    occasion.profile = .ok fields ↔
      occasion.authorize = .ok () ∧
        occasion.Supplies Submission.profile Submission.checkProfile fields :=
  supplied_iff

theorem issue_eq_ok_iff {fields : IssueFields} :
    occasion.issue = .ok fields ↔
      occasion.authorize = .ok () ∧
        occasion.Supplies Submission.issue Submission.checkIssue fields :=
  supplied_iff

theorem comment_eq_ok_iff {content : String} :
    occasion.comment = .ok content ↔
      occasion.authorize = .ok () ∧
        occasion.Supplies Submission.comment Submission.checkComment content :=
  supplied_iff

/-- A list request is passed on exactly if the caller may make it and it is well-formed. -/
theorem allowedListing_eq_ok_iff {listing : Listing} :
    occasion.allowedListing = .ok listing ↔
      occasion.authorize = .ok () ∧ occasion.listing = .ok listing := by
  simp only [allowedListing, Except.bind_eq_ok]
  constructor
  · rintro ⟨_, listed, _, allowed, same⟩
    cases same
    exact ⟨allowed, listed⟩
  · rintro ⟨allowed, listed⟩
    exact ⟨listing, listed, (), allowed, rfl⟩

/-- An issue is created in the name of the caller. -/
theorem issueOrigin_eq_ok_iff {origin : IssueOrigin} :
    occasion.issueOrigin = .ok origin ↔
      ∃ reporter, occasion.subject = .ok reporter ∧ ⟨reporter, createdState⟩ = origin := by
  simp [issueOrigin, Except.bind_eq_ok, pure, Except.pure]

/-- There is an errand exactly if the caller may do what the operation requires and the request asks
for a call; the errand is then about that call. -/
theorem errand_eq_ok_iff {operation : Operation} {errand : Errand} :
    occasion.errand operation = .ok errand ↔
      occasion.authorize = .ok () ∧
        ∃ call, occasion.Asks operation call ∧ call.errand = errand := by
  constructor
  · intro passed
    cases operation <;>
      simp only [Occasion.errand, Except.bind_eq_ok, profile_eq_ok_iff, issue_eq_ok_iff,
        comment_eq_ok_iff, allowedListing_eq_ok_iff, issueOrigin_eq_ok_iff] at passed
    case listCustomers =>
      obtain ⟨_, ⟨allowed, listed⟩, made⟩ := passed
      cases made
      exact ⟨allowed, _, .listCustomers listed, rfl⟩
    case createCustomer =>
      obtain ⟨_, ⟨allowed, supplied⟩, made⟩ := passed
      cases made
      exact ⟨allowed, _, .createCustomer supplied, rfl⟩
    case getCustomer =>
      obtain ⟨_, named, _, allowed, made⟩ := passed
      cases made
      exact ⟨allowed, _, .getCustomer named, rfl⟩
    case updateCustomer =>
      obtain ⟨_, named, _, ⟨allowed, supplied⟩, made⟩ := passed
      cases made
      exact ⟨allowed, _, .updateCustomer named supplied, rfl⟩
    case listProjects =>
      obtain ⟨_, ⟨allowed, listed⟩, made⟩ := passed
      cases made
      exact ⟨allowed, _, .listProjects listed, rfl⟩
    case createProject =>
      obtain ⟨_, ⟨allowed, supplied⟩, made⟩ := passed
      cases made
      exact ⟨allowed, _, .createProject supplied, rfl⟩
    case getProject =>
      obtain ⟨_, named, _, allowed, made⟩ := passed
      cases made
      exact ⟨allowed, _, .getProject named, rfl⟩
    case updateProject =>
      obtain ⟨_, named, _, ⟨allowed, supplied⟩, made⟩ := passed
      cases made
      exact ⟨allowed, _, .updateProject named supplied, rfl⟩
    case listIssues =>
      obtain ⟨_, named, _, ⟨allowed, listed⟩, made⟩ := passed
      cases made
      exact ⟨allowed, _, .listIssues named listed, rfl⟩
    case createIssue =>
      obtain ⟨_, named, _, ⟨allowed, supplied⟩, _, ⟨_, known, rfl⟩, made⟩ := passed
      cases made
      exact ⟨allowed, _, .createIssue named supplied known, rfl⟩
    case getIssue =>
      obtain ⟨_, parent, _, named, _, allowed, made⟩ := passed
      cases made
      exact ⟨allowed, _, .getIssue parent named, rfl⟩
    case updateIssue =>
      obtain ⟨_, parent, _, named, _, ⟨allowed, supplied⟩, made⟩ := passed
      cases made
      exact ⟨allowed, _, .updateIssue parent named supplied, rfl⟩
    case listComments =>
      obtain ⟨_, grandparent, _, parent, _, ⟨allowed, listed⟩, made⟩ := passed
      cases made
      exact ⟨allowed, _, .listComments grandparent parent listed, rfl⟩
    case createComment =>
      obtain ⟨_, grandparent, _, parent, _, ⟨allowed, supplied⟩, _, known, made⟩ := passed
      cases made
      exact ⟨allowed, _, .createComment grandparent parent supplied known, rfl⟩
    case getComment =>
      obtain ⟨_, grandparent, _, parent, _, named, _, allowed, made⟩ := passed
      cases made
      exact ⟨allowed, _, .getComment grandparent parent named, rfl⟩
    case updateComment =>
      obtain ⟨_, grandparent, _, parent, _, named, _, ⟨allowed, supplied⟩, made⟩ := passed
      cases made
      exact ⟨allowed, _, .updateComment grandparent parent named supplied, rfl⟩
    -- Users have no store: behind all checks there is only a failure.
    case listUsers =>
      obtain ⟨_, _, failed⟩ := passed
      cases failed
    case getUser =>
      obtain ⟨_, _, _, _, failed⟩ := passed
      cases failed
  · rintro ⟨allowed, call, asks, rfl⟩
    cases asks <;>
      simp only [Occasion.errand, Except.bind_eq_ok, profile_eq_ok_iff, issue_eq_ok_iff,
        comment_eq_ok_iff, allowedListing_eq_ok_iff, issueOrigin_eq_ok_iff]
    case listCustomers listed => exact ⟨_, ⟨allowed, listed⟩, rfl⟩
    case createCustomer supplied => exact ⟨_, ⟨allowed, supplied⟩, rfl⟩
    case getCustomer named => exact ⟨_, named, (), allowed, rfl⟩
    case updateCustomer named supplied => exact ⟨_, named, _, ⟨allowed, supplied⟩, rfl⟩
    case listProjects listed => exact ⟨_, ⟨allowed, listed⟩, rfl⟩
    case createProject supplied => exact ⟨_, ⟨allowed, supplied⟩, rfl⟩
    case getProject named => exact ⟨_, named, (), allowed, rfl⟩
    case updateProject named supplied => exact ⟨_, named, _, ⟨allowed, supplied⟩, rfl⟩
    case listIssues named listed => exact ⟨_, named, _, ⟨allowed, listed⟩, rfl⟩
    case createIssue named supplied known =>
      exact ⟨_, named, _, ⟨allowed, supplied⟩, _, ⟨_, known, rfl⟩, rfl⟩
    case getIssue parent named => exact ⟨_, parent, _, named, (), allowed, rfl⟩
    case updateIssue parent named supplied =>
      exact ⟨_, parent, _, named, _, ⟨allowed, supplied⟩, rfl⟩
    case listComments grandparent parent listed =>
      exact ⟨_, grandparent, _, parent, _, ⟨allowed, listed⟩, rfl⟩
    case createComment grandparent parent supplied known =>
      exact ⟨_, grandparent, _, parent, _, ⟨allowed, supplied⟩, _, known, rfl⟩
    case getComment grandparent parent named =>
      exact ⟨_, grandparent, _, parent, _, named, (), allowed, rfl⟩
    case updateComment grandparent parent named supplied =>
      exact ⟨_, grandparent, _, parent, _, named, _, ⟨allowed, supplied⟩, rfl⟩

end Passing

section Denial

variable {occasion : Occasion} {refusal : Refusal}

/-- What is told a caller who may not do what is asked for: what is wrong with the request, or else
that this may not be done. -/
def denial (flaw? : Option Rejection) (refusal : Refusal) : Refusal :=
  (flaw?.map .rejected).getD refusal

/-- Who may make no submission is told so if what is submitted can be read. -/
theorem submission_of_denied {β : Type} (form : Form) {next : form.Content → Except Refusal β}
    (denied : occasion.authorize = .error refusal) :
    (do
        let submitted ← occasion.submission form.reader
        occasion.authorize
        next submitted) =
      .error (denial (occasion.matterFlaw? (.body form)) refusal) := by
  unfold submission matterFlaw?
  simp only [Form.fault?]
  split
  · simp [denial, bind, Except.bind]
  · split
    · simp [denial, bind, Except.bind]
    · split
      · next found => simp [found, denied, denial, bind, Except.bind]
      · next found => simp [found, denial, bind, Except.bind]

theorem profile_of_denied (denied : occasion.authorize = .error refusal) :
    occasion.profile = .error (denial (occasion.matterFlaw? (.body .profile)) refusal) :=
  submission_of_denied .profile denied

theorem issue_of_denied (denied : occasion.authorize = .error refusal) :
    occasion.issue = .error (denial (occasion.matterFlaw? (.body .issue)) refusal) :=
  submission_of_denied .issue denied

theorem comment_of_denied (denied : occasion.authorize = .error refusal) :
    occasion.comment = .error (denial (occasion.matterFlaw? (.body .comment)) refusal) :=
  submission_of_denied .comment denied

/-- Who may make no list request is told so if it can be read. -/
theorem allowedListing_of_denied (denied : occasion.authorize = .error refusal) :
    occasion.allowedListing = .error (denial (occasion.matterFlaw? .query) refusal) := by
  unfold allowedListing listing matterFlaw?
  split
  · next found => simp [found, denied, denial, bind, Except.bind]
  · next absent => simp [absent, denial, bind, Except.bind]

/-- A segment names an identifier, or else the path is to blame. -/
theorem identifier_cases (segment : String) :
    (∃ id, identifier segment = .ok id) ∨ identifier segment = .error (.rejected .path) := by
  unfold identifier
  split
  · exact .inl ⟨_, rfl⟩
  · exact .inr rfl

/-- A segment is read before all that follows. -/
theorem identifier_of_denied {β : Type} {segment : String} {segments : List String}
    {other? : Option Rejection} {next : Uuid → Except Refusal β}
    (later : ∀ id, next id = .error (denial (flawOf? segments other?) refusal)) :
    (do
        let id ← identifier segment
        next id) = .error (denial (flawOf? (segment :: segments) other?) refusal) := by
  rcases identifier_cases segment with ⟨id, named⟩ | unnamed
  · have read : (identifier segment).isOk = true := by rw [named]; rfl
    have same : flawOf? (segment :: segments) other? = flawOf? segments other? := by
      simp only [flawOf?, List.forall_mem_cons, read, true_and]
    rw [same, named]
    exact later id
  · have wrong : flawOf? (segment :: segments) other? = some .path := by
      simp [flawOf?, unnamed, Except.isOk, Except.toBool]
    rw [wrong, unnamed]
    rfl

/-- A caller who may not do what an operation requires is told of the first thing in the request
that cannot be read, and that this may not be done only if there is no such thing. -/
theorem errand_of_denied (denied : occasion.authorize = .error refusal) (operation : Operation) :
    occasion.errand operation = .error (denial (occasion.flaw? operation) refusal) := by
  have pathless (other? : Option Rejection) : flawOf? [] other? = other? := by simp [flawOf?]
  have listing := allowedListing_of_denied denied
  have profile := profile_of_denied denied
  have issue := issue_of_denied denied
  have comment := comment_of_denied denied
  -- The cases differ in how many segments are read first.
  cases operation
  case listCustomers | createCustomer | listProjects | createProject | listUsers =>
    simp only [Occasion.errand, flaw?, Operation.segments, Operation.matter, pathless, listing,
      profile, denied]
    rfl
  case getCustomer | updateCustomer | getProject | updateProject | listIssues | createIssue |
      getUser =>
    refine identifier_of_denied fun _ => ?_
    simp only [Operation.matter, pathless, listing, profile, issue, denied]
    rfl
  case getIssue | updateIssue | listComments | createComment =>
    refine identifier_of_denied fun _ => identifier_of_denied fun _ => ?_
    simp only [Operation.matter, pathless, listing, issue, comment, denied]
    rfl
  case getComment | updateComment =>
    refine identifier_of_denied fun _ => identifier_of_denied fun _ =>
      identifier_of_denied fun _ => ?_
    simp only [Operation.matter, pathless, comment, denied]
    rfl

end Denial

section Dependence

variable {one other : Occasion} {operation : Operation}

end Dependence

end Occasion

end IssueTracker.Api

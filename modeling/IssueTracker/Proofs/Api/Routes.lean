import IssueTracker.Api.Location
import IssueTracker.Proofs.Text.Split

/-!
# The guarded routes

The routes of the service as a table: a method, the parts of the path behind its base, and the
scopes of which one is required. The table is read on its own, without the functions that find the
location of a path; whatever those let through to an operation is a route of the table, with the
scopes that the operation requires.
-/

namespace IssueTracker.Api

/-- A part of a route. -/
inductive Part
  /-- A segment as written. -/
  | word (text : String)
  /-- Any one segment. -/
  | parameter
deriving Repr, DecidableEq

/-- Whether a part stands for a segment. A parameter stands for all of them, but not for nothing
and not for two. -/
def Part.Fits : Part → String → Prop
  | .word text, segment => segment = text
  | .parameter, segment => segment ≠ "" ∧ '/' ∉ segment.toList

/-- A guarded route. -/
structure Route where
  method : String
  parts : List Part
  /-- The scopes of which one is required. -/
  required : List String
deriving Repr, DecidableEq

namespace Route

/-- The characters of a path: the base and each segment behind a solidus. -/
def written (segments : List String) : List Char :=
  "/api/v1".toList ++ segments.flatMap ('/' :: ·.toList)

/-- Whether a route serves a method at a path. What is served to readers is also served to those
who ask for headers alone. -/
structure Serves (route : Route) (method path : String) : Prop where
  method : method = route.method ∨ method = "HEAD" ∧ route.method = "GET"
  path : ∃ segments, List.Forall₂ Part.Fits route.parts segments ∧ path.toList = written segments

/-- Who may read and who may write a kind of record. -/
def readers (kind : String) : List String :=
  ["tracker/" ++ kind ++ ".read", "tracker/" ++ kind ++ ".write"]

/-- Who may write a kind of record. -/
def writers (kind : String) : List String := ["tracker/" ++ kind ++ ".write"]

/-- The parts of the path of a project's issues. -/
def issueParts : List Part := [.word "projects", .parameter, .word "issues"]

/-- The parts of the path of an issue's comments. -/
def commentParts : List Part := issueParts ++ [.parameter, .word "comments"]

/-- All guarded routes. -/
def guarded : List Route := [
  ⟨"GET", [.word "customers"], readers "customer"⟩,
  ⟨"POST", [.word "customers"], writers "customer"⟩,
  ⟨"GET", [.word "customers", .parameter], readers "customer"⟩,
  ⟨"PUT", [.word "customers", .parameter], writers "customer"⟩,
  ⟨"GET", [.word "projects"], readers "project"⟩,
  ⟨"POST", [.word "projects"], writers "project"⟩,
  ⟨"GET", [.word "projects", .parameter], readers "project"⟩,
  ⟨"PUT", [.word "projects", .parameter], writers "project"⟩,
  ⟨"GET", issueParts, readers "issue"⟩,
  ⟨"POST", issueParts, writers "issue"⟩,
  ⟨"GET", issueParts ++ [.parameter], readers "issue"⟩,
  ⟨"PUT", issueParts ++ [.parameter], writers "issue"⟩,
  ⟨"GET", commentParts, readers "issue"⟩,
  ⟨"POST", commentParts, writers "issue"⟩,
  ⟨"GET", commentParts ++ [.parameter], readers "issue"⟩,
  ⟨"PUT", commentParts ++ [.parameter], writers "issue"⟩,
  ⟨"GET", [.word "users"], ["tracker/user.read"]⟩,
  ⟨"GET", [.word "users", .parameter], ["tracker/user.read"]⟩]

end Route

namespace Verb

/-- The method that a verb is named for. -/
def method : Verb → String
  | .get => "GET"
  | .post => "POST"
  | .put => "PUT"

/-- A verb serves its own method, and that for readers also the one for headers alone. -/
theorem ofMethod?_eq_some_iff {method : String} {verb : Verb} :
    ofMethod? method = some verb ↔ method = verb.method ∨ method = "HEAD" ∧ verb = .get := by
  constructor
  · intro found
    unfold ofMethod? at found
    split at found
    · next reading =>
      cases found
      rcases reading with rfl | rfl
      · exact .inl rfl
      · exact .inr ⟨rfl, rfl⟩
    · split at found
      · next creating =>
        cases found
        exact .inl creating
      · split at found
        · next updating =>
          cases found
          exact .inl updating
        · cases found
  · rintro (rfl | ⟨rfl, rfl⟩)
    · cases verb <;> rfl
    · rfl

end Verb

namespace Location

/-- The segments that name a location. -/
def segments : Location → List String
  | .health => ["health"]
  | .customers => ["customers"]
  | .customer id => ["customers", id]
  | .projects => ["projects"]
  | .project id => ["projects", id]
  | .issues p => ["projects", p, "issues"]
  | .issue p id => ["projects", p, "issues", id]
  | .comments p i => ["projects", p, "issues", i, "comments"]
  | .comment p i id => ["projects", p, "issues", i, "comments", id]
  | .users => ["users"]
  | .user id => ["users", id]

/-- Segments name a location exactly if they are the ones of that location. -/
theorem ofSegments?_eq_some_iff (segments : List String) (location : Location) :
    ofSegments? segments = some location ↔ segments = location.segments := by
  constructor
  · intro found
    unfold ofSegments? at found
    split at found <;> cases found <;> rfl
  · rintro rfl
    cases location <;> rfl

/-- Pieces with a solidus between them are the first, and the others behind a solidus each. -/
theorem intercalate_eq (first : List Char) (others : List (List Char)) :
    ['/'].intercalate (first :: others) = first ++ others.flatMap ('/' :: ·) := by
  induction others generalizing first with
  | nil => simp
  | cons second others inductionHypothesis =>
    rw [List.intercalate_cons_cons, inductionHypothesis]
    simp

/-- The base of all paths is cut into an empty piece and two segments. -/
theorem written_eq (segments : List String) :
    Route.written segments =
      ['/'].intercalate (("" :: ["api", "v1"] ++ segments).map String.toList) := by
  have base : "/api/v1".toList = ["api", "v1"].flatMap ('/' :: ·.toList) := by decide
  calc Route.written segments
      = ["api", "v1"].flatMap ('/' :: ·.toList) ++ segments.flatMap ('/' :: ·.toList) :=
        congrArg (· ++ _) base
    _ = (["api", "v1"] ++ segments).flatMap ('/' :: ·.toList) := by
        rw [List.flatMap_append]
    _ = [] ++ ((["api", "v1"] ++ segments).map String.toList).flatMap ('/' :: ·) := by
        rw [List.flatMap_map, List.nil_append]
    _ = ['/'].intercalate ([] :: (["api", "v1"] ++ segments).map String.toList) := by
        rw [intercalate_eq]
    _ = _ := rfl

/-- A path is cut into the base and segments exactly if it is written with them and they have no
solidus in them. -/
theorem split_eq_base_iff (path : String) (segments : List String) :
    Auth.Envelope.split '/' path = "" :: "api" :: "v1" :: segments ↔
      (∀ segment ∈ segments, '/' ∉ segment.toList) ∧ path.toList = Route.written segments := by
  have base : ∀ piece ∈ ["", "api", "v1"], '/' ∉ piece.toList := by decide
  rw [Auth.Envelope.split_eq_iff, written_eq]
  constructor
  · rintro ⟨-, absent, written⟩
    refine ⟨?_, written⟩
    intro segment member
    exact absent segment (by simp [member])
  · rintro ⟨absent, written⟩
    refine ⟨by simp, ?_, written⟩
    intro piece member
    have either : piece ∈ ["", "api", "v1"] ++ segments := member
    rcases List.mem_append.mp either with fixed | own
    · exact base piece fixed
    · exact absent piece own

/-- A path names a location exactly if it is the base with the location's segments, none of which
is empty or has a solidus in it. -/
theorem ofPath?_eq_some_iff (path : String) (location : Location) :
    ofPath? path = some location ↔
      (∀ segment ∈ location.segments, segment ≠ "" ∧ '/' ∉ segment.toList) ∧
        path.toList = Route.written location.segments := by
  constructor
  · intro found
    unfold ofPath? at found
    split at found
    · next segments pieces =>
      split at found
      · next nonempty =>
        rw [ofSegments?_eq_some_iff] at found
        subst found
        obtain ⟨whole, written⟩ := (split_eq_base_iff _ _).mp pieces
        refine ⟨?_, written⟩
        intro segment member
        have filled := List.all_eq_true.mp nonempty segment member
        exact ⟨by simpa using filled, whole segment member⟩
      · cases found
    · cases found
  · rintro ⟨proper, written⟩
    have whole : ∀ segment ∈ location.segments, '/' ∉ segment.toList := fun segment member =>
      (proper segment member).2
    have pieces := (split_eq_base_iff _ _).mpr ⟨whole, written⟩
    have nonempty : location.segments.all (!·.isEmpty) = true := by
      rw [List.all_eq_true]
      intro segment member
      simpa using (proper segment member).1
    simp only [ofPath?, pieces, nonempty, if_true]
    exact (ofSegments?_eq_some_iff _ _).mpr rfl

/-- The parts that stand for the segments of a location. -/
def parts : Location → List Part
  | .health => [.word "health"]
  | .customers => [.word "customers"]
  | .customer _ => [.word "customers", .parameter]
  | .projects => [.word "projects"]
  | .project _ => [.word "projects", .parameter]
  | .issues _ => Route.issueParts
  | .issue _ _ => Route.issueParts ++ [.parameter]
  | .comments _ _ => Route.commentParts
  | .comment _ _ _ => Route.commentParts ++ [.parameter]
  | .users => [.word "users"]
  | .user _ => [.word "users", .parameter]

/-- The segments of a location fit its parts, if none of them is empty or has a solidus in it. -/
theorem parts_fit {location : Location}
    (proper : ∀ segment ∈ location.segments, segment ≠ "" ∧ '/' ∉ segment.toList) :
    List.Forall₂ Part.Fits location.parts location.segments := by
  cases location <;>
    simp [segments] at proper <;>
    simp [parts, segments, Route.issueParts, Route.commentParts, Part.Fits, proper]

end Location

namespace Operation

/-- Where an operation is asked for. -/
def location : Operation → Location
  | .listCustomers | .createCustomer => .customers
  | .getCustomer id | .updateCustomer id => .customer id
  | .listProjects | .createProject => .projects
  | .getProject id | .updateProject id => .project id
  | .listIssues project | .createIssue project => .issues project
  | .getIssue project id | .updateIssue project id => .issue project id
  | .listComments project issue | .createComment project issue => .comments project issue
  | .getComment project issue id | .updateComment project issue id => .comment project issue id
  | .listUsers => .users
  | .getUser id => .user id

/-- The verb with which an operation is asked for. -/
def verb : Operation → Verb
  | .listCustomers | .getCustomer _ | .listProjects | .getProject _ | .listIssues _
  | .getIssue _ _ | .listComments _ _ | .getComment _ _ _ | .listUsers | .getUser _ => .get
  | .createCustomer | .createProject | .createIssue _ | .createComment _ _ => .post
  | .updateCustomer _ | .updateProject _ | .updateIssue _ _ | .updateComment _ _ _ => .put

/-- Whether a request is one for an operation. Its path is written with the segments of the
operation, none of which is empty or has a solidus in it. -/
structure MeantBy (operation : Operation) (request : Http.Request) : Prop where
  method : request.method = operation.verb.method ∨
    request.method = "HEAD" ∧ operation.verb = .get
  proper : ∀ segment ∈ operation.location.segments, segment ≠ "" ∧ '/' ∉ segment.toList
  path : request.path.toList = Route.written operation.location.segments

variable {operation : Operation} {request : Http.Request}

/-- An operation is served in one place and to one verb. -/
theorem endpoint?_eq_some_iff {location : Location} {verb : Verb} :
    location.endpoint? verb = some (.guarded operation) ↔
      location = operation.location ∧ verb = operation.verb := by
  constructor
  · intro served
    cases location <;> cases verb <;> cases served <;> exact ⟨rfl, rfl⟩
  · rintro ⟨rfl, rfl⟩
    cases operation <;> rfl

/-- What is found at the path of a request, and serves its method, is what the request is for. -/
theorem meantBy_iff :
    operation.MeantBy request ↔
      ∃ location, Location.ofPath? request.path = some location ∧
        location.served? request.method = some (.guarded operation) := by
  constructor
  · rintro ⟨method, proper, path⟩
    refine ⟨operation.location, (Location.ofPath?_eq_some_iff _ _).mpr ⟨proper, path⟩, ?_⟩
    exact Option.bind_eq_some_iff.mpr
      ⟨operation.verb, Verb.ofMethod?_eq_some_iff.mpr method, endpoint?_eq_some_iff.mpr ⟨rfl, rfl⟩⟩
  · rintro ⟨location, found, served⟩
    obtain ⟨proper, path⟩ := (Location.ofPath?_eq_some_iff _ _).mp found
    obtain ⟨verb, named, endpoint⟩ := Option.bind_eq_some_iff.mp served
    obtain ⟨rfl, rfl⟩ := endpoint?_eq_some_iff.mp endpoint
    exact ⟨Verb.ofMethod?_eq_some_iff.mp named, proper, path⟩

/-- A request is for one operation at most. -/
theorem MeantBy.unique {other : Operation} (meant : operation.MeantBy request)
    (also : other.MeantBy request) :
    operation = other := by
  obtain ⟨location, found, served⟩ := meantBy_iff.mp meant
  obtain ⟨another, again, servedToo⟩ := meantBy_iff.mp also
  obtain rfl : location = another := Option.some.inj (found.symm.trans again)
  rw [served] at servedToo
  cases servedToo
  rfl

/-- Whether a request is one for an operation can be found out. -/
instance (operation : Operation) (request : Http.Request) : Decidable (operation.MeantBy request) :=
  decidable_of_iff
    ((Location.ofPath? request.path).any fun location =>
      location.served? request.method = some (.guarded operation))
    (by simp [meantBy_iff, Option.any_eq_true])

/-- Every operation is in the table, with the scopes that it requires. -/
theorem mem_guarded (operation : Operation) :
    ⟨operation.verb.method, operation.location.parts, operation.required⟩ ∈ Route.guarded := by
  cases operation <;>
    simp [Route.guarded, verb, Verb.method, location, Location.parts, required, Route.readers,
      Route.writers]

/-- A request for an operation is one for a route of the table, with the scopes that the operation
requires. -/
theorem MeantBy.exists_serves (meant : operation.MeantBy request) :
    ∃ route ∈ Route.guarded, route.Serves request.method request.path ∧
      route.required = operation.required := by
  refine ⟨_, operation.mem_guarded, ⟨?_, operation.location.segments, ?_, meant.path⟩, rfl⟩
  · rcases meant.method with own | ⟨reading, get⟩
    · exact .inl own
    · exact .inr ⟨reading, by rw [get]; rfl⟩
  · exact Location.parts_fit meant.proper

end Operation

end IssueTracker.Api

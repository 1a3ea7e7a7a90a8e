import IssueTracker.Proofs.Api.Routes

/-!
# The layout of the service

All routes of the service, which are the guarded ones and the open one. A path names a location
exactly if it is one of a route, segment by segment; and what the location serves are the methods of
the routes that the path is one of. So everything about where requests go is said by the table.
-/

namespace IssueTracker.Api

/-- The word of a part is a segment that can stand in a path. -/
def Part.IsProper : Part → Prop
  | .word text => text ≠ "" ∧ '/' ∉ text.toList
  | .parameter => True

/-- Whether a word can stand in a path can be found out. -/
instance : (part : Part) → Decidable part.IsProper
  | .word text => inferInstanceAs (Decidable (text ≠ "" ∧ '/' ∉ text.toList))
  | .parameter => inferInstanceAs (Decidable True)

namespace Route

/-- The only route that asks for no token. -/
def health : Route := ⟨"GET", [.word "health"], []⟩

/-- All routes. -/
def all : List Route := health :: guarded

/-- Whether a path is one of a route, whatever the method is. -/
def IsAt (route : Route) (path : String) : Prop :=
  ∃ segments, List.Forall₂ Part.Fits route.parts segments ∧ path.toList = written segments

/-- There are eleven patterns of paths. -/
example : (all.map (·.parts)).eraseDups.length = 11 := by decide

section Shapes

variable {name : String} {parts : List Part} {segments : List String}

theorem fits_word (fits : List.Forall₂ Part.Fits (.word name :: parts) segments) :
    ∃ rest, segments = name :: rest ∧ List.Forall₂ Part.Fits parts rest := by
  cases fits with
  | cons same behind => exact ⟨_, congrArg (· :: _) same, behind⟩

theorem fits_parameter (fits : List.Forall₂ Part.Fits (.parameter :: parts) segments) :
    ∃ id rest, segments = id :: rest ∧ List.Forall₂ Part.Fits parts rest := by
  cases fits with
  | cons _ behind => exact ⟨_, _, rfl, behind⟩

/-- Segments at a route can all stand in a path, if its words can. -/
theorem proper_of_fits (words : ∀ part ∈ parts, part.IsProper)
    (fits : List.Forall₂ Part.Fits parts segments) :
    ∀ segment ∈ segments, segment ≠ "" ∧ '/' ∉ segment.toList := by
  induction fits with
  | nil => simp
  | @cons part segment parts segments first _ inductionHypothesis =>
    rw [List.forall_mem_cons] at words ⊢
    refine ⟨?_, inductionHypothesis words.2⟩
    cases part with
    | word text =>
      obtain rfl : segment = text := first
      exact words.1
    | parameter => exact first

/-- The words of all routes can. -/
theorem words_proper : ∀ route ∈ all, ∀ part ∈ route.parts, part.IsProper := by decide

theorem segments_collection (fits : List.Forall₂ Part.Fits [.word name] segments) :
    segments = [name] := by
  obtain ⟨_, rfl, ⟨⟩⟩ := fits_word fits
  rfl

theorem segments_parameter (fits : List.Forall₂ Part.Fits [.parameter] segments) :
    ∃ id, segments = [id] := by
  obtain ⟨id, _, rfl, ⟨⟩⟩ := fits_parameter fits
  exact ⟨id, rfl⟩

theorem segments_record (fits : List.Forall₂ Part.Fits [.word name, .parameter] segments) :
    ∃ id, segments = [name, id] := by
  obtain ⟨_, rfl, behind⟩ := fits_word fits
  obtain ⟨id, rfl⟩ := segments_parameter behind
  exact ⟨id, rfl⟩

/-- The segments of a project's issues, and those behind them. -/
theorem segments_issues (fits : List.Forall₂ Part.Fits (issueParts ++ parts) segments) :
    ∃ project rest, segments = ["projects", project, "issues"] ++ rest ∧
      List.Forall₂ Part.Fits parts rest := by
  obtain ⟨_, rfl, behind⟩ := fits_word fits
  obtain ⟨project, _, rfl, further⟩ := fits_parameter behind
  obtain ⟨rest, rfl, last⟩ := fits_word further
  exact ⟨project, rest, rfl, last⟩

/-- The segments of an issue's comments, and those behind them. -/
theorem segments_comments (fits : List.Forall₂ Part.Fits (commentParts ++ parts) segments) :
    ∃ project issue rest, segments = ["projects", project, "issues", issue, "comments"] ++ rest ∧
      List.Forall₂ Part.Fits parts rest := by
  rw [commentParts, List.append_assoc] at fits
  obtain ⟨project, _, rfl, behind⟩ := segments_issues fits
  obtain ⟨issue, _, rfl, further⟩ := fits_parameter behind
  obtain ⟨rest, rfl, last⟩ := fits_word further
  exact ⟨project, issue, rest, rfl, last⟩

end Shapes

variable {route : Route} {segments : List String}

/-- Each guarded route is that of an operation, whose segments are those of the path. -/
theorem exists_operation (member : route ∈ guarded)
    (fits : List.Forall₂ Part.Fits route.parts segments) :
    ∃ operation : Operation, operation.verb.method = route.method ∧
      operation.location.segments = segments ∧ operation.required = route.required := by
  simp only [guarded, List.mem_cons, List.not_mem_nil, or_false] at member
  -- The cases are the lines of the table.
  rcases member with rfl | rfl | rfl | rfl | rfl | rfl | rfl | rfl | rfl | rfl | rfl | rfl | rfl |
    rfl | rfl | rfl | rfl | rfl
  · obtain rfl := segments_collection fits
    exact ⟨.listCustomers, rfl, rfl, rfl⟩
  · obtain rfl := segments_collection fits
    exact ⟨.createCustomer, rfl, rfl, rfl⟩
  · obtain ⟨id, rfl⟩ := segments_record fits
    exact ⟨.getCustomer id, rfl, rfl, rfl⟩
  · obtain ⟨id, rfl⟩ := segments_record fits
    exact ⟨.updateCustomer id, rfl, rfl, rfl⟩
  · obtain rfl := segments_collection fits
    exact ⟨.listProjects, rfl, rfl, rfl⟩
  · obtain rfl := segments_collection fits
    exact ⟨.createProject, rfl, rfl, rfl⟩
  · obtain ⟨id, rfl⟩ := segments_record fits
    exact ⟨.getProject id, rfl, rfl, rfl⟩
  · obtain ⟨id, rfl⟩ := segments_record fits
    exact ⟨.updateProject id, rfl, rfl, rfl⟩
  · obtain ⟨project, _, rfl, ⟨⟩⟩ := segments_issues fits
    exact ⟨.listIssues project, rfl, rfl, rfl⟩
  · obtain ⟨project, _, rfl, ⟨⟩⟩ := segments_issues fits
    exact ⟨.createIssue project, rfl, rfl, rfl⟩
  · obtain ⟨project, _, rfl, behind⟩ := segments_issues fits
    obtain ⟨id, rfl⟩ := segments_parameter behind
    exact ⟨.getIssue project id, rfl, rfl, rfl⟩
  · obtain ⟨project, _, rfl, behind⟩ := segments_issues fits
    obtain ⟨id, rfl⟩ := segments_parameter behind
    exact ⟨.updateIssue project id, rfl, rfl, rfl⟩
  · obtain ⟨project, issue, _, rfl, ⟨⟩⟩ := segments_comments fits
    exact ⟨.listComments project issue, rfl, rfl, rfl⟩
  · obtain ⟨project, issue, _, rfl, ⟨⟩⟩ := segments_comments fits
    exact ⟨.createComment project issue, rfl, rfl, rfl⟩
  · obtain ⟨project, issue, _, rfl, behind⟩ := segments_comments fits
    obtain ⟨id, rfl⟩ := segments_parameter behind
    exact ⟨.getComment project issue id, rfl, rfl, rfl⟩
  · obtain ⟨project, issue, _, rfl, behind⟩ := segments_comments fits
    obtain ⟨id, rfl⟩ := segments_parameter behind
    exact ⟨.updateComment project issue id, rfl, rfl, rfl⟩
  · obtain rfl := segments_collection fits
    exact ⟨.listUsers, rfl, rfl, rfl⟩
  · obtain ⟨id, rfl⟩ := segments_record fits
    exact ⟨.getUser id, rfl, rfl, rfl⟩

/-- A request that a guarded route serves is one for an operation with the scopes of the route. -/
theorem exists_meantBy {request : Http.Request} (member : route ∈ guarded)
    (serves : route.Serves request.method request.path) :
    ∃ operation : Operation, operation.MeantBy request ∧ operation.required = route.required := by
  obtain ⟨method, segments, fits, written⟩ := serves
  obtain ⟨operation, named, rfl, required⟩ := exists_operation member fits
  refine ⟨operation, ⟨?_, ?_, written⟩, required⟩
  · rw [named]
    refine method.imp_right fun ⟨reading, get⟩ => ⟨reading, ?_⟩
    rw [← named] at get
    cases verb : operation.verb <;> simp [verb, Verb.method] at get ⊢
  · exact proper_of_fits (words_proper route (List.mem_cons_of_mem _ member)) fits

end Route

open Route

variable {path method : String}

/-- A path names a location exactly if it is one of a route. -/
theorem Location.isSome_ofPath?_iff :
    (ofPath? path).isSome = true ↔ ∃ route ∈ Route.all, route.IsAt path := by
  rw [Option.isSome_iff_exists]
  constructor
  · rintro ⟨location, found⟩
    obtain ⟨proper, written⟩ := (ofPath?_eq_some_iff path location).mp found
    have among : ∃ route ∈ Route.all, route.parts = location.parts := by
      cases location <;> simp [Route.all, Route.health, Route.guarded, parts]
    obtain ⟨route, member, same⟩ := among
    exact ⟨route, member, _, same ▸ parts_fit proper, written⟩
  · rintro ⟨route, member, segments, fits, written⟩
    have proper := proper_of_fits (words_proper route member) fits
    have named : ∃ location : Location, location.segments = segments := by
      rcases List.mem_cons.mp member with rfl | guarded
      · exact ⟨.health, (segments_collection fits).symm⟩
      · obtain ⟨operation, -, same, -⟩ := exists_operation guarded fits
        exact ⟨operation.location, same⟩
    obtain ⟨location, rfl⟩ := named
    exact ⟨location, (ofPath?_eq_some_iff path location).mpr ⟨proper, written⟩⟩

/-- The open location is found and serves a method exactly if the open route does. -/
theorem Location.served?_eq_health_iff :
    (∃ location, ofPath? path = some location ∧ location.served? method = some .health) ↔
      Route.health.Serves method path := by
  constructor
  · rintro ⟨location, found, served⟩
    obtain ⟨verb, named, endpoint⟩ := Option.bind_eq_some_iff.mp served
    obtain ⟨proper, written⟩ := (ofPath?_eq_some_iff path location).mp found
    cases location <;> cases verb <;> cases endpoint
    exact ⟨(Verb.ofMethod?_eq_some_iff.mp named).imp id (And.imp_right fun _ => rfl), _,
      parts_fit proper, written⟩
  · rintro ⟨method, segments, fits, written⟩
    have proper := proper_of_fits (words_proper Route.health List.mem_cons_self) fits
    obtain rfl : segments = Location.health.segments := segments_collection fits
    refine ⟨.health, (ofPath?_eq_some_iff path .health).mpr ⟨proper, written⟩, ?_⟩
    have named : Verb.ofMethod? _ = some .get :=
      Verb.ofMethod?_eq_some_iff.mpr (method.imp id (And.imp_right fun _ => rfl))
    rw [served?, named]
    rfl

/-- A location that is found serves a method exactly if a route does that the path is one of. -/
theorem Location.isSome_served?_iff {request : Http.Request} {location : Location}
    (found : ofPath? request.path = some location) :
    (location.served? request.method).isSome = true ↔
      ∃ route ∈ Route.all, route.Serves request.method request.path := by
  rw [Option.isSome_iff_exists]
  constructor
  · rintro ⟨endpoint | operation, served⟩
    · exact ⟨Route.health, List.mem_cons_self, served?_eq_health_iff.mp ⟨location, found, served⟩⟩
    · obtain ⟨route, member, serves, -⟩ :=
        (Operation.meantBy_iff.mpr ⟨location, found, served⟩).exists_serves
      exact ⟨route, List.mem_cons_of_mem _ member, serves⟩
  · rintro ⟨route, member, serves⟩
    have reached : ∃ another, ofPath? request.path = some another ∧
        ∃ endpoint, another.served? request.method = some endpoint := by
      rcases List.mem_cons.mp member with rfl | guarded
      · obtain ⟨another, again, served⟩ := served?_eq_health_iff.mpr serves
        exact ⟨another, again, _, served⟩
      · obtain ⟨operation, meant, -⟩ := exists_meantBy guarded serves
        obtain ⟨another, again, served⟩ := Operation.meantBy_iff.mp meant
        exact ⟨another, again, _, served⟩
    obtain ⟨another, again, served⟩ := reached
    obtain rfl : location = another := Option.some.inj (found.symm.trans again)
    exact served

end IssueTracker.Api

import IssueTracker.Proofs.Json.Writing
import IssueTracker.Proofs.Service.Reception

/-!
# What a submission cannot say

Members of an object for which no field is declared are passed over, whatever their values are, as
long as these are JSON and the names are texts. So two requests that differ only in such members are
handled alike: they leave the same stores and are answered with the same status and headers, and the
bodies of the responses are the same as well, unless they reject the bodies of the requests. What
the service itself decides about a record is of no use in a submission for this reason.

A body is rejected in the words of the parser that could not read it. As these may tell of a place
in the text, which other members can move, no more is said of them here.

The length that a request declares for its body may differ as well, if it is kept to and is not
beyond what any may be.
-/

namespace IssueTracker

open Api Auth Http Store

namespace Json

end Json

namespace Http

namespace Request.SameHead

variable {one other : Request} {name : String}

end Request.SameHead

end Http

namespace Api

/-- The fields that a request for an operation may submit. -/
def Operation.fields (operation : Operation) : List Json.Field :=
  match operation.matter with
  | .body form => form.fields
  | .nothing | .query => []

end Api

namespace Service

/-- Whether the body of a request is no longer than any may be, and than the request declares. -/
structure KeepsLimits (request : Request) : Prop where
  declared : ¬ DeclaresTooMuch request
  actual : request.body.length ≤ readLimit request

/-- A request keeps the limits if it declares no length and its body is not too long. -/
theorem keepsLimits_of_undeclared {request : Request} (undeclared : declaredLength? request = none)
    (fits : request.body.length ≤ bodyLimit) : KeepsLimits request := by
  refine ⟨?_, by simpa only [readLimit, undeclared] using fits⟩
  rintro ⟨length, declared, -⟩
  rw [undeclared] at declared
  cases declared

variable {service : Service} {arrival : Arrival} {one other : Request}

end Service

end IssueTracker

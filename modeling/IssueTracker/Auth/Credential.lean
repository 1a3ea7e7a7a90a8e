import IssueTracker.Auth.Error

/-!
# The credential of a request

A caller presents a token as the configured scheme, one space and the token. Nothing is trimmed
and letter case counts.
-/

namespace IssueTracker.Auth

/-- What remains of a text behind the characters it must begin with. -/
def after? : List Char → List Char → Option (List Char)
  | [], text => some text
  | _ :: _, [] => none
  | m :: mark, c :: text => if m = c then after? mark text else none

/-- The token in an authorization header, if the header is there and has one. -/
def credential (header : Option String) (scheme : String) : Except AuthError String :=
  match header.bind fun h => (after? scheme.toList h.toList).bind (after? [' ']) with
  | some (c :: rest) => .ok (String.ofList (c :: rest))
  | _ => .error .tokenMissingOrMalformed

end IssueTracker.Auth

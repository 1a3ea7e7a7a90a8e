import IssueTracker.Proofs.Api.Authorization
import IssueTracker.Proofs.Text.Split

/-!
# The scopes that a token grants

A token grants scopes in one claim, with spaces between them, and a request is authorised by any
scope that its operation requires and that stands in the claim as a whole word. In what order words
stand there and how often does not matter, nor how the required scopes are listed. A part of a word
is no word, so it authorises nothing, and neither does an operation that requires nothing.
-/

namespace IssueTracker.Auth

/-- Whether a scope is a word of a claim: there is no space in it, and on each side of it in the
claim is a space or the end of the claim. -/
def IsWordOf (scope claim : String) : Prop :=
  ' ' ∉ scope.toList ∧ Envelope.StandsIn ' ' scope.toList claim.toList

/-- Whether a request is authorised by the attributes that are bound to it for a payload and the
scopes that its operation requires. -/
def TokenPayload.permits (payload : TokenPayload) (required : List String) : Bool :=
  (RequestState.bind (.ofPayload payload) required).authorize

section Words

variable {payload : TokenPayload} {required words : List String} {scope claim : String}

/-- The scopes in a claim are its words. -/
theorem mem_splitScopes_iff : scope ∈ splitScopes claim ↔ IsWordOf scope claim :=
  Envelope.mem_split_iff

/-- The words of a claim are those that were put into it with spaces between them. -/
theorem isWordOf_iff (nonempty : words ≠ []) (unspaced : ∀ word ∈ words, ' ' ∉ word.toList)
    (written : claim.toList = [' '].intercalate (words.map String.toList)) :
    IsWordOf scope claim ↔ scope ∈ words := by
  have cut : splitScopes claim = words :=
    (Envelope.split_eq_iff ' ' claim words).mpr ⟨nonempty, unspaced, written⟩
  rw [← mem_splitScopes_iff, cut]

/-- A request is authorised by a required scope that is a word of the claim. -/
theorem permits_iff :
    payload.permits required = true ↔ ∃ scope ∈ required, IsWordOf scope payload.scope := by
  rw [TokenPayload.permits, RequestState.authorize_bind]
  constructor
  · rintro ⟨scope, granted, wanted⟩
    exact ⟨scope, wanted, mem_splitScopes_iff.mp granted⟩
  · rintro ⟨scope, wanted, word⟩
    exact ⟨scope, mem_splitScopes_iff.mpr word, wanted⟩

end Words

/-- A request is authorised exactly if one of the required scopes is a word of the scope claim. So
if the claim was written as words with spaces between them, it takes one of these very words; what
has the same words, and requires the same scopes, is authorised alike in whatever order and however
often they are said; and if nothing is required, nothing is authorised. -/
theorem permits_by_whole_words (payload : TokenPayload) (required : List String) :
    (payload.permits required = true ↔ ∃ scope ∈ required, IsWordOf scope payload.scope) ∧
    (∀ words : List String, words ≠ [] → (∀ word ∈ words, ' ' ∉ word.toList) →
      payload.scope.toList = [' '].intercalate (words.map String.toList) →
      (payload.permits required = true ↔ ∃ scope ∈ required, scope ∈ words)) ∧
    (∀ (other : TokenPayload) (others : List String),
      (∀ word, IsWordOf word other.scope ↔ IsWordOf word payload.scope) →
      (∀ scope, scope ∈ others ↔ scope ∈ required) →
      other.permits others = payload.permits required) ∧
    payload.permits [] = false := by
  refine ⟨permits_iff, ?_, ?_, ?_⟩
  · intro words nonempty unspaced written
    rw [permits_iff]
    constructor
    · rintro ⟨scope, wanted, word⟩
      exact ⟨scope, wanted, (isWordOf_iff nonempty unspaced written).mp word⟩
    · rintro ⟨scope, wanted, word⟩
      exact ⟨scope, wanted, (isWordOf_iff nonempty unspaced written).mpr word⟩
  · intro other others sameWords sameScopes
    rw [Bool.eq_iff_iff, permits_iff, permits_iff]
    simp only [sameWords, sameScopes]
  · rw [← Bool.not_eq_true, permits_iff]
    rintro ⟨scope, wanted, -⟩
    cases wanted

/-- Claims that grant reading issues, said twice, and writing comments. -/
def repeatingPayload : TokenPayload where
  subject := "author"
  tokenUse := "access"
  scope := "tracker/issue.read tracker/comment.write tracker/issue.read"
  authTime := none
  issuer := "issuer"
  expires := ⟨1, 0⟩
  issuedAt := none
  version := 0
  tokenId := ""
  clientId := ""

/-- Those claims permit what requires one of the two scopes, and neither what requires the front,
the end or an extension of one, nor what requires both as if they were one scope. -/
theorem repeatingPayload_permits :
    repeatingPayload.permits ["tracker/issue.write", "tracker/comment.write"] = true ∧
      repeatingPayload.permits ["tracker/issue", "issue.read", "tracker/issue.reader",
        "tracker/issue.read tracker/comment.write"] = false := by
  have matched (required : List String) := (permits_by_whole_words repeatingPayload required).2.1
    ["tracker/issue.read", "tracker/comment.write", "tracker/issue.read"] (by decide)
    (by decide) (by decide)
  constructor
  · exact (matched _).mpr ⟨"tracker/comment.write", by decide, by decide⟩
  · rw [← Bool.not_eq_true, matched]
    decide

end IssueTracker.Auth

import IssueTracker.Proofs.Auth.Claims
import IssueTracker.Proofs.Json.Writing

/-!
# Claims in any order

A payload lists its claims in some order, with white space around them, and among members that
nobody asks for. None of this makes a difference to what is read: each claim is taken from the
member of its name, wherever it stands. That there is one such member at most is all that is asked
of the whole.
-/

namespace IssueTracker.Auth

section Taken

variable {given same : Json.Given} {payload : TokenPayload}

/-- The names of the claims. -/
theorem isFieldName_tokenPayload {name : String} :
    Json.IsFieldName TokenPayload.fields name ↔
      name ∈ ["sub", "token_use", "scope", "auth_time", "iss", "exp", "iat", "version", "jti",
        "client_id"] := by
  simp [Json.IsFieldName, TokenPayload.fields, Json.Field.of, eq_comm]

/-- Claims are taken from what is given under their names. -/
theorem TokenPayload.TakenFrom.congr (taken : payload.TakenFrom given)
    (alike : ∀ name, Json.IsFieldName TokenPayload.fields name →
      same.value? name = given.value? name) :
    payload.TakenFrom same := by
  simp only [isFieldName_tokenPayload, List.forall_mem_cons] at alike
  obtain ⟨subject, tokenUse, scope, authTime, issuer, expires, issuedAt, version, tokenId,
    clientId, -⟩ := alike
  constructor
  case subject => exact (Json.Given.readOr_congr subject _).trans taken.subject
  case tokenUse => exact (Json.Given.readOr_congr tokenUse _).trans taken.tokenUse
  case scope => exact (Json.Given.readOr_congr scope _).trans taken.scope
  case authTime => exact (Json.Given.readOr_congr authTime _).trans taken.authTime
  case issuer => exact (Json.Given.readOr_congr issuer _).trans taken.issuer
  case expires => exact (Json.Given.read_congr expires).trans taken.expires
  case issuedAt => exact (Json.Given.readOr_congr issuedAt _).trans taken.issuedAt
  case version => exact (Json.Given.readOr_congr version _).trans taken.version
  case tokenId => exact (Json.Given.readOr_congr tokenId _).trans taken.tokenId
  case clientId => exact (Json.Given.readOr_congr clientId _).trans taken.clientId

end Taken

section Texts

variable {own one another : List (Bytes × Json)} {text other : Bytes} {payload : TokenPayload}

/-- What is read from one text of the claims is read from any other. -/
theorem ofBytes_alike (spelled : Json.IsText (.object one true) text)
    (respelled : Json.IsText (.object another true) other)
    (first : Json.AreAmong TokenPayload.fields own one)
    (second : Json.AreAmong TokenPayload.fields own another)
    (read : TokenPayload.ofBytes text = .ok payload) :
    TokenPayload.ofBytes other = .ok payload := by
  obtain ⟨-, given, record, taken⟩ := ofBytes_taken_iff.mp read
  rw [Json.read_of_isText spelled] at record
  obtain ⟨same, reread, values⟩ := first.asRecord_alike second record
  rw [ofBytes_taken_iff, Json.read_of_isText respelled]
  exact ⟨rfl, same, reread, taken.congr values⟩

/-- Octets that are not read as claims are a malformed payload. -/
theorem ofBytes_eq_malformed (unread : ∀ payload, TokenPayload.ofBytes text ≠ .ok payload) :
    ∃ fault, TokenPayload.ofBytes text = .error (.malformedToken (.payload fault)) := by
  cases read : TokenPayload.ofBytes text with
  | ok payload => exact absurd read (unread payload)
  | error refusal =>
    obtain ⟨fault, -, rfl⟩ := ofBytes_eq_error_iff.mp read
    exact ⟨fault, rfl⟩

/-- A claim that is told twice keeps a text from being read. -/
theorem ofBytes_repeated {former later : Bytes × Json}
    (spelled : Json.IsText (.object one true) text) (inside : [former, later].Sublist one)
    (same : Json.SameField TokenPayload.fields former later) :
    TokenPayload.ofBytes text ≠ .ok payload := by
  intro read
  obtain ⟨-, given, record, -⟩ := ofBytes_taken_iff.mp read
  rw [Json.read_of_isText spelled] at record
  exact (Json.exists_asRecord_iff.mp ⟨given, record⟩).1.not_sameField inside same

/-- Two texts of objects with the same members, each in any order, with white space around any
token, and among any members that are no claims, are read as the same claims, or neither of them is
read. No text is read in which a claim stands twice. -/
theorem order_indifferent (spelled : Json.IsText (.object one true) text)
    (respelled : Json.IsText (.object another true) other)
    (first : Json.AreAmong TokenPayload.fields own one)
    (second : Json.AreAmong TokenPayload.fields own another) :
    (∀ payload, TokenPayload.ofBytes text = .ok payload ↔
      TokenPayload.ofBytes other = .ok payload) ∧
    ∀ former later, [former, later].Sublist one →
      Json.SameField TokenPayload.fields former later →
      ∃ fault, TokenPayload.ofBytes text = .error (.malformedToken (.payload fault)) := by
  refine ⟨fun payload => ⟨?_, ?_⟩, ?_⟩
  · exact ofBytes_alike spelled respelled first second
  · exact ofBytes_alike respelled spelled second first
  · intro former later inside same
    exact ofBytes_eq_malformed fun payload => ofBytes_repeated spelled inside same

end Texts

section Written

/-- The members of claims, and the same in the opposite order, behind a member that nobody asks for
and that stands there twice. -/
def claimMembers : List (String × Json) := [("exp", .ofInt 1), ("iss", .ofText "i")]

def burdenedMembers : List (String × Json) :=
  [("x", .array [.array [] true, .object [] true] true), ("x", .null), ("iss", .ofText "i"),
    ("exp", .ofInt 1)]

/-- The members of the claims with an issuer more. -/
def repeatedMembers : List (String × Json) := ("iss", .ofText "j") :: claimMembers

/-- The burdened members as a text with white space around it. -/
def burdenedText : Bytes :=
  Utf8.encode "\n\x7b\"x\":[[],\x7b\x7d],\"x\":null,\"iss\":\"i\",\"exp\":1\x7d "

/-- What the claims are read as. -/
def claimPayload : TokenPayload where
  subject := ""
  tokenUse := ""
  scope := ""
  authTime := none
  issuer := "i"
  expires := ⟨1, 0⟩
  issuedAt := none
  version := 0
  tokenId := ""
  clientId := ""

/-- The burdened text is one of the object of its members. -/
theorem isText_burdenedText : Json.IsText (.ofMembers burdenedMembers) burdenedText := by
  have nested : Json.IsWhole (.array [.array [] true, .object [] true] true) := by
    refine .array ?_
    simp only [List.forall_mem_cons]
    exact ⟨.array (by simp), .object (by simp) (by simp), by simp⟩
  have whole : ∀ member ∈ burdenedMembers, Json.IsWhole member.2 := by
    simp only [burdenedMembers, List.forall_mem_cons]
    exact ⟨nested, .null, Json.isWhole_ofText _, Json.isWhole_ofInt _, by simp⟩
  have octets : burdenedText =
      [0x0A] ++ ((Json.ofMembers burdenedMembers).write ++ [0x20]) := by decide +kernel
  rw [octets]
  exact .spaced (by simp [Json.IsBlank, Json.isSpace])
    (Json.isText_of_isWhole (Json.isWhole_ofMembers whole))
    (by simp [Json.IsBlank, Json.isSpace])

/-- The burdened text is read as the claims are, and with an issuer more these are refused. -/
theorem burdenedText_read :
    TokenPayload.ofBytes (Json.ofMembers claimMembers).write = .ok claimPayload ∧
      TokenPayload.ofBytes burdenedText = .ok claimPayload ∧
      ∃ fault, TokenPayload.ofBytes (Json.ofMembers repeatedMembers).write =
        .error (.malformedToken (.payload fault)) := by
  have whole : ∀ member ∈ claimMembers, Json.IsWhole member.2 := by
    simp [claimMembers, Json.isWhole_ofText, Json.isWhole_ofInt]
  have plain := Json.isText_of_isWhole (Json.isWhole_ofMembers whole)
  have repeated : Json.IsText (.ofMembers repeatedMembers) (Json.ofMembers repeatedMembers).write :=
    Json.isText_of_isWhole
      (Json.isWhole_ofMembers (List.forall_mem_cons.mpr ⟨Json.isWhole_ofText _, whole⟩))
  have alone (members : List (Bytes × Json)) : Json.AreAmong TokenPayload.fields members members :=
    ⟨[], by simp, by simp⟩
  have foreign (value : Json) : Json.IsForeign TokenPayload.fields (Json.written "x", value) :=
    ⟨"x", Json.text?_written "x", by rw [isFieldName_tokenPayload]; decide⟩
  have among : Json.AreAmong TokenPayload.fields (Json.writtenMembers claimMembers)
      (Json.writtenMembers burdenedMembers) := by
    refine ⟨[(Json.written "x", .null), (Json.written "x", _)], (List.reverse_perm _).symm, ?_⟩
    simp [foreign]
  have read : TokenPayload.ofBytes (Json.ofMembers claimMembers).write = .ok claimPayload := by
    decide +kernel
  obtain ⟨alike, -⟩ := order_indifferent plain isText_burdenedText (alone _) among
  obtain ⟨-, refused⟩ := order_indifferent repeated repeated (alone _) (alone _)
  refine ⟨read, (alike claimPayload).mp read, ?_⟩
  refine refused (Json.written "iss", .ofText "j") (Json.written "iss", .ofText "i") ?_ ?_
  · exact (List.sublist_cons_self _ _).cons_cons _
  · exact ⟨"iss", by rw [isFieldName_tokenPayload]; decide, Json.text?_written _,
      Json.text?_written _⟩

end Written

end IssueTracker.Auth

import IssueTracker.Auth.Identity
import IssueTracker.Proofs.Auth.Compact
import IssueTracker.Proofs.Auth.Timestamps
import IssueTracker.Proofs.Json.Writing

/-!
# Every good token is accepted

A token that is made of a header and of claims by writing them as JSON objects and encoding these
is read as that header and those claims, whatever their texts, numbers and times are and in
whatever order they are written. So if it is signed under an accepted algorithm, fits what the
service requires, and the provider vouches for it in time, it is accepted, and what is accepted is
what was written.
-/

namespace IssueTracker.Auth

/-- The member that tells a time, if there is one to tell. -/
def timeMembers (name : String) (time : Option Instant) : List (String × Json) :=
  time.toList.map fun t => (name, Json.ofInt t.seconds)

/-- The members of the object that tells claims. -/
def TokenPayload.members (payload : TokenPayload) : List (String × Json) :=
  [("sub", Json.ofText payload.subject), ("token_use", Json.ofText payload.tokenUse),
    ("scope", Json.ofText payload.scope)] ++
  timeMembers "auth_time" payload.authTime ++
  [("iss", Json.ofText payload.issuer), ("exp", Json.ofInt payload.expires.seconds)] ++
  timeMembers "iat" payload.issuedAt ++
  [("version", Json.ofInt payload.version), ("jti", Json.ofText payload.tokenId),
    ("client_id", Json.ofText payload.clientId)]

/-- The members of the object that tells an algorithm and, if there is one to tell, a key name. -/
def headerMembers (alg : String) (kid : Option String) : List (String × Json) :=
  ("alg", Json.ofText alg) :: kid.toList.map fun name => ("kid", Json.ofText name)

/-- The octets of an object as it is written. -/
def writtenObject (members : List (String × Json)) : Bytes := (Json.ofMembers members).write

/-- The compact token of a header and claims, with some text for its signature. -/
def issuedToken (header claims : List (String × Json)) (signature : String) : String :=
  Base64Url.encode (writtenObject header) ++ "." ++ Base64Url.encode (writtenObject claims) ++ "."
    ++ signature

/-- Claims whose numbers are in range, and whose times are whole seconds; texts may be any. -/
structure TokenPayload.InRange (payload : TokenPayload) : Prop where
  version : -9223372036854775808 ≤ payload.version ∧ payload.version ≤ 9223372036854775807
  expires : Instant.ofSeconds? payload.expires.seconds = some payload.expires
  issuedAt : ∀ time, payload.issuedAt = some time → Instant.ofSeconds? time.seconds = some time
  authTime : ∀ time, payload.authTime = some time → Instant.ofSeconds? time.seconds = some time

section Reading

variable {payload : TokenPayload} {alg : String} {kid : Option String}
  {header claims : List (String × Json)}

/-- A written object of whole values is read as its members. -/
theorem decode_writtenObject {α : Type} {reader : Json.Reader α} {members : List (String × Json)}
    {value : α} (each : ∀ member ∈ members, Json.IsWhole member.2)
    (read : reader (.object (Json.writtenMembers members) true) = .ok value) :
    Json.decode reader (writtenObject members) = .ok value := by
  rw [Json.decode_eq_ok_iff, writtenObject, Json.read_write (Json.isWhole_ofMembers each)]
  exact ⟨read, rfl⟩

/-- The seconds of a time in range are read as that time. -/
theorem asInstant_ofInt {time : Instant} (inRange : Instant.ofSeconds? time.seconds = some time) :
    asInstant (Json.ofInt time.seconds) = .ok time := by
  have bounds : Instant.minSeconds ≤ time.seconds ∧ time.seconds ≤ Instant.maxSeconds := by
    by_contra outside
    rw [Instant.ofSeconds?, if_neg outside] at inRange
    cases inRange
  have number : Json.asNumber (Json.ofInt time.seconds) = .ok (.integer time.seconds) := by
    simp only [Instant.minSeconds, Instant.maxSeconds] at bounds
    exact Json.asNumber_ofInt (by omega) (by omega)
  have counted : secondsOf? (.integer time.seconds) = some time.seconds := by
    simp only [Instant.minSeconds, Instant.maxSeconds] at bounds
    exact secondsOf?_integer (by simp only [Json.minSigned]; omega)
      (by simp only [Json.maxSigned]; omega)
  simp [asInstant, number, instantOf, counted, inRange, Except.bind]

/-- A version in range is read as that version. -/
theorem asWord_ofInt {n : Int}
    (inRange : -9223372036854775808 ≤ n ∧ n ≤ 9223372036854775807) :
    asWord (Json.ofInt n) = .ok n := by
  simp [asWord, Json.asInteger, Json.asNumber_ofInt inRange.1 inRange.2, inRange]

/-- The seconds of a time in range are read as a time that may be left out. -/
theorem asOptional_ofInt {time : Instant} (inRange : Instant.ofSeconds? time.seconds = some time) :
    Json.asOptional asInstant (Json.ofInt time.seconds) = .ok (some time) :=
  Json.asOptional_of_read (by simp [Json.ofInt]) (asInstant_ofInt inRange)

/-- A text is read as a text that may be left out. -/
theorem asOptional_ofText (text : String) :
    Json.asOptional Json.asText (Json.ofText text) = .ok (some text) :=
  Json.asOptional_of_read (by simp [Json.ofText]) (Json.asText_ofText text)

/-- The member that tells a time tells it under its name. -/
theorem mem_timeMembers {name : String} {time : Option Instant} {member : String × Json} :
    member ∈ timeMembers name time ↔
      ∃ told, time = some told ∧ member = (name, Json.ofInt told.seconds) := by
  cases time <;> simp [timeMembers]

/-- The fields of claims take the values that tell claims. -/
theorem members_taken (inRange : payload.InRange) :
    ∀ member ∈ payload.members, Json.IsTaken TokenPayload.fields member := by
  intro member inside
  simp only [TokenPayload.members, List.mem_append, List.mem_cons, List.not_mem_nil, or_false,
    mem_timeMembers, or_assoc] at inside
  rcases inside with rfl | rfl | rfl | ⟨time, told, rfl⟩ | rfl | rfl | ⟨time, told, rfl⟩ | rfl |
    rfl | rfl
  · exact Json.isTaken_of_read rfl (Json.asText_ofText _)
  · exact Json.isTaken_of_read rfl (Json.asText_ofText _)
  · exact Json.isTaken_of_read rfl (Json.asText_ofText _)
  · exact Json.isTaken_of_read rfl (asOptional_ofInt (inRange.authTime time told))
  · exact Json.isTaken_of_read rfl (Json.asText_ofText _)
  · exact Json.isTaken_of_read rfl (asInstant_ofInt inRange.expires)
  · exact Json.isTaken_of_read rfl (asOptional_ofInt (inRange.issuedAt time told))
  · exact Json.isTaken_of_read rfl (asWord_ofInt inRange.version)
  · exact Json.isTaken_of_read rfl (Json.asText_ofText _)
  · exact Json.isTaken_of_read rfl (Json.asText_ofText _)

/-- Values that tell claims are whole. -/
theorem members_whole : ∀ member ∈ payload.members, Json.IsWhole member.2 := by
  intro member inside
  simp only [TokenPayload.members, List.mem_append, List.mem_cons, List.not_mem_nil, or_false,
    mem_timeMembers, or_assoc] at inside
  rcases inside with rfl | rfl | rfl | ⟨time, -, rfl⟩ | rfl | rfl | ⟨time, -, rfl⟩ | rfl | rfl | rfl
  all_goals first | exact Json.isWhole_ofText _ | exact Json.isWhole_ofInt _

/-- No claim is told twice. -/
theorem members_distinct : (payload.members.map Prod.fst).Nodup := by
  cases authTime : payload.authTime <;> cases issuedAt : payload.issuedAt <;>
    simp [TokenPayload.members, timeMembers, authTime, issuedAt]

/-- A time that is told is read as that time, and one that is not is read as none. -/
theorem readOr_time {given : Json.Given} {name : String} {time : Option Instant}
    (inRange : ∀ told, time = some told → Instant.ofSeconds? told.seconds = some told)
    (found : given.value? name = time.map fun told => Json.ofInt told.seconds) :
    given.readOr name (Json.asOptional asInstant) none = .ok time := by
  cases time with
  | none => rw [Json.Given.readOr_eq, found, Option.map_none]
  | some told => exact Json.Given.readOr_of_read found (asOptional_ofInt (inRange told rfl))

/-- Written claims are read as those claims. -/
theorem ofBytes_claims (inRange : payload.InRange) (told : claims.Perm payload.members) :
    TokenPayload.ofBytes (writtenObject claims) = .ok payload := by
  have required : ∀ field ∈ TokenPayload.fields, field.absence = .refused →
      field.name ∈ payload.members.map Prod.fst := by
    simp [TokenPayload.fields, TokenPayload.members, Json.Field.of]
  obtain ⟨given, read, values, absent⟩ := Json.exists_asRecord_written TokenPayload.fields told
    members_distinct (members_taken inRange) required
  have text (name text : String) (member : (name, Json.ofText text) ∈ payload.members) :
      given.readOr name Json.asText "" = .ok text :=
    Json.Given.readOr_of_read (values name _ member) (Json.asText_ofText text)
  have subject := text "sub" payload.subject (by simp [TokenPayload.members])
  have tokenUse := text "token_use" payload.tokenUse (by simp [TokenPayload.members])
  have scope := text "scope" payload.scope (by simp [TokenPayload.members])
  have issuer := text "iss" payload.issuer (by simp [TokenPayload.members])
  have tokenId := text "jti" payload.tokenId (by simp [TokenPayload.members])
  have clientId := text "client_id" payload.clientId (by simp [TokenPayload.members])
  have expires : given.read "exp" asInstant = .ok payload.expires :=
    Json.Given.read_of_read (values "exp" _ (by simp [TokenPayload.members]))
      (asInstant_ofInt inRange.expires)
  have version : given.readOr "version" asWord 0 = .ok payload.version :=
    Json.Given.readOr_of_read (values "version" _ (by simp [TokenPayload.members]))
      (asWord_ofInt inRange.version)
  have authTime : given.readOr "auth_time" (Json.asOptional asInstant) none =
      .ok payload.authTime := by
    apply readOr_time inRange.authTime
    cases told : payload.authTime with
    | none =>
      exact absent "auth_time" (by simp [Json.IsFieldName, TokenPayload.fields, Json.Field.of])
        (by cases payload.issuedAt <;> simp [TokenPayload.members, timeMembers, told])
    | some time =>
      exact values "auth_time" _ (by simp [TokenPayload.members, mem_timeMembers, told])
  have issuedAt : given.readOr "iat" (Json.asOptional asInstant) none = .ok payload.issuedAt := by
    apply readOr_time inRange.issuedAt
    cases told : payload.issuedAt with
    | none =>
      exact absent "iat" (by simp [Json.IsFieldName, TokenPayload.fields, Json.Field.of])
        (by cases payload.authTime <;> simp [TokenPayload.members, timeMembers, told])
    | some time =>
      exact values "iat" _ (by simp [TokenPayload.members, mem_timeMembers, told])
  rw [ofBytes_eq_ok_iff]
  apply decode_writtenObject
  · exact fun member inside => members_whole member (told.mem_iff.mp inside)
  · simp [TokenPayload.ofJson, TokenPayload.ofGiven, read, subject, tokenUse, scope, issuer,
      tokenId, clientId, expires, version, authTime, issuedAt, bind, Except.bind, pure,
      Except.pure]

/-- A written header is read as what it says. -/
theorem decode_header (named : header.Perm (headerMembers alg kid)) :
    Json.decode SignatureEntry.ofJson (writtenObject header) = .ok ⟨some alg, kid⟩ := by
  have texts : ∀ member ∈ headerMembers alg kid,
      ∃ name text, member = (name, Json.ofText text) ∧ name ∈ ["alg", "kid"] := by
    cases kid <;> simp [headerMembers]
  have taken : ∀ member ∈ headerMembers alg kid, Json.IsTaken SignatureEntry.fields member := by
    intro member inside
    obtain ⟨name, text, rfl, called⟩ := texts member inside
    simp only [List.mem_cons, List.not_mem_nil, or_false] at called
    rcases called with rfl | rfl
    · exact Json.isTaken_of_read rfl (asOptional_ofText text)
    · exact Json.isTaken_of_read rfl (asOptional_ofText text)
  have distinct : ((headerMembers alg kid).map Prod.fst).Nodup := by
    cases kid <;> simp [headerMembers]
  have required : ∀ field ∈ SignatureEntry.fields, field.absence = .refused →
      field.name ∈ (headerMembers alg kid).map Prod.fst := by
    simp [SignatureEntry.fields, Json.Field.of]
  obtain ⟨given, read, values, absent⟩ := Json.exists_asRecord_written SignatureEntry.fields named
    distinct taken required
  have algRead : given.readOr "alg" (Json.asOptional Json.asText) none = .ok (some alg) :=
    Json.Given.readOr_of_read (values "alg" _ (by simp [headerMembers])) (asOptional_ofText alg)
  have kidRead : given.readOr "kid" (Json.asOptional Json.asText) none = .ok kid := by
    cases kid with
    | none =>
      rw [Json.Given.readOr_eq, absent "kid" (by simp [Json.IsFieldName, SignatureEntry.fields,
        Json.Field.of]) (by simp [headerMembers])]
    | some name =>
      exact Json.Given.readOr_of_read (values "kid" _ (by simp [headerMembers]))
        (asOptional_ofText name)
  apply decode_writtenObject
  · intro member inside
    obtain ⟨name, text, rfl, -⟩ := texts member (named.mem_iff.mp inside)
    exact Json.isWhole_ofText text
  · simp [SignatureEntry.ofJson, read, algRead, kidRead, bind, Except.bind, pure, Except.pure]

end Reading

section Acceptance

variable {config : ValidatorConfig} {now : Instant} {payload : TokenPayload} {alg : String}
  {kid : Option String} {header claims : List (String × Json)} {signature : String}

/-- The segments of an issued token are what it is made of. -/
theorem hasSegments_issuedToken (undotted : '.' ∉ signature.toList) :
    HasSegments (issuedToken header claims signature) (Base64Url.encode (writtenObject header))
      (Base64Url.encode (writtenObject claims)) signature :=
  ⟨rfl, encode_undotted _, encode_undotted _, undotted⟩

/-- An issued token is locally sound if its claims fit what is required. -/
theorem locallySound_issuedToken (inRange : payload.InRange)
    (issuer : payload.issuer = config.issuer) (current : now.before payload.expires = true)
    (client : ∀ expected, config.clientId = some expected → payload.clientId = expected)
    (allowed : alg ∈ config.algorithms) (named : header.Perm (headerMembers alg kid))
    (told : claims.Perm payload.members) (signed : signature ≠ "")
    (undotted : '.' ∉ signature.toList) :
    LocallySound config now (issuedToken header claims signature) payload
      (writtenObject claims) := by
  have segments : HasSegments (issuedToken header claims signature) _ _ _ :=
    hasSegments_issuedToken undotted
  constructor
  case signature =>
    have entry : SignatureEntry.ofSegment (Base64Url.encode (writtenObject header)) =
        .ok ⟨some alg, kid⟩ :=
      SignatureEntry.ofSegment_eq_ok_iff.mpr ⟨_, Base64Url.decode_encode _, decode_header named⟩
    exact ⟨_, parse_of_segments segments signed entry, alg, allowed, rfl⟩
  case octets =>
    have cut := Envelope.segments_eq_iff.mpr segments
    exact ⟨_, isSecondSegment_iff.mpr ⟨_, _, cut⟩, Base64Url.decode_encode _⟩
  case claims => exact ofBytes_claims inRange told
  case issuer => exact issuer
  case current => exact current
  case client => exact client

/-- The scopes of an identity are the pieces of the claim between single spaces, in order. -/
theorem scopes_ofPayload (payload : TokenPayload) :
    (Identity.ofPayload payload).scopes ≠ [] ∧
      (∀ scope ∈ (Identity.ofPayload payload).scopes, ' ' ∉ scope.toList) ∧
      payload.scope.toList =
        [' '].intercalate ((Identity.ofPayload payload).scopes.map String.toList) :=
  (Envelope.split_eq_iff ' ' payload.scope _).mp rfl

/-- Whatever claims are written into a token, under whatever accepted algorithm and key name: if
they are in range and fit what the service requires, and the provider vouches in time for their
octets, the token is accepted after asking the provider once, with exactly those claims, and the
identity that they speak of has their subject and the pieces of their scope. -/
theorem issued_accepted (config : ValidatorConfig) (provider : Provider) (now : Instant)
    (payload : TokenPayload) (alg : String) (kid : Option String)
    (header claims : List (String × Json)) (signature : String) (inRange : payload.InRange)
    (issuer : payload.issuer = config.issuer) (current : now.before payload.expires = true)
    (client : ∀ expected, config.clientId = some expected → payload.clientId = expected)
    (allowed : alg ∈ config.algorithms) (named : header.Perm (headerMembers alg kid))
    (told : claims.Perm payload.members) (signed : signature ≠ "")
    (undotted : '.' ∉ signature.toList)
    (timely : (provider (issuedToken header claims signature)).latency ≤ config.verifyTimeout)
    (answered : (provider (issuedToken header claims signature)).answer =
      .ok (writtenObject claims)) :
    (config.validateAt provider now (issuedToken header claims signature)).result = .ok payload ∧
    (config.validateAt provider now (issuedToken header claims signature)).providerCalls = 1 ∧
    (Identity.ofPayload payload).subject = payload.subject ∧
    (Identity.ofPayload payload).scopes ≠ [] ∧
    (∀ scope ∈ (Identity.ofPayload payload).scopes, ' ' ∉ scope.toList) ∧
    payload.scope.toList =
      [' '].intercalate ((Identity.ofPayload payload).scopes.map String.toList) := by
  have sound := locallySound_issuedToken inRange issuer current client allowed named told signed
    undotted
  refine ⟨result_eq_ok_iff.mpr ⟨_, sound, timely, answered⟩, ?_, rfl, scopes_ofPayload payload⟩
  rw [validateAt_of_sound sound]

end Acceptance

section Accepted

/-- Claims with all sorts of characters in them, a time before 1970 and the least version. -/
def wideClaims : TokenPayload where
  subject := "\"é\\😀\n"
  tokenUse := "access"
  scope := "read  write"
  authTime := some ⟨-1, 0⟩
  issuer := "issuer"
  expires := ⟨1, 0⟩
  issuedAt := none
  version := -9223372036854775808
  tokenId := ""
  clientId := "client"

/-- What a service requires that serves one client. -/
def clientConfig : ValidatorConfig :=
  ⟨"issuer", some "client", ["PS256", "RS256"], Duration.ofSeconds 5⟩

/-- A provider that vouches for those claims, written in the opposite order. -/
def obliging : Provider :=
  fun _ => ⟨.ok (writtenObject wideClaims.members.reverse), Duration.zero⟩

/-- The token with those claims in that order. -/
def wideToken : String :=
  issuedToken (headerMembers "RS256" (some "k")).reverse wideClaims.members.reverse "~"

/-- At the start of 1970 the token is accepted. -/
theorem wideToken_accepted :
    (clientConfig.validateAt obliging ⟨0, 0⟩ wideToken).result = .ok wideClaims ∧
      (clientConfig.validateAt obliging ⟨0, 0⟩ wideToken).providerCalls = 1 ∧
      (Identity.ofPayload wideClaims).scopes = ["read", "", "write"] := by
  have inRange : wideClaims.InRange := by
    constructor
    case version => decide
    case expires => decide
    case issuedAt => simp [wideClaims]
    case authTime =>
      rintro time told
      cases told
      decide
  obtain ⟨accepted, asked, -⟩ := issued_accepted clientConfig obliging ⟨0, 0⟩ wideClaims "RS256"
    (some "k") _ _ "~" inRange rfl (by decide) (by simp [clientConfig, wideClaims])
    (by simp [clientConfig]) (List.reverse_perm _) (List.reverse_perm _) (by decide) (by decide)
    (Nat.zero_le _) rfl
  exact ⟨accepted, asked, rfl⟩

end Accepted

end IssueTracker.Auth

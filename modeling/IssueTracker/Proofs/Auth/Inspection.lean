import IssueTracker.Auth.Validator
import IssueTracker.Proofs.Auth.Envelope

/-!
# What inspection lets through

The local part of judging a token, taken apart. Its first two checks read the token as an envelope;
the others take its second segment between dots, whatever its form. Each check is said in its own
terms, and together they are exactly what inspection lets through.
-/

namespace IssueTracker.Auth

/-- What stands in a token between its first dot and the next one, or the end. -/
def IsSecondSegment (token segment : String) : Prop :=
  ∃ front back, token.toList = front ++ '.' :: (segment.toList ++ back) ∧
    '.' ∉ front ∧ '.' ∉ segment.toList ∧ (back = [] ∨ ∃ rest, back = '.' :: rest)

/-- Octets that the second segment of a token is the encoding of. -/
def CarriesOctets (token : String) (bytes : Bytes) : Prop :=
  ∃ segment, IsSecondSegment token segment ∧ Base64Url.decode segment = .ok bytes

/-- Claims that can be read from the octets in the second segment of a token. -/
def CarriesClaims (token : String) (payload : TokenPayload) : Prop :=
  ∃ bytes, CarriesOctets token bytes ∧ TokenPayload.ofBytes bytes = .ok payload

/-- Whether a token declares exactly one signature, and that under one of certain algorithms. -/
def SignedUnder (algorithms : List String) (token : String) : Prop :=
  ∃ entry, Envelope.parse token = .ok ⟨[entry]⟩ ∧ ∃ name ∈ algorithms, entry.alg = some name

/-- A token that nothing speaks against before the provider is asked, with its claims and their
octets. -/
structure LocallySound (config : ValidatorConfig) (now : Instant) (token : String)
    (payload : TokenPayload) (bytes : Bytes) : Prop where
  signature : SignedUnder config.algorithms token
  octets : CarriesOctets token bytes
  claims : TokenPayload.ofBytes bytes = .ok payload
  issuer : payload.issuer = config.issuer
  current : now.before payload.expires = true
  client : ∀ expected, config.clientId = some expected → payload.clientId = expected

/-- The step at which inspection refuses a token, with what it has found out before. -/
inductive RefusedAt (config : ValidatorConfig) (now : Instant) (token : String)
    (refusal : AuthError) : Prop
  | form (unparsed : Envelope.parse token = .error refusal)
  | count {envelope : Envelope} (parsed : Envelope.parse token = .ok envelope)
      (miscounted : envelope.singleSignature = .error refusal)
  | algorithm {entry : SignatureEntry} (parsed : Envelope.parse token = .ok ⟨[entry]⟩)
      (unnamed : Envelope.checkAlgorithm entry config.algorithms = .error refusal)
  | encoding (signature : SignedUnder config.algorithms token)
      (undecoded : Envelope.decodePayload token = .error refusal)
  | claims {bytes : Bytes} (signature : SignedUnder config.algorithms token)
      (carried : CarriesOctets token bytes)
      (unread : TokenPayload.ofBytes bytes = .error refusal)
  | policy {payload : TokenPayload} (signature : SignedUnder config.algorithms token)
      (claims : CarriesClaims token payload)
      (unfit : config.policy.check payload now = .error refusal)

/-- Refusals for what a token itself is or says: it is malformed, it has not one signature under an
accepted algorithm, or its claims are not the ones required. -/
def AuthError.IsLocal : AuthError → Prop
  | .malformedToken _ | .tokenNotSigned | .multipleSignaturesUnsupported
  | .unsupportedAlgorithm _ _ | .issuerMismatch _ _ | .tokenExpired _ _
  | .clientIdMismatch _ _ => True
  | .tokenMissingOrMalformed | .signatureVerificationFailed _ | .verificationCancelled _
  | .internalPayloadMismatch => False

section SecondSegment

variable {token segment other : String} {bytes : Bytes}

/-- The second segment is the second of the pieces between dots. -/
theorem isSecondSegment_iff :
    IsSecondSegment token segment ↔
      ∃ header others, Envelope.segments token = header :: segment :: others := by
  constructor
  · rintro ⟨front, back, written, frontWhole, whole, behind⟩
    have first := Envelope.split_of_append frontWhole written
    rcases behind with rfl | ⟨rest, rfl⟩
    · have second : Envelope.split '.' (String.ofList (segment.toList ++ [])) = [segment] := by
        rw [List.append_nil, String.ofList_toList]
        exact Envelope.split_of_not_mem whole
      exact ⟨String.ofList front, [], first.trans (by rw [second])⟩
    · have behind : (String.ofList (segment.toList ++ '.' :: rest)).toList =
          segment.toList ++ '.' :: rest := String.toList_ofList
      have second := Envelope.split_of_append whole behind
      rw [String.ofList_toList] at second
      exact ⟨String.ofList front, _, first.trans (by rw [second])⟩
  · rintro ⟨header, others, cut⟩
    obtain ⟨-, whole, written⟩ := (Envelope.split_eq_iff _ _ _).mp cut
    have headerWhole : '.' ∉ header.toList := whole header (by simp)
    have segmentWhole : '.' ∉ segment.toList := whole segment (by simp)
    cases others with
    | nil =>
      refine ⟨header.toList, [], ?_, headerWhole, segmentWhole, .inl rfl⟩
      simpa using written
    | cons third others =>
      refine ⟨header.toList, '.' :: ['.'].intercalate ((third :: others).map String.toList), ?_,
        headerWhole, segmentWhole, .inr ⟨_, rfl⟩⟩
      simpa using written

/-- A token has at most one second segment. -/
theorem isSecondSegment_unique (this : IsSecondSegment token segment)
    (that : IsSecondSegment token other) :
    segment = other := by
  obtain ⟨_, _, cut⟩ := isSecondSegment_iff.mp this
  obtain ⟨_, _, cutAgain⟩ := isSecondSegment_iff.mp that
  have same := cut.symm.trans cutAgain
  simp only [List.cons.injEq] at same
  exact same.2.1

/-- A token without a dot has one segment, any other has a second one. -/
theorem segments_or_second (token : String) :
    '.' ∉ token.toList ∧ Envelope.segments token = [token] ∨
      ∃ segment, IsSecondSegment token segment := by
  by_cases dotted : '.' ∈ token.toList
  · right
    obtain ⟨front, rest, written, absent⟩ := List.eq_append_cons_of_mem dotted
    have cut := Envelope.split_of_append absent written
    obtain ⟨nonempty, -, -⟩ := (Envelope.split_eq_iff '.' (String.ofList rest) _).mp rfl
    obtain ⟨segment, others, behind⟩ := List.exists_cons_of_ne_nil nonempty
    exact ⟨segment, isSecondSegment_iff.mpr ⟨_, others, cut.trans (by rw [behind])⟩⟩
  · exact .inl ⟨dotted, Envelope.split_of_not_mem dotted⟩

/-- The octets in the second segment are those that its decoding gives. -/
theorem decodePayload_eq_ok_iff :
    Envelope.decodePayload token = .ok bytes ↔ CarriesOctets token bytes := by
  rcases segments_or_second token with ⟨undotted, alone⟩ | ⟨segment, second⟩
  · have none : ¬ CarriesOctets token bytes := by
      rintro ⟨segment, second, -⟩
      obtain ⟨_, _, cut⟩ := isSecondSegment_iff.mp second
      simp [alone] at cut
    simp [Envelope.decodePayload, alone, none]
  · obtain ⟨header, others, cut⟩ := isSecondSegment_iff.mp second
    have carried : CarriesOctets token bytes ↔ Base64Url.decode segment = .ok bytes := by
      constructor
      · rintro ⟨other, again, decoded⟩
        rwa [isSecondSegment_unique second again]
      · intro decoded
        exact ⟨segment, second, decoded⟩
    rw [carried]
    cases decoded : Base64Url.decode segment with
    | error fault => simp [Envelope.decodePayload, cut, decoded]
    | ok found => simp [Envelope.decodePayload, cut, decoded]

/-- There are no octets to be had from a token without a second segment, or with one that is not
in the encoding. -/
theorem decodePayload_eq_error_iff {refusal : AuthError} :
    Envelope.decodePayload token = .error refusal ↔
      ('.' ∉ token.toList ∧ refusal = .malformedToken (.payloadSegments 1)) ∨
        ∃ segment fault, IsSecondSegment token segment ∧
          Base64Url.decode segment = .error fault ∧
            refusal = .malformedToken (.payloadEncoding fault) := by
  rcases segments_or_second token with ⟨undotted, alone⟩ | ⟨segment, second⟩
  · have none : ∀ segment, ¬ IsSecondSegment token segment := by
      intro segment second
      obtain ⟨_, _, cut⟩ := isSecondSegment_iff.mp second
      simp [alone] at cut
    simp [Envelope.decodePayload, alone, undotted, none, eq_comm]
  · obtain ⟨header, others, cut⟩ := isSecondSegment_iff.mp second
    have dotted : '.' ∈ token.toList := by
      obtain ⟨front, back, written, -⟩ := second
      simp [written]
    have only : ∀ other, IsSecondSegment token other ↔ other = segment := by
      intro other
      constructor
      · intro again
        exact isSecondSegment_unique again second
      · rintro rfl
        exact second
    cases decoded : Base64Url.decode segment with
    | error fault => simp [Envelope.decodePayload, cut, decoded, dotted, only, eq_comm]
    | ok found => simp [Envelope.decodePayload, cut, decoded, dotted, only]

/-- A token carries at most one sequence of octets. -/
theorem carriesOctets_unique {these those : Bytes} (this : CarriesOctets token these)
    (that : CarriesOctets token those) :
    these = those := by
  rw [← decodePayload_eq_ok_iff] at this that
  exact Except.ok.inj (this.symm.trans that)

/-- A token carries at most one set of claims. -/
theorem carriesClaims_unique {these those : TokenPayload} (this : CarriesClaims token these)
    (that : CarriesClaims token those) :
    these = those := by
  obtain ⟨bytes, carried, read⟩ := this
  obtain ⟨again, carriedAgain, readAgain⟩ := that
  rw [carriesOctets_unique carriedAgain carried] at readAgain
  exact Except.ok.inj (read.symm.trans readAgain)

end SecondSegment

section Checks

variable {envelope : Envelope} {entry : SignatureEntry} {allowed : List String} {bytes : Bytes}
  {policy : ClaimsPolicy} {payload : TokenPayload} {now : Instant} {refusal : AuthError}

/-- An envelope with one signature has that as its only one. -/
theorem singleSignature_eq_ok_iff :
    envelope.singleSignature = .ok entry ↔ envelope = ⟨[entry]⟩ := by
  obtain ⟨signatures⟩ := envelope
  cases signatures with
  | nil => simp [Envelope.singleSignature]
  | cons first others =>
    cases others with
    | nil => simp [Envelope.singleSignature]
    | cons second others => simp [Envelope.singleSignature]

/-- Any other envelope has none, or has several. -/
theorem singleSignature_eq_error_iff :
    envelope.singleSignature = .error refusal ↔
      envelope = ⟨[]⟩ ∧ refusal = .tokenNotSigned ∨
        (∃ first second others, envelope = ⟨first :: second :: others⟩) ∧
          refusal = .multipleSignaturesUnsupported := by
  obtain ⟨signatures⟩ := envelope
  cases signatures with
  | nil => simp [Envelope.singleSignature, eq_comm]
  | cons first others =>
    cases others with
    | nil => simp [Envelope.singleSignature]
    | cons second others => simp [Envelope.singleSignature, eq_comm]

/-- An algorithm is accepted if it is one of the named ones. -/
theorem checkAlgorithm_eq_ok_iff :
    Envelope.checkAlgorithm entry allowed = .ok () ↔ ∃ name ∈ allowed, entry.alg = some name := by
  cases named : entry.alg with
  | none => simp [Envelope.checkAlgorithm, named]
  | some name =>
    by_cases member : name ∈ allowed
    · simp [Envelope.checkAlgorithm, named, member]
    · simp [Envelope.checkAlgorithm, named, member]

/-- Any other algorithm is refused, and so is none at all. -/
theorem checkAlgorithm_eq_error_iff :
    Envelope.checkAlgorithm entry allowed = .error refusal ↔
      (∀ name ∈ allowed, entry.alg ≠ some name) ∧
        refusal = .unsupportedAlgorithm allowed (entry.alg.getD "") := by
  cases named : entry.alg with
  | none => simp [Envelope.checkAlgorithm, named, eq_comm]
  | some name =>
    by_cases member : name ∈ allowed
    · constructor
      · intro refused
        simp [Envelope.checkAlgorithm, named, member] at refused
      · rintro ⟨unnamed, -⟩
        exact absurd rfl (unnamed name member)
    · have others : ∀ other ∈ allowed, name ≠ other := by
        rintro other inside rfl
        exact member inside
      simpa [Envelope.checkAlgorithm, named, member, eq_comm] using fun _ => others

/-- Claims are those that the octets are the JSON text of. -/
theorem ofBytes_eq_ok_iff :
    TokenPayload.ofBytes bytes = .ok payload ↔
      Json.decode TokenPayload.ofJson bytes = .ok payload := by
  cases read : Json.decode TokenPayload.ofJson bytes with
  | error fault => simp [TokenPayload.ofBytes, read]
  | ok found => simp [TokenPayload.ofBytes, read]

/-- Octets that are not the JSON text of claims are a malformed payload. -/
theorem ofBytes_eq_error_iff :
    TokenPayload.ofBytes bytes = .error refusal ↔
      ∃ fault, Json.decode TokenPayload.ofJson bytes = .error fault ∧
        refusal = .malformedToken (.payload fault) := by
  cases read : Json.decode TokenPayload.ofJson bytes with
  | error fault => simp [TokenPayload.ofBytes, read, eq_comm]
  | ok found => simp [TokenPayload.ofBytes, read]

/-- Claims are accepted if the issuer, the expiry and the client are. -/
theorem check_eq_ok_iff :
    policy.check payload now = .ok () ↔
      payload.issuer = policy.issuer ∧ now.before payload.expires = true ∧
        ∀ expected, policy.clientId = some expected → payload.clientId = expected := by
  by_cases issued : payload.issuer = policy.issuer
  · by_cases current : now.before payload.expires = true
    · cases client : policy.clientId with
      | none => simp [ClaimsPolicy.check, issued, current, client]
      | some expected => simp [ClaimsPolicy.check, issued, current, client]
    · simp [ClaimsPolicy.check, issued, current]
  · simp [ClaimsPolicy.check, issued]

/-- Claims are refused for the issuer, or else the expiry, or else the client. -/
theorem check_eq_error_iff :
    policy.check payload now = .error refusal ↔
      payload.issuer ≠ policy.issuer ∧ .issuerMismatch policy.issuer payload.issuer = refusal ∨
      (payload.issuer = policy.issuer ∧ ¬ now.before payload.expires = true ∧
        .tokenExpired now payload.expires = refusal) ∨
      (payload.issuer = policy.issuer ∧ now.before payload.expires = true ∧
        ∃ expected, policy.clientId = some expected ∧ payload.clientId ≠ expected ∧
          .clientIdMismatch expected payload.clientId = refusal) := by
  by_cases issued : payload.issuer = policy.issuer
  · by_cases current : now.before payload.expires = true
    · cases client : policy.clientId with
      | none => simp [ClaimsPolicy.check, issued, current, client]
      | some expected =>
        by_cases same : payload.clientId = expected
        · simp [ClaimsPolicy.check, issued, current, client, same]
        · simp [ClaimsPolicy.check, issued, current, client, same]
    · simp [ClaimsPolicy.check, issued, current]
  · simp [ClaimsPolicy.check, issued]

end Checks

section Judgement

variable {config : ValidatorConfig} {provider : Provider} {now : Instant} {token : String}
  {payload : TokenPayload} {bytes : Bytes}

/-- Inspection lets exactly the locally sound tokens through. -/
theorem inspect_eq_ok_iff :
    config.inspect now token = .ok (payload, bytes) ↔
      LocallySound config now token payload bytes := by
  simp only [ValidatorConfig.inspect, Except.bind_eq_ok]
  constructor
  · rintro ⟨envelope, parsed, entry, single, ⟨⟩, named, found, carried, claims, read, ⟨⟩, passed,
      returned⟩
    cases returned
    rw [singleSignature_eq_ok_iff] at single
    rw [check_eq_ok_iff] at passed
    obtain ⟨issuer, current, client⟩ := passed
    exact ⟨⟨entry, single ▸ parsed, checkAlgorithm_eq_ok_iff.mp named⟩,
      decodePayload_eq_ok_iff.mp carried, read, issuer, current, client⟩
  · rintro ⟨⟨entry, parsed, named⟩, carried, read, issuer, current, client⟩
    have passed : config.policy.check payload now = .ok () :=
      check_eq_ok_iff.mpr ⟨issuer, current, client⟩
    exact ⟨_, parsed, entry, singleSignature_eq_ok_iff.mpr rfl, (),
      checkAlgorithm_eq_ok_iff.mpr named, bytes, decodePayload_eq_ok_iff.mpr carried, payload, read,
      (), passed, rfl⟩

/-- Inspection refuses a token at one of its steps, and has passed the steps before. -/
theorem refusedAt_of_inspect {refusal : AuthError}
    (refused : config.inspect now token = .error refusal) :
    RefusedAt config now token refusal := by
  simp only [ValidatorConfig.inspect, Except.bind_eq_error] at refused
  rcases refused with unparsed | ⟨envelope, parsed, refused⟩
  · exact .form unparsed
  rcases refused with miscounted | ⟨entry, single, refused⟩
  · exact .count parsed miscounted
  rw [singleSignature_eq_ok_iff] at single
  subst single
  rcases refused with unnamed | ⟨⟨⟩, named, refused⟩
  · exact .algorithm parsed unnamed
  have signature : SignedUnder config.algorithms token :=
    ⟨entry, parsed, checkAlgorithm_eq_ok_iff.mp named⟩
  rcases refused with undecoded | ⟨bytes, decoded, refused⟩
  · exact .encoding signature undecoded
  have carried := decodePayload_eq_ok_iff.mp decoded
  rcases refused with unread | ⟨payload, read, refused⟩
  · exact .claims signature carried unread
  rcases refused with unfit | ⟨_, _, returned⟩
  · exact .policy signature ⟨bytes, carried, read⟩ unfit
  · cases returned

/-- Inspection refuses a token only for what it is or says. -/
theorem inspect_refusal_local {refusal : AuthError}
    (refused : config.inspect now token = .error refusal) :
    refusal.IsLocal := by
  cases refusedAt_of_inspect refused with
  | form unparsed =>
    obtain ⟨malformation, rfl⟩ := Envelope.parse_malformed unparsed
    trivial
  | count parsed miscounted =>
    rcases singleSignature_eq_error_iff.mp miscounted with ⟨_, rfl⟩ | ⟨_, rfl⟩
    · trivial
    · trivial
  | algorithm parsed unnamed =>
    obtain ⟨_, rfl⟩ := checkAlgorithm_eq_error_iff.mp unnamed
    trivial
  | encoding signature undecoded =>
    rcases decodePayload_eq_error_iff.mp undecoded with ⟨_, rfl⟩ | ⟨_, _, _, _, rfl⟩
    · trivial
    · trivial
  | claims signature carried unread =>
    obtain ⟨fault, _, rfl⟩ := ofBytes_eq_error_iff.mp unread
    trivial
  | policy signature claims unfit =>
    rcases check_eq_error_iff.mp unfit with ⟨_, rfl⟩ | ⟨_, _, rfl⟩ | ⟨_, _, _, _, _, rfl⟩
    · trivial
    · trivial
    · trivial

/-- A token that inspection refuses is refused for that reason, and the provider is not asked. -/
theorem validateAt_of_refused {refusal : AuthError}
    (refused : config.inspect now token = .error refusal) :
    config.validateAt provider now token = ⟨.error refusal, 0, Duration.zero⟩ := by
  simp [ValidatorConfig.validateAt, refused]

/-- The provider is not asked about a token that is not locally sound. -/
theorem providerCalls_of_unsound
    (unsound : ¬ ∃ payload bytes, LocallySound config now token payload bytes) :
    (config.validateAt provider now token).providerCalls = 0 := by
  cases inspected : config.inspect now token with
  | error refusal => rw [validateAt_of_refused inspected]
  | ok found => exact absurd ⟨_, _, inspect_eq_ok_iff.mp inspected⟩ unsound

/-- The provider is asked once about a locally sound token, and its verdict decides. -/
theorem validateAt_of_sound (sound : LocallySound config now token payload bytes) :
    config.validateAt provider now token =
      ⟨config.conclude payload bytes (provider token), 1,
        (provider token).latency.least config.verifyTimeout⟩ := by
  simp [ValidatorConfig.validateAt, inspect_eq_ok_iff.mpr sound]

/-- A verdict lets a payload through if it comes in time and vouches for the very octets that were
inspected. -/
theorem conclude_eq_ok_iff {verdict : Verdict} {accepted : TokenPayload} :
    config.conclude payload bytes verdict = .ok accepted ↔
      payload = accepted ∧ verdict.latency ≤ config.verifyTimeout ∧
        verdict.answer = .ok bytes := by
  by_cases timely : verdict.latency ≤ config.verifyTimeout
  · cases answered : verdict.answer with
    | error cause => simp [ValidatorConfig.conclude, timely, answered]
    | ok vouched =>
      by_cases same : vouched = bytes
      · simp [ValidatorConfig.conclude, timely, answered, same]
      · simp [ValidatorConfig.conclude, timely, answered, same]
  · simp [ValidatorConfig.conclude, timely]

/-- A token is accepted if it is locally sound and the provider vouches in time for the octets that
it carries. -/
theorem result_eq_ok_iff :
    (config.validateAt provider now token).result = .ok payload ↔
      ∃ bytes, LocallySound config now token payload bytes ∧
        (provider token).latency ≤ config.verifyTimeout ∧
          (provider token).answer = .ok bytes := by
  constructor
  · intro accepted
    cases inspected : config.inspect now token with
    | error refusal =>
      rw [validateAt_of_refused inspected] at accepted
      cases accepted
    | ok found =>
      obtain ⟨claims, octets⟩ := found
      have sound := inspect_eq_ok_iff.mp inspected
      rw [validateAt_of_sound sound] at accepted
      obtain ⟨rfl, timely, vouched⟩ := conclude_eq_ok_iff.mp accepted
      exact ⟨octets, sound, timely, vouched⟩
  · rintro ⟨octets, sound, timely, vouched⟩
    rw [validateAt_of_sound sound]
    exact conclude_eq_ok_iff.mpr ⟨rfl, timely, vouched⟩

end Judgement

end IssueTracker.Auth

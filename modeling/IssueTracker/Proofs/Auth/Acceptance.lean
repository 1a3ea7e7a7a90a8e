import IssueTracker.Proofs.Auth.Inspection

/-!
# Which tokens are accepted, and why others are not

A token can have several flaws at once. Every flaw is described for itself, by what is wrong with
the token and not by when that is noticed; the checks are then put in order. A token is accepted
exactly if it is locally sound and the provider vouches for its octets in time, and it is refused
for its first flaw in that order. The provider is asked exactly about locally sound tokens.
-/

namespace IssueTracker.Auth

/-- What is checked of a token. -/
inductive Check
  /-- The syntax of the envelope. -/
  | form
  /-- The number of signatures. -/
  | count
  | algorithm
  /-- The encoding of the payload. -/
  | encoding
  /-- The payload as JSON. -/
  | claims
  | issuer
  | expiry
  | client
  /-- Whether the provider answers in time, and with a payload. -/
  | verdict
  /-- Whether the payload is the one that was inspected. -/
  | comparison
deriving Repr, DecidableEq

/-- The place of a check in the order of all. -/
def Check.place : Check → Nat
  | .form => 0
  | .count => 1
  | .algorithm => 2
  | .encoding => 3
  | .claims => 4
  | .issuer => 5
  | .expiry => 6
  | .client => 7
  | .verdict => 8
  | .comparison => 9

/-- A flaw of a token that a check is about, with the error that it deserves. -/
inductive Flaw (config : ValidatorConfig) (provider : Provider) (now : Instant) (token : String) :
    Check → AuthError → Prop
  | form {refusal : AuthError} (refused : Envelope.parse token = .error refusal) :
      Flaw config provider now token .form refusal
  | unsigned (parsed : Envelope.parse token = .ok ⟨[]⟩) :
      Flaw config provider now token .count .tokenNotSigned
  | several {first second : SignatureEntry} {others : List SignatureEntry}
      (parsed : Envelope.parse token = .ok ⟨first :: second :: others⟩) :
      Flaw config provider now token .count .multipleSignaturesUnsupported
  | algorithm {entry : SignatureEntry} (parsed : Envelope.parse token = .ok ⟨[entry]⟩)
      (unnamed : ∀ name ∈ config.algorithms, entry.alg ≠ some name) :
      Flaw config provider now token .algorithm
        (.unsupportedAlgorithm config.algorithms (entry.alg.getD ""))
  | undotted (absent : '.' ∉ token.toList) :
      Flaw config provider now token .encoding (.malformedToken (.payloadSegments 1))
  | encoding {segment : String} {fault : Base64Url.Fault}
      (second : IsSecondSegment token segment)
      (failed : Base64Url.decode segment = .error fault) :
      Flaw config provider now token .encoding (.malformedToken (.payloadEncoding fault))
  | claims {bytes : Bytes} {fault : Json.Fault} (carried : CarriesOctets token bytes)
      (failed : Json.decode TokenPayload.ofJson bytes = .error fault) :
      Flaw config provider now token .claims (.malformedToken (.payload fault))
  | issuer {payload : TokenPayload} (carried : CarriesClaims token payload)
      (different : payload.issuer ≠ config.issuer) :
      Flaw config provider now token .issuer (.issuerMismatch config.issuer payload.issuer)
  | expiry {payload : TokenPayload} (carried : CarriesClaims token payload)
      (expired : ¬ now.before payload.expires = true) :
      Flaw config provider now token .expiry (.tokenExpired now payload.expires)
  | client {payload : TokenPayload} {expected : String} (carried : CarriesClaims token payload)
      (enforced : config.clientId = some expected) (different : payload.clientId ≠ expected) :
      Flaw config provider now token .client (.clientIdMismatch expected payload.clientId)
  | late (slow : ¬ (provider token).latency ≤ config.verifyTimeout) :
      Flaw config provider now token .verdict (.verificationCancelled config.verifyTimeout)
  | verdict {cause : ProviderError} (timely : (provider token).latency ≤ config.verifyTimeout)
      (answered : (provider token).answer = .error cause) :
      Flaw config provider now token .verdict (.signatureVerificationFailed cause)
  | comparison {bytes vouched : Bytes} (carried : CarriesOctets token bytes)
      (answered : (provider token).answer = .ok vouched) (different : vouched ≠ bytes) :
      Flaw config provider now token .comparison .internalPayloadMismatch

/-- Whether no check before some check finds a flaw. -/
def ClearBefore (config : ValidatorConfig) (provider : Provider) (now : Instant) (token : String)
    (check : Check) : Prop :=
  ∀ earlier, earlier.place < check.place → ∀ refusal,
    ¬ Flaw config provider now token earlier refusal

/-- A flaw before which there is no other. -/
structure FirstFlaw (config : ValidatorConfig) (provider : Provider) (now : Instant)
    (token : String) (check : Check) (refusal : AuthError) : Prop where
  flaw : Flaw config provider now token check refusal
  clear : ClearBefore config provider now token check

/-- Whether a token is locally sound, with a payload whose octets the provider vouches for in
time. -/
def Acceptable (config : ValidatorConfig) (provider : Provider) (now : Instant) (token : String)
    (payload : TokenPayload) : Prop :=
  ∃ bytes, LocallySound config now token payload bytes ∧
    (provider token).latency ≤ config.verifyTimeout ∧ (provider token).answer = .ok bytes

/-- Checks at the same place are the same. -/
theorem Check.place_injective {one other : Check} (same : one.place = other.place) :
    one = other := by
  cases one <;> cases other <;> first | rfl | cases same

section Flaws

variable {config : ValidatorConfig} {provider : Provider} {now : Instant} {token : String}
  {envelope : Envelope} {entry : SignatureEntry} {payload : TokenPayload} {bytes vouched : Bytes}

/-- A check that finds nothing is passed. -/
theorem ClearBefore.next {check following : Check}
    (clear : ClearBefore config provider now token check)
    (passed : ∀ refusal, ¬ Flaw config provider now token check refusal)
    (follows : following.place = check.place + 1) :
    ClearBefore config provider now token following := by
  intro earlier before
  by_cases same : earlier.place = check.place
  · rw [Check.place_injective same]
    exact passed
  · exact clear earlier (by omega)

/-- Nothing comes before the first check. -/
theorem clearBefore_form : ClearBefore config provider now token .form := by
  intro earlier before
  simp [Check.place] at before

/-- An envelope that can be parsed has the right syntax. -/
theorem form_passed (parsed : Envelope.parse token = .ok envelope) (refusal : AuthError) :
    ¬ Flaw config provider now token .form refusal := by
  intro flaw
  cases flaw with
  | form refused =>
    rw [parsed] at refused
    cases refused

/-- One signature is the right number. -/
theorem count_passed (parsed : Envelope.parse token = .ok ⟨[entry]⟩) (refusal : AuthError) :
    ¬ Flaw config provider now token .count refusal := by
  intro flaw
  cases flaw with
  | unsigned parsedAgain =>
    rw [parsed] at parsedAgain
    cases parsedAgain
  | several parsedAgain =>
    rw [parsed] at parsedAgain
    cases parsedAgain

/-- A named algorithm is passed. -/
theorem algorithm_passed (parsed : Envelope.parse token = .ok ⟨[entry]⟩)
    (named : ∃ name ∈ config.algorithms, entry.alg = some name) (refusal : AuthError) :
    ¬ Flaw config provider now token .algorithm refusal := by
  intro flaw
  cases flaw with
  | algorithm parsedAgain unnamed =>
    rw [parsed] at parsedAgain
    cases parsedAgain
    obtain ⟨name, member, same⟩ := named
    exact unnamed name member same

/-- A second segment that can be decoded has no flaw in its encoding. -/
theorem encoding_passed (carried : CarriesOctets token bytes) (refusal : AuthError) :
    ¬ Flaw config provider now token .encoding refusal := by
  intro flaw
  obtain ⟨segment, second, decoded⟩ := carried
  cases flaw with
  | undotted absent =>
    obtain ⟨front, back, written, -⟩ := second
    simp [written] at absent
  | encoding secondAgain failed =>
    rw [isSecondSegment_unique secondAgain second, decoded] at failed
    cases failed

/-- Octets that can be read as claims have no flaw there. -/
theorem claims_passed (carried : CarriesOctets token bytes)
    (read : TokenPayload.ofBytes bytes = .ok payload) (refusal : AuthError) :
    ¬ Flaw config provider now token .claims refusal := by
  intro flaw
  cases flaw with
  | claims carriedAgain failed =>
    rw [carriesOctets_unique carriedAgain carried, ofBytes_eq_ok_iff.mp read] at failed
    cases failed

/-- The expected issuer is passed. -/
theorem issuer_passed (carried : CarriesClaims token payload)
    (expected : payload.issuer = config.issuer) (refusal : AuthError) :
    ¬ Flaw config provider now token .issuer refusal := by
  intro flaw
  cases flaw with
  | issuer carriedAgain different =>
    rw [carriesClaims_unique carriedAgain carried] at different
    exact different expected

/-- A token that is not expired is passed. -/
theorem expiry_passed (carried : CarriesClaims token payload)
    (current : now.before payload.expires = true) (refusal : AuthError) :
    ¬ Flaw config provider now token .expiry refusal := by
  intro flaw
  cases flaw with
  | expiry carriedAgain expired =>
    rw [carriesClaims_unique carriedAgain carried] at expired
    exact expired current

/-- The expected client is passed, and any client if none is. -/
theorem client_passed (carried : CarriesClaims token payload)
    (client : ∀ expected, config.clientId = some expected → payload.clientId = expected)
    (refusal : AuthError) :
    ¬ Flaw config provider now token .client refusal := by
  intro flaw
  cases flaw with
  | client carriedAgain enforced different =>
    rw [carriesClaims_unique carriedAgain carried] at different
    exact different (client _ enforced)

/-- A payload that the provider names in time is passed. -/
theorem verdict_passed (timely : (provider token).latency ≤ config.verifyTimeout)
    (answered : (provider token).answer = .ok vouched) (refusal : AuthError) :
    ¬ Flaw config provider now token .verdict refusal := by
  intro flaw
  cases flaw with
  | late slow => exact slow timely
  | verdict timelyAgain refused =>
    rw [answered] at refused
    cases refused

/-- The octets that were inspected are passed. -/
theorem comparison_passed (carried : CarriesOctets token bytes)
    (answered : (provider token).answer = .ok bytes) (refusal : AuthError) :
    ¬ Flaw config provider now token .comparison refusal := by
  intro flaw
  cases flaw with
  | comparison carriedAgain answeredAgain different =>
    rw [answered] at answeredAgain
    cases answeredAgain
    exact different (carriesOctets_unique carried carriedAgain)

/-- A check finds at most one flaw, and the error that it deserves is determined. -/
theorem flaw_unique {check : Check} {one other : AuthError}
    (flaw : Flaw config provider now token check one)
    (again : Flaw config provider now token check other) :
    one = other := by
  cases flaw with
  | form refused =>
    cases again with
    | form refusedAgain => exact Except.error.inj (refused.symm.trans refusedAgain)
  | unsigned parsed =>
    cases again with
    | unsigned => rfl
    | several parsedAgain => cases parsed.symm.trans parsedAgain
  | several parsed =>
    cases again with
    | unsigned parsedAgain => cases parsed.symm.trans parsedAgain
    | several => rfl
  | algorithm parsed =>
    cases again with
    | algorithm parsedAgain =>
      cases parsed.symm.trans parsedAgain
      rfl
  | undotted absent =>
    cases again with
    | undotted => rfl
    | encoding second =>
      obtain ⟨front, back, written, -⟩ := second
      simp [written] at absent
  | encoding second failed =>
    cases again with
    | undotted absent =>
      obtain ⟨front, back, written, -⟩ := second
      simp [written] at absent
    | encoding secondAgain failedAgain =>
      rw [isSecondSegment_unique secondAgain second] at failedAgain
      cases failed.symm.trans failedAgain
      rfl
  | claims carried failed =>
    cases again with
    | claims carriedAgain failedAgain =>
      rw [carriesOctets_unique carriedAgain carried] at failedAgain
      cases failed.symm.trans failedAgain
      rfl
  | issuer carried =>
    cases again with
    | issuer carriedAgain => rw [carriesClaims_unique carried carriedAgain]
  | expiry carried =>
    cases again with
    | expiry carriedAgain => rw [carriesClaims_unique carried carriedAgain]
  | client carried enforced =>
    cases again with
    | client carriedAgain enforcedAgain =>
      cases enforced.symm.trans enforcedAgain
      rw [carriesClaims_unique carried carriedAgain]
  | late slow =>
    cases again with
    | late => rfl
    | verdict timely => exact absurd timely slow
  | verdict timely answered =>
    cases again with
    | late slow => exact absurd timely slow
    | verdict timelyAgain answeredAgain =>
      cases answered.symm.trans answeredAgain
      rfl
  | comparison =>
    cases again with
    | comparison => rfl

/-- A token has at most one first flaw. -/
theorem firstFlaw_unique {check other : Check} {one another : AuthError}
    (first : FirstFlaw config provider now token check one)
    (again : FirstFlaw config provider now token other another) :
    one = another := by
  rcases Nat.lt_trichotomy check.place other.place with before | same | after
  · exact absurd first.flaw (again.clear check before one)
  · have whole := again.flaw
    rw [← Check.place_injective same] at whole
    exact flaw_unique first.flaw whole
  · exact absurd again.flaw (first.clear other after another)

end Flaws

section Order

variable {config : ValidatorConfig} {provider : Provider} {now : Instant} {token : String}
  {envelope : Envelope} {entry : SignatureEntry} {payload : TokenPayload} {bytes : Bytes}

theorem clearBefore_count (parsed : Envelope.parse token = .ok envelope) :
    ClearBefore config provider now token .count :=
  clearBefore_form.next (form_passed parsed) rfl

theorem clearBefore_algorithm (parsed : Envelope.parse token = .ok ⟨[entry]⟩) :
    ClearBefore config provider now token .algorithm :=
  (clearBefore_count parsed).next (count_passed parsed) rfl

theorem clearBefore_encoding (signature : SignedUnder config.algorithms token) :
    ClearBefore config provider now token .encoding := by
  obtain ⟨entry, parsed, named⟩ := signature
  exact (clearBefore_algorithm parsed).next (algorithm_passed parsed named) rfl

theorem clearBefore_claims (clear : ClearBefore config provider now token .encoding)
    (carried : CarriesOctets token bytes) :
    ClearBefore config provider now token .claims :=
  clear.next (encoding_passed carried) rfl

theorem clearBefore_issuer (clear : ClearBefore config provider now token .encoding)
    (claims : CarriesClaims token payload) :
    ClearBefore config provider now token .issuer := by
  obtain ⟨bytes, carried, read⟩ := claims
  exact (clearBefore_claims clear carried).next (claims_passed carried read) rfl

theorem clearBefore_expiry (clear : ClearBefore config provider now token .encoding)
    (claims : CarriesClaims token payload) (issuer : payload.issuer = config.issuer) :
    ClearBefore config provider now token .expiry :=
  (clearBefore_issuer clear claims).next (issuer_passed claims issuer) rfl

theorem clearBefore_client (clear : ClearBefore config provider now token .encoding)
    (claims : CarriesClaims token payload) (issuer : payload.issuer = config.issuer)
    (current : now.before payload.expires = true) :
    ClearBefore config provider now token .client :=
  (clearBefore_expiry clear claims issuer).next (expiry_passed claims current) rfl

/-- A locally sound token has no flaw before the provider is asked. -/
theorem clearBefore_verdict (sound : LocallySound config now token payload bytes) :
    ClearBefore config provider now token .verdict := by
  have claims : CarriesClaims token payload := ⟨bytes, sound.octets, sound.claims⟩
  have signed : ClearBefore config provider now token .encoding :=
    clearBefore_encoding sound.signature
  have current := clearBefore_client signed claims sound.issuer sound.current
  exact current.next (client_passed claims sound.client) rfl

/-- Claims that are refused have a first flaw, if nothing is wrong before them. -/
theorem firstFlaw_of_check {refusal : AuthError}
    (clear : ClearBefore config provider now token .encoding)
    (claims : CarriesClaims token payload)
    (unfit : config.policy.check payload now = .error refusal) :
    ∃ check, FirstFlaw config provider now token check refusal := by
  rcases check_eq_error_iff.mp unfit with ⟨different, rfl⟩ | ⟨issuer, expired, rfl⟩ |
    ⟨issuer, current, expected, enforced, different, rfl⟩
  · exact ⟨.issuer, .issuer claims different, clearBefore_issuer clear claims⟩
  · exact ⟨.expiry, .expiry claims expired, clearBefore_expiry clear claims issuer⟩
  · exact ⟨.client, .client claims enforced different,
      clearBefore_client clear claims issuer current⟩

/-- What inspection refuses is refused for its first flaw. -/
theorem firstFlaw_of_inspect {refusal : AuthError}
    (refused : config.inspect now token = .error refusal) :
    ∃ check, FirstFlaw config provider now token check refusal := by
  cases refusedAt_of_inspect refused with
  | form unparsed => exact ⟨.form, .form unparsed, clearBefore_form⟩
  | count parsed miscounted =>
    have clear : ClearBefore config provider now token .count := clearBefore_count parsed
    rcases singleSignature_eq_error_iff.mp miscounted with ⟨rfl, rfl⟩ | ⟨⟨_, _, _, rfl⟩, rfl⟩
    · exact ⟨.count, .unsigned parsed, clear⟩
    · exact ⟨.count, .several parsed, clear⟩
  | algorithm parsed unnamed =>
    obtain ⟨others, rfl⟩ := checkAlgorithm_eq_error_iff.mp unnamed
    exact ⟨.algorithm, .algorithm parsed others, clearBefore_algorithm parsed⟩
  | encoding signature undecoded =>
    have clear : ClearBefore config provider now token .encoding := clearBefore_encoding signature
    rcases decodePayload_eq_error_iff.mp undecoded with ⟨absent, rfl⟩ | ⟨_, _, second, failed, rfl⟩
    · exact ⟨.encoding, .undotted absent, clear⟩
    · exact ⟨.encoding, .encoding second failed, clear⟩
  | claims signature carried unread =>
    obtain ⟨fault, failed, rfl⟩ := ofBytes_eq_error_iff.mp unread
    exact ⟨.claims, .claims carried failed,
      clearBefore_claims (clearBefore_encoding signature) carried⟩
  | policy signature claims unfit =>
    exact firstFlaw_of_check (clearBefore_encoding signature) claims unfit

/-- What the verdict on a locally sound token refuses is refused for its first flaw. -/
theorem firstFlaw_of_conclude {refusal : AuthError}
    (sound : LocallySound config now token payload bytes)
    (refused : config.conclude payload bytes (provider token) = .error refusal) :
    ∃ check, FirstFlaw config provider now token check refusal := by
  have clear : ClearBefore config provider now token .verdict := clearBefore_verdict sound
  by_cases timely : (provider token).latency ≤ config.verifyTimeout
  · cases answered : (provider token).answer with
    | error cause =>
      have error : .signatureVerificationFailed cause = refusal := by
        simpa [ValidatorConfig.conclude, timely, answered] using refused
      exact ⟨.verdict, error ▸ .verdict timely answered, clear⟩
    | ok vouched =>
      by_cases same : vouched = bytes
      · simp [ValidatorConfig.conclude, timely, answered, same] at refused
      · have error : .internalPayloadMismatch = refusal := by
          simpa [ValidatorConfig.conclude, timely, answered, same] using refused
        exact ⟨.comparison, error ▸ .comparison sound.octets answered same,
          clear.next (verdict_passed timely answered) rfl⟩
  · have error : .verificationCancelled config.verifyTimeout = refusal := by
      simpa [ValidatorConfig.conclude, timely] using refused
    exact ⟨.verdict, error ▸ .late timely, clear⟩

/-- Whatever a token is refused for is its first flaw. -/
theorem firstFlaw_of_result {refusal : AuthError}
    (refused : (config.validateAt provider now token).result = .error refusal) :
    ∃ check, FirstFlaw config provider now token check refusal := by
  cases inspected : config.inspect now token with
  | error cause =>
    rw [validateAt_of_refused inspected] at refused
    cases refused
    exact firstFlaw_of_inspect inspected
  | ok found =>
    obtain ⟨payload, bytes⟩ := found
    have sound := inspect_eq_ok_iff.mp inspected
    rw [validateAt_of_sound sound] at refused
    exact firstFlaw_of_conclude sound refused

/-- An acceptable token has no flaw at all. -/
theorem Acceptable.flawless {check : Check} {refusal : AuthError}
    (acceptable : Acceptable config provider now token payload) :
    ¬ Flaw config provider now token check refusal := by
  obtain ⟨bytes, sound, timely, answered⟩ := acceptable
  have compared : ClearBefore config provider now token .comparison :=
    (clearBefore_verdict sound).next (verdict_passed timely answered) rfl
  by_cases last : check = .comparison
  · rw [last]
    exact comparison_passed sound.octets answered refusal
  · have before : check.place < Check.comparison.place := by
      cases check <;> first | decide | exact absurd rfl last
    exact compared check before refusal

end Order

/-- A token is accepted, with a payload, exactly if it is acceptable with that payload. It is
refused, for a reason, exactly if that is its first flaw. The provider is asked once if the token
is locally sound, and not at all if it is not. -/
theorem validateAt_exact (config : ValidatorConfig) (provider : Provider) (now : Instant)
    (token : String) :
    (∀ payload, (config.validateAt provider now token).result = .ok payload ↔
      Acceptable config provider now token payload) ∧
    (∀ refusal, (config.validateAt provider now token).result = .error refusal ↔
      ∃ check, FirstFlaw config provider now token check refusal) ∧
    ((config.validateAt provider now token).providerCalls = 1 ↔
      ∃ payload bytes, LocallySound config now token payload bytes) ∧
    ((config.validateAt provider now token).providerCalls = 0 ↔
      ¬ ∃ payload bytes, LocallySound config now token payload bytes) := by
  refine ⟨fun payload => result_eq_ok_iff, ?_, ?_⟩
  · intro refusal
    constructor
    · exact firstFlaw_of_result
    · rintro ⟨check, first⟩
      cases result : (config.validateAt provider now token).result with
      | ok payload =>
        have acceptable : Acceptable config provider now token payload :=
          result_eq_ok_iff.mp result
        exact absurd first.flaw acceptable.flawless
      | error actual =>
        obtain ⟨other, again⟩ := firstFlaw_of_result result
        rw [firstFlaw_unique again first]
  · by_cases sound : ∃ payload bytes, LocallySound config now token payload bytes
    · obtain ⟨payload, bytes, whole⟩ := sound
      have found : ∃ payload bytes, LocallySound config now token payload bytes :=
        ⟨payload, bytes, whole⟩
      simp [validateAt_of_sound whole, found]
    · rw [providerCalls_of_unsound sound]
      simp [sound]

end IssueTracker.Auth

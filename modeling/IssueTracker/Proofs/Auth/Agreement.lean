import IssueTracker.Proofs.Auth.Compact
import IssueTracker.Proofs.Auth.JoseHeader
import IssueTracker.Proofs.Auth.Provider

/-!
# Inspection and provider agree

Inspection and the provider read the same token each in their own way: the one accepts JSON forms,
headers written as arrays and headers that are not protected, the other knows more members and is
stricter about them. On the tokens that both let through they have read the same header, so the
algorithm that was accepted is the one that was checked, and the key that was named is the one
that was selected.
-/

namespace IssueTracker.Auth

open Json (memberOf)

/-- A compact token of three segments whose header both sides read alike, and whose signature the
provider found good for the algorithm and under the key named there. -/
structure Agreed (provider : OidcProvider) (token header payload signature : String)
    (entry : SignatureEntry) (jose : JoseHeader) (jwk : Jwk) : Prop where
  written : token = header ++ "." ++ payload ++ "." ++ signature
  whole : '.' ∉ header.toList ∧ '.' ∉ payload.toList ∧ '.' ∉ signature.toList
  compact : Envelope.isJsonForm token = false
  object : ∃ bytes members, Base64Url.decode header = .ok bytes ∧
    Json.read bytes = ⟨.object members true, true⟩
  inspected : Envelope.parse token = .ok ⟨[entry]⟩
  read : JoseHeader.ofSegment header = .ok jose
  algorithm : entry.alg = some jose.alg
  kid : entry.kid = jose.kid
  checked : jose.alg = OidcProvider.algorithm
  selected : provider.keys.select jose.kid = .ok jwk
  signed : ∃ key octets, jwk.material.publicKey = .ok key ∧ decodePart signature = .ok octets ∧
    Rsa.verifies key (Utf8.encode (header ++ "." ++ payload)) octets = true

section Headers

variable {members : List (Bytes × Json)} {closed : Bool} {entry : SignatureEntry}
  {jose : JoseHeader}

/-- Inspection reads algorithm and key name off the members of those names. -/
theorem ofJson_object (read : SignatureEntry.ofJson (.object members closed) = .ok entry) :
    optionalText members "alg" = .ok entry.alg ∧ optionalText members "kid" = .ok entry.kid := by
  have known : ∀ name ∈ ["alg", "kid"], Json.IsFieldName SignatureEntry.fields name := by
    simp [Json.IsFieldName, SignatureEntry.fields, Json.Field.of]
  simp only [SignatureEntry.ofJson, Json.asRecord, Except.bind_eq_ok,
    Json.asMembers_eq_ok_iff] at read
  obtain ⟨given, ⟨collected, -, -⟩, alg, algRead, kid, kidRead, returned⟩ := read
  cases returned
  rw [readOr_collected (known "alg" (by simp)) collected] at algRead
  rw [readOr_collected (known "kid" (by simp)) collected] at kidRead
  exact ⟨algRead, kidRead⟩

/-- A value that is read as a text and says a name is a string, and both are the same. -/
theorem text_eq_name {value : Json} {text : Option String} {name : String}
    (asText : Json.asOptional Json.asText value = .ok text) (names : Jwk.Names name value) :
    text = some name := by
  cases names with
  | string spelled =>
    have texts : some name = text := by
      simpa [Json.asOptional, Json.asText, spelled, Except.map] using asText
    exact texts.symm
  | object => simp [Json.asOptional, Json.asText, Except.map] at asText

/-- A header that both sides read says the same to both. -/
theorem header_agrees {header : String} (inspected : SignatureEntry.ofSegment header = .ok entry)
    (read : JoseHeader.ofSegment header = .ok jose) :
    (∃ bytes members, Base64Url.decode header = .ok bytes ∧
      Json.read bytes = ⟨.object members true, true⟩) ∧
    entry.alg = some jose.alg ∧ entry.kid = jose.kid := by
  obtain ⟨octets, decodedEntry, entryRead⟩ := SignatureEntry.ofSegment_eq_ok_iff.mp inspected
  obtain ⟨bytes, members, decoded, document, told⟩ := jose_ofSegment_iff.mp read
  rw [decoded, Except.ok.injEq] at decodedEntry
  rw [← decodedEntry, Json.decode_eq_ok_iff, document] at entryRead
  obtain ⟨alg, kid⟩ := ofJson_object entryRead.1
  obtain ⟨value, found, names⟩ := told.alg
  refine ⟨⟨bytes, members, decoded, document⟩, ?_, ?_⟩
  · simp only [optionalText, found] at alg
    exact text_eq_name alg names
  · exact Except.ok.inj (kid.symm.trans told.kid)

end Headers

section Judgement

variable {config : ValidatorConfig} {provider : OidcProvider} {now : Instant} {token : String}

/-- On an accepted token both sides agree. -/
theorem agreed_of_accepted {payload : TokenPayload}
    (accepted : (config.validateAt provider.toProvider now token).result = .ok payload) :
    ∃ header segment signature entry jose jwk,
      Agreed provider token header segment signature entry jose jwk := by
  obtain ⟨bytes, sound, -, vouched⟩ := result_eq_ok_iff.mp accepted
  obtain ⟨header, segment, signature, jose, jwk, verified⟩ := verify_eq_ok_iff.mp vouched
  obtain ⟨entry, parsed, -⟩ := sound.signature
  obtain ⟨-, whole, pieces⟩ := (Envelope.split_eq_iff _ _ _).mp verified.cut
  have written : token.toList =
      header.toList ++ '.' :: (segment.toList ++ '.' :: signature.toList) := by
    simpa using pieces
  have encoded : ∃ octets, Base64Url.decode header = .ok octets := by
    cases decoded : Base64Url.decode header with
    | ok octets => exact ⟨octets, rfl⟩
    | error fault =>
      have read := verified.read
      simp [JoseHeader.ofSegment, decoded] at read
  obtain ⟨octets, decoded⟩ := encoded
  have compact := isJsonForm_of_decode written decoded
  have entryRead : SignatureEntry.ofSegment header = .ok entry := by
    have asCompact := parsed
    rw [Envelope.parse, compact] at asCompact
    exact Envelope.ofCompact_entry verified.cut asCompact
  obtain ⟨object, algorithm, kid⟩ := header_agrees entryRead verified.read
  refine ⟨header, segment, signature, entry, jose, jwk, ?_⟩
  constructor
  case written => exact String.toList_inj.mp (by simpa using written)
  case whole => exact ⟨whole _ (by simp), whole _ (by simp), whole _ (by simp)⟩
  case compact => exact compact
  case object => exact object
  case inspected => exact parsed
  case read => exact verified.read
  case algorithm => exact algorithm
  case kid => exact kid
  case checked => exact verified.checked
  case selected => exact verified.selected
  case signed => exact verified.signed

/-- What the provider vouches for is what the second segment carries. -/
theorem carriesOctets_of_verify {bytes : Bytes} (vouched : provider.verify token = .ok bytes) :
    CarriesOctets token bytes := by
  obtain ⟨header, segment, signature, jose, jwk, verified⟩ := verify_eq_ok_iff.mp vouched
  exact ⟨segment, isSecondSegment_iff.mpr ⟨header, [signature], verified.cut⟩, verified.octets⟩

/-- About a locally sound token only the provider decides: it vouches for the octets that were
inspected, or for none. -/
theorem conclude_toProvider {payload : TokenPayload} {bytes : Bytes}
    (sound : LocallySound config now token payload bytes) :
    config.conclude payload bytes (provider.toProvider token) =
      match provider.verify token with
      | .ok _ => .ok payload
      | .error cause => .error (.signatureVerificationFailed cause) := by
  have timely : Duration.zero ≤ config.verifyTimeout := Nat.zero_le _
  cases answered : provider.verify token with
  | error cause => simp [ValidatorConfig.conclude, OidcProvider.toProvider, timely, answered]
  | ok vouched =>
    have same := carriesOctets_unique (carriesOctets_of_verify answered) sound.octets
    simp [ValidatorConfig.conclude, OidcProvider.toProvider, timely, answered, same]

/-- A refused token is refused by inspection, or the provider could not verify it and did not
object to the encoding of its payload. -/
theorem refusal_of_toProvider {refusal : AuthError}
    (refused : (config.validateAt provider.toProvider now token).result = .error refusal) :
    refusal.IsLocal ∨ ∃ cause, refusal = .signatureVerificationFailed cause ∧
      ∀ fault, cause ≠ .unsupportedToken (.payloadEncoding fault) := by
  cases inspected : config.inspect now token with
  | error early =>
    rw [validateAt_of_refused inspected] at refused
    cases refused
    exact .inl (inspect_refusal_local inspected)
  | ok found =>
    obtain ⟨payload, bytes⟩ := found
    have sound := inspect_eq_ok_iff.mp inspected
    rw [validateAt_of_sound sound, conclude_toProvider sound] at refused
    cases answered : provider.verify token with
    | ok vouched => simp [answered] at refused
    | error cause =>
      have same : .signatureVerificationFailed cause = refusal := by simpa [answered] using refused
      refine .inr ⟨cause, same.symm, ?_⟩
      rintro fault rfl
      obtain ⟨header, segment, signature, cut, failed⟩ := verify_payloadEncoding answered
      have second : IsSecondSegment token segment :=
        isSecondSegment_iff.mpr ⟨header, [signature], cut⟩
      obtain ⟨carried, again, decoded⟩ := sound.octets
      rw [isSecondSegment_unique again second, failed] at decoded
      cases decoded

/-- With a published key set as the provider, inspection and provider never disagree: no payload is
found to differ from the one inspected, no encoding is objected to that inspection let through,
and an accepted token is a compact one on whose header both agree. -/
theorem inspection_agrees_with_provider (config : ValidatorConfig) (provider : OidcProvider)
    (now : Instant) (token : String) :
    (config.validateAt provider.toProvider now token).result ≠ .error .internalPayloadMismatch ∧
    (∀ fault, (config.validateAt provider.toProvider now token).result ≠
      .error (.signatureVerificationFailed (.unsupportedToken (.payloadEncoding fault)))) ∧
    ∀ payload, (config.validateAt provider.toProvider now token).result = .ok payload →
      ∃ header segment signature entry jose jwk,
        Agreed provider token header segment signature entry jose jwk := by
  refine ⟨?_, ?_, fun payload => agreed_of_accepted⟩
  · intro refused
    rcases refusal_of_toProvider refused with early | ⟨cause, same, -⟩
    · exact early
    · cases same
  · intro fault refused
    rcases refusal_of_toProvider refused with early | ⟨cause, same, other⟩
    · exact early
    · cases same
      exact other fault rfl

end Judgement

section Accepted

/-- The octets of a header that names the algorithm that is checked, and a key. -/
def namingHeader : Bytes := Utf8.encode "\x7b\"alg\":\"RS256\",\"kid\":\"k\"\x7d"

/-- The octets of claims that are good for the first second of 1970. -/
def earlyClaims : Bytes := Utf8.encode "\x7b\"iss\":\"issuer\",\"exp\":1\x7d"

/-- What those octets say. -/
def earlyPayload : TokenPayload where
  subject := ""
  tokenUse := ""
  scope := ""
  authTime := none
  issuer := "issuer"
  expires := ⟨1, 0⟩
  issuedAt := none
  version := 0
  tokenId := ""
  clientId := ""

/-- The octets of a signature: of a number whose cube is 27 * 2 ^ 2043. -/
def cubeRoot : Bytes := List.replicate 170 0 ++ 0x06 :: List.replicate 85 0

/-- The octets of a modulus: of what remains of that cube when the padded digest of the encoded
header and claims is taken away, so that the signature is good for them. -/
def cubeLessDigest : Bytes :=
  [0xD7, 0xFE] ++ List.replicate 202 0 ++ [
    0xFF, 0xCF, 0xCE, 0xCF, 0xF2, 0xF9, 0xF6, 0x9F, 0x79, 0xB7, 0xFE, 0x9A, 0xFC, 0xFB, 0xFD, 0xFE,
    0xFA, 0xFF, 0xFB, 0xDF, 0x1E, 0xC3, 0x53, 0x49, 0x01, 0xF2, 0xBD, 0xA4, 0x41, 0xB5, 0x6B, 0x87,
    0xBE, 0x64, 0xE6, 0xE1, 0x5D, 0xEC, 0xC3, 0x80, 0xA0, 0xA4, 0x3D, 0xFA, 0x2A, 0x76, 0x7D, 0x90,
    0x15, 0x5F, 0x3A, 0x3F]

/-- The published key of that modulus, with three as its exponent. -/
def cubeKey : Jwk := ⟨some "k", .rsa (Base64Url.encode cubeLessDigest) (Base64Url.encode [0x03])⟩

/-- A provider that has published that key only. -/
def cubeProvider : OidcProvider := ⟨"issuer", ⟨[cubeKey]⟩⟩

/-- What a service requires that trusts that provider. -/
def cubeConfig : ValidatorConfig := ⟨"issuer", none, ["RS256"], Duration.ofSeconds 5⟩

/-- The token with that header, those claims and that signature. -/
def cubeToken : String := compact namingHeader earlyClaims cubeRoot

/-- The provider vouches for the claims of the token. -/
theorem cubeToken_verified : cubeProvider.verify cubeToken = .ok earlyClaims := by
  have named : Json.decode JoseHeader.ofJson namingHeader = .ok ⟨"RS256", some "k"⟩ := by
    decide +kernel
  have read : JoseHeader.ofSegment (Base64Url.encode namingHeader) = .ok ⟨"RS256", some "k"⟩ := by
    simp only [JoseHeader.ofSegment, Base64Url.decode_encode, named]
  have published : cubeKey.material.publicKey = .ok ⟨cubeLessDigest, [0x03]⟩ :=
    publicKey_encode cubeLessDigest [0x03]
  have good : Rsa.verifies ⟨cubeLessDigest, [0x03]⟩
      (Utf8.encode (Base64Url.encode namingHeader ++ "." ++ Base64Url.encode earlyClaims))
      cubeRoot = true := by
    decide +kernel
  refine verify_eq_ok_iff.mpr ⟨_, _, _, ⟨"RS256", some "k"⟩, cubeKey, segments_compact, read, rfl,
    ?_, ⟨_, cubeRoot, published, decodePart_encode cubeRoot, good⟩,
    Base64Url.decode_encode earlyClaims⟩
  simp [KeySet.select, cubeProvider, cubeKey]

/-- At the start of 1970 the token is accepted. -/
theorem cubeToken_accepted :
    (cubeConfig.validateAt cubeProvider.toProvider ⟨0, 0⟩ cubeToken).result =
      .ok earlyPayload := by
  have entry : Json.decode SignatureEntry.ofJson namingHeader =
      .ok ⟨some "RS256", some "k"⟩ := by
    decide +kernel
  have signed : cubeRoot ≠ [] := by decide +kernel
  have read : TokenPayload.ofBytes earlyClaims = .ok earlyPayload := by decide +kernel
  have sound : LocallySound cubeConfig ⟨0, 0⟩ cubeToken earlyPayload earlyClaims := by
    constructor
    case signature => exact ⟨_, parse_compact signed entry, "RS256", by simp [cubeConfig], rfl⟩
    case octets => exact carriesOctets_compact
    case claims => exact read
    case issuer => rfl
    case current => rfl
    case client => simp [cubeConfig]
  have answered : (cubeProvider.toProvider cubeToken).answer = .ok earlyClaims := by
    simp only [OidcProvider.toProvider, cubeToken_verified]
  exact result_eq_ok_iff.mpr ⟨earlyClaims, sound, Nat.zero_le _, answered⟩

/-- On that token inspection and provider agree. -/
theorem cubeToken_agreed :
    (cubeConfig.validateAt cubeProvider.toProvider ⟨0, 0⟩ cubeToken).result = .ok earlyPayload ∧
      ∃ header segment signature entry jose jwk,
        Agreed cubeProvider cubeToken header segment signature entry jose jwk :=
  ⟨cubeToken_accepted,
    (inspection_agrees_with_provider cubeConfig cubeProvider ⟨0, 0⟩ cubeToken).2.2 earlyPayload
      cubeToken_accepted⟩

end Accepted

end IssueTracker.Auth

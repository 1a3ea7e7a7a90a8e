import IssueTracker.Proofs.Auth.Agreement
import IssueTracker.Proofs.Crypto.Rsa

/-!
# The tokens that the provider vouches for

What the provider finds out about a token, said without its checks: the token is three segments, of
which the first holds a header for the algorithm that is checked, the second is the encoding of
the payload, and the third that of a signature of the other two, as they were transmitted, under
the key that the header calls for. The provider vouches for a payload exactly if that is so. Of all
the keys it has published, only the one that is called for has a part in its answer.
-/

namespace IssueTracker.Auth

/-- The key that a header calls for out of those published: by a name, the first one that has it;
without a name, the only one. -/
inductive Selects (keys : List Jwk) : Option String → Jwk → Prop
  | named (kid : String) (before after : List Jwk) {jwk : Jwk}
      (listed : keys = before ++ jwk :: after) (own : jwk.kid = some kid)
      (first : ∀ earlier ∈ before, earlier.kid ≠ some kid) : Selects keys (some kid) jwk
  | only {jwk : Jwk} (sole : keys = [jwk]) : Selects keys none jwk

/-- A token whose payload is vouched for by a signature under one of the published keys. -/
structure Vouched (keys : List Jwk) (token header payload signature : String)
    (jose : JoseHeader) (jwk : Jwk) (key : Rsa.PublicKey) (bytes : Bytes) : Prop where
  segments : HasSegments token header payload signature
  held : HoldsHeader header jose
  algorithm : jose.alg = "RS256"
  selected : Selects keys jose.kid jwk
  /-- The key is one for RSA that publishes the encodings of its numbers. -/
  published : jwk.material =
    .rsa (Base64Url.encode key.modulus) (Base64Url.encode key.exponent)
  signed : ∃ octets, Base64Url.decode signature = .ok octets ∧
    Rsa.Signs key (Utf8.encode (header ++ "." ++ payload)) octets
  carried : Base64Url.decode payload = .ok bytes

/-- A key is selected exactly if the header calls for it. -/
theorem select_eq_ok_iff {set : KeySet} {kid : Option String} {jwk : Jwk} :
    set.select kid = .ok jwk ↔ Selects set.keys kid jwk := by
  constructor
  · intro selected
    unfold KeySet.select at selected
    split at selected
    · cases selected
    · split at selected
      · next found =>
        cases selected
        obtain ⟨own, before, after, listed, first⟩ := List.find?_eq_some_iff_append.mp found
        exact .named _ before after listed (by simpa using own) (by simpa using first)
      · cases selected
    · next sole =>
      cases selected
      exact .only sole
    · cases selected
  · intro selects
    cases selects with
    | named kid before after listed own first =>
      have found : set.keys.find? (·.kid = some kid) = some jwk := by
        rw [List.find?_eq_some_iff_append]
        exact ⟨by simpa using own, before, after, listed, by simpa using first⟩
      cases published : set.keys with
      | nil => simp [published] at listed
      | cons head tail =>
        rw [published] at found
        simp only [KeySet.select, published, found]
    | only sole => simp [KeySet.select, sole]

/-- A part is decoded exactly if it is an encoding. -/
theorem decodePart_eq_ok_iff {part : String} {bytes : Bytes} :
    decodePart part = .ok bytes ↔ Base64Url.decode part = .ok bytes := by
  cases decoded : Base64Url.decode part <;> simp [decodePart, decoded]

/-- A public key is made exactly of material for RSA that encodes its numbers. -/
theorem publicKey_eq_ok_iff {material : KeyMaterial} {key : Rsa.PublicKey} :
    material.publicKey = .ok key ↔
      material = .rsa (Base64Url.encode key.modulus) (Base64Url.encode key.exponent) := by
  constructor
  · intro published
    cases material with
    | rsa modulus exponent =>
      simp only [KeyMaterial.publicKey, Except.bind_eq_ok, decodePart_eq_ok_iff,
        Base64Url.decode_ok_iff] at published
      obtain ⟨_, rfl, _, rfl, returned⟩ := published
      cases returned
      rfl
    | ellipticCurve x y =>
      simp only [KeyMaterial.publicKey, Except.bind_eq_ok] at published
      obtain ⟨_, _, _, _, thrown⟩ := published
      cases thrown
    | octets value | octetPair value =>
      simp only [KeyMaterial.publicKey, Except.bind_eq_ok] at published
      obtain ⟨_, _, thrown⟩ := published
      cases thrown
  · rintro rfl
    exact publicKey_encode key.modulus key.exponent

section Provider

variable {provider : OidcProvider} {token header payload signature : String} {jose : JoseHeader}
  {jwk : Jwk} {bytes : Bytes}

/-- What the provider finds out is that the token is vouched for. -/
theorem verified_iff_vouched :
    Verified provider token header payload signature jose jwk bytes ↔
      ∃ key, Vouched provider.keys.keys token header payload signature jose jwk key bytes := by
  constructor
  · rintro ⟨cut, read, checked, selected, ⟨key, octets, published, encoded, good⟩, decoded⟩
    exact ⟨key, {
      segments := Envelope.segments_eq_iff.mp cut
      held := jose_ofSegment_iff.mp read
      algorithm := checked
      selected := select_eq_ok_iff.mp selected
      published := publicKey_eq_ok_iff.mp published
      signed := ⟨octets, decodePart_eq_ok_iff.mp encoded, Rsa.verifies_iff.mp good⟩
      carried := decoded }⟩
  · rintro ⟨key, segments, held, algorithm, selected, published, ⟨octets, encoded, good⟩, carried⟩
    exact {
      cut := Envelope.segments_eq_iff.mpr segments
      read := jose_ofSegment_iff.mpr held
      checked := algorithm
      selected := select_eq_ok_iff.mpr selected
      signed := ⟨key, octets, publicKey_eq_ok_iff.mpr published,
        decodePart_eq_ok_iff.mpr encoded, Rsa.verifies_iff.mpr good⟩
      octets := carried }

/-- The answer depends on the published keys only through the one that the header calls for. -/
theorem verify_of_selects {other : OidcProvider}
    (segments : HasSegments token header payload signature) (held : HoldsHeader header jose)
    (selected : Selects provider.keys.keys jose.kid jwk)
    (alike : Selects other.keys.keys jose.kid jwk) :
    other.verify token = provider.verify token := by
  have cut := Envelope.segments_eq_iff.mpr segments
  have read := jose_ofSegment_iff.mpr held
  rw [← select_eq_ok_iff] at selected alike
  simp [OidcProvider.verify, cut, read, selected, alike, bind, Except.bind]

/-- The provider vouches for exactly the payloads that are vouched for by a good signature under
the key that the token calls for, and whatever it answers, a refusal included, it answers from
that key alone: with other keys published around it the answer is the same. -/
theorem verification_exact (provider : OidcProvider) (token : String) :
    (∀ bytes, provider.verify token = .ok bytes ↔
      ∃ header payload signature jose jwk key,
        Vouched provider.keys.keys token header payload signature jose jwk key bytes) ∧
    ∀ header payload signature jose jwk (other : OidcProvider),
      HasSegments token header payload signature → HoldsHeader header jose →
      Selects provider.keys.keys jose.kid jwk → Selects other.keys.keys jose.kid jwk →
        other.verify token = provider.verify token := by
  constructor
  · intro bytes
    simp only [verify_eq_ok_iff, verified_iff_vouched]
  · intro header payload signature jose jwk other segments held selected alike
    exact verify_of_selects segments held selected alike

end Provider

/-- A provider that has published other keys around that key, one of them under the same name. -/
def crowdedProvider : OidcProvider :=
  ⟨"issuer", ⟨[⟨none, .octets "AA"⟩, cubeKey, ⟨some "k", .ellipticCurve "AA" "AA"⟩]⟩⟩

/-- The provider with the other keys vouches for the claims of the token as the provider of the
single key does. -/
theorem cubeToken_vouched :
    (∃ header payload signature jose jwk key,
      Vouched cubeProvider.keys.keys cubeToken header payload signature jose jwk key earlyClaims) ∧
    crowdedProvider.verify cubeToken = .ok earlyClaims := by
  have named : Json.decode JoseHeader.ofJson namingHeader = .ok ⟨"RS256", some "k"⟩ := by
    decide +kernel
  have read : JoseHeader.ofSegment (Base64Url.encode namingHeader) = .ok ⟨"RS256", some "k"⟩ := by
    simp only [JoseHeader.ofSegment, Base64Url.decode_encode, named]
  have selected : Selects cubeProvider.keys.keys (some "k") cubeKey :=
    .named "k" [] [] rfl rfl (by simp)
  have alike : Selects crowdedProvider.keys.keys (some "k") cubeKey :=
    .named "k" [⟨none, .octets "AA"⟩] _ rfl rfl (by simp)
  obtain ⟨sound, alone⟩ := verification_exact cubeProvider cubeToken
  have same := alone _ _ _ _ _ crowdedProvider (Envelope.segments_eq_iff.mp segments_compact)
    (jose_ofSegment_iff.mp read) selected alike
  exact ⟨(sound earlyClaims).mp cubeToken_verified, same.trans cubeToken_verified⟩

end IssueTracker.Auth

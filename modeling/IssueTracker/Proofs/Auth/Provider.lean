import IssueTracker.Auth.Provider
import IssueTracker.Proofs.Except
import Mathlib.Logic.Basic

/-!
# What the provider vouches for

The checks of the provider in its own terms. It vouches for the octets of the second of exactly
three segments, if the header names the algorithm that is checked, and the signature is good under
the key that the header calls for. Only the second segment can have its encoding objected to.
-/

namespace IssueTracker.Auth

/-- What the provider finds out about a token whose payload it vouches for. -/
structure Verified (provider : OidcProvider) (token header payload signature : String)
    (jose : JoseHeader) (jwk : Jwk) (bytes : Bytes) : Prop where
  cut : Envelope.segments token = [header, payload, signature]
  read : JoseHeader.ofSegment header = .ok jose
  checked : jose.alg = OidcProvider.algorithm
  selected : provider.keys.select jose.kid = .ok jwk
  signed : ∃ key octets, jwk.material.publicKey = .ok key ∧ decodePart signature = .ok octets ∧
    Rsa.verifies key (Utf8.encode (header ++ "." ++ payload)) octets = true
  octets : Base64Url.decode payload = .ok bytes

/-- A refusal because something cannot be read. -/
def ProviderError.IsUnreadable (cause : ProviderError) : Prop :=
  ∃ part, cause = .unreadable part

variable {provider : OidcProvider} {token header : String} {bytes : Bytes}

/-- The provider vouches exactly for the payloads of tokens that it has verified. -/
theorem verify_eq_ok_iff :
    provider.verify token = .ok bytes ↔
      ∃ header payload signature jose jwk,
        Verified provider token header payload signature jose jwk bytes := by
  constructor
  · intro vouched
    unfold OidcProvider.verify at vouched
    split at vouched
    · next header payload signature cut =>
      simp only [Except.bind_eq_ok] at vouched
      obtain ⟨jose, read, vouched⟩ := vouched
      split at vouched
      · cases vouched
      next checked =>
      simp only [Except.bind_eq_ok] at vouched
      obtain ⟨jwk, selected, key, published, octets, encoded, vouched⟩ := vouched
      split at vouched
      · cases vouched
      next verifies =>
      have good : Rsa.verifies key (Utf8.encode (header ++ "." ++ payload)) octets = true := by
        simpa using verifies
      split at vouched
      · next found decoded =>
        cases vouched
        exact ⟨header, payload, signature, jose, jwk, cut, read, not_not.mp checked, selected,
          ⟨key, octets, published, encoded, good⟩, decoded⟩
      · cases vouched
    · cases vouched
  · rintro ⟨header, payload, signature, jose, jwk, verified⟩
    obtain ⟨cut, read, checked, selected, ⟨key, octets, published, encoded, good⟩, decoded⟩ :=
      verified
    simp [OidcProvider.verify, cut, read, checked, selected, published, encoded, good, decoded,
      bind, Except.bind, pure, Except.pure]

/-- A part that cannot be decoded cannot be read. -/
theorem decodePart_unreadable {part : String} {cause : ProviderError}
    (refused : decodePart part = .error cause) :
    cause.IsUnreadable := by
  unfold decodePart at refused
  split at refused
  · cases refused
  · cases refused
    exact ⟨_, rfl⟩

/-- A header that is refused cannot be read. -/
theorem ofSegment_unreadable {cause : ProviderError}
    (refused : JoseHeader.ofSegment header = .error cause) :
    cause.IsUnreadable := by
  unfold JoseHeader.ofSegment at refused
  split at refused
  · cases refused
    exact ⟨_, rfl⟩
  · split at refused
    · cases refused
      exact ⟨_, rfl⟩
    · cases refused

/-- Material that yields no public key cannot be read. -/
theorem publicKey_unreadable {material : KeyMaterial} {cause : ProviderError}
    (refused : material.publicKey = .error cause) :
    cause.IsUnreadable := by
  cases material with
  | rsa modulus exponent =>
    simp only [KeyMaterial.publicKey, Except.bind_eq_error] at refused
    rcases refused with first | ⟨_, _, second | ⟨_, _, returned⟩⟩
    · exact decodePart_unreadable first
    · exact decodePart_unreadable second
    · cases returned
  | ellipticCurve x y =>
    simp only [KeyMaterial.publicKey, Except.bind_eq_error] at refused
    rcases refused with first | ⟨_, _, second | ⟨_, _, thrown⟩⟩
    · exact decodePart_unreadable first
    · exact decodePart_unreadable second
    · cases thrown
      exact ⟨_, rfl⟩
  | octets value | octetPair value =>
    simp only [KeyMaterial.publicKey, Except.bind_eq_error] at refused
    rcases refused with first | ⟨_, _, thrown⟩
    · exact decodePart_unreadable first
    · cases thrown
      exact ⟨_, rfl⟩

/-- A key that cannot be selected is no objection to the token. -/
theorem select_ne_unsupported {keys : KeySet} {kid : Option String} {objection : Objection} :
    keys.select kid ≠ .error (.unsupportedToken objection) := by
  intro refused
  unfold KeySet.select at refused
  split at refused
  · cases refused
  · split at refused
    · cases refused
    · cases refused
  · cases refused
  · cases refused

/-- Only a second segment that cannot be decoded has its encoding objected to. -/
theorem verify_payloadEncoding {fault : Base64Url.Fault}
    (refused : provider.verify token = .error (.unsupportedToken (.payloadEncoding fault))) :
    ∃ header payload signature,
      Envelope.segments token = [header, payload, signature] ∧
        Base64Url.decode payload = .error fault := by
  have readable : ¬ (ProviderError.unsupportedToken (.payloadEncoding fault)).IsUnreadable := by
    rintro ⟨part, same⟩
    cases same
  unfold OidcProvider.verify at refused
  split at refused
  · next header payload signature cut =>
    refine ⟨header, payload, signature, cut, ?_⟩
    simp only [Except.bind_eq_error] at refused
    rcases refused with unread | ⟨jose, _, refused⟩
    · exact absurd (ofSegment_unreadable unread) readable
    split at refused
    · cases refused
    simp only [Except.bind_eq_error] at refused
    rcases refused with unselected | ⟨jwk, _, unpublished | ⟨key, _, unsigned | ⟨_, _, refused⟩⟩⟩
    · exact absurd unselected select_ne_unsupported
    · exact absurd (publicKey_unreadable unpublished) readable
    · exact absurd (decodePart_unreadable unsigned) readable
    split at refused
    · cases refused
    split at refused
    · cases refused
    · next other failed =>
      cases refused
      exact failed
  · cases refused

end IssueTracker.Auth

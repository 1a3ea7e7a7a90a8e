import IssueTracker.Proofs.Auth.Inspection
import IssueTracker.Proofs.Bytes.Base64Url

/-!
# Compact tokens

A compact token is made of three sequences of octets, each in the encoding, with dots between
them. Its segments are those three again, it is in no JSON form, its only entry is the one that
its header says, and what it carries is the second sequence.
-/

namespace IssueTracker.Auth

/-- The compact token of a header, a payload and a signature. -/
def compact (header payload signature : Bytes) : String :=
  Base64Url.encode header ++ "." ++ Base64Url.encode payload ++ "." ++ Base64Url.encode signature

/-- There is no dot in an encoded segment. -/
theorem encode_undotted (bytes : Bytes) : '.' ∉ (Base64Url.encode bytes).toList := fun member =>
  Base64Url.of_mem_encode (· ≠ '.') (by decide) member rfl

/-- A token whose first segment is in the encoding is not in a JSON form. -/
theorem isJsonForm_of_decode {token header : String} {bytes : Bytes} {rest : List Char}
    (written : token.toList = header.toList ++ '.' :: rest)
    (decoded : Base64Url.decode header = .ok bytes) :
    Envelope.isJsonForm token = false := by
  rw [Base64Url.decode_ok_iff] at decoded
  cases first : header.toList with
  | nil =>
    have dot : Blank.isBlank '.' = false := by decide
    simp [Envelope.isJsonForm, Blank.trimStart, written, first, dot]
  | cons c others =>
    have member : c ∈ (Base64Url.encode bytes).toList := by
      rw [← decoded, first]
      simp
    have visible := Base64Url.of_mem_encode (Blank.isBlank · = false) (by decide) member
    have different := Base64Url.of_mem_encode (· ≠ '\x7b') (by decide) member
    simp [Envelope.isJsonForm, Blank.trimStart, written, first, visible, different]

/-- The only entry of a token of three segments with a signature is the one that its first segment
says. -/
theorem parse_of_segments {token header payload signature : String} {entry : SignatureEntry}
    (segments : HasSegments token header payload signature) (signed : signature ≠ "")
    (read : SignatureEntry.ofSegment header = .ok entry) :
    Envelope.parse token = .ok ⟨[entry]⟩ := by
  obtain ⟨bytes, decoded, -⟩ := SignatureEntry.ofSegment_eq_ok_iff.mp read
  have written : token.toList =
      header.toList ++ '.' :: (payload.toList ++ '.' :: signature.toList) := by
    simp [segments.written]
  have form : Envelope.isJsonForm token = false := isJsonForm_of_decode written decoded
  have cut := Envelope.segments_eq_iff.mpr segments
  simp [Envelope.parse, form, Envelope.ofCompact, cut, signed, read, Except.map]

section Parts

variable {header payload signature : Bytes}

/-- The segments of a compact token are its three parts. -/
theorem segments_compact :
    Envelope.segments (compact header payload signature) =
      [Base64Url.encode header, Base64Url.encode payload, Base64Url.encode signature] := by
  rw [Envelope.segments, Envelope.split_eq_iff]
  simp [encode_undotted, compact]

/-- The only entry of a compact token with a signature is the one that its header says. -/
theorem parse_compact {entry : SignatureEntry} (signed : signature ≠ [])
    (read : Json.decode SignatureEntry.ofJson header = .ok entry) :
    Envelope.parse (compact header payload signature) = .ok ⟨[entry]⟩ := by
  have first : SignatureEntry.ofSegment (Base64Url.encode header) = .ok entry :=
    SignatureEntry.ofSegment_eq_ok_iff.mpr ⟨header, Base64Url.decode_encode header, read⟩
  exact parse_of_segments (Envelope.segments_eq_iff.mp segments_compact)
    (Base64Url.encode_ne_empty signed) first

/-- What a compact token carries is its second part. -/
theorem carriesOctets_compact : CarriesOctets (compact header payload signature) payload :=
  ⟨Base64Url.encode payload, isSecondSegment_iff.mpr ⟨_, _, segments_compact⟩,
    Base64Url.decode_encode payload⟩

/-- A part in the encoding is read as what it is the encoding of. -/
theorem decodePart_encode (bytes : Bytes) : decodePart (Base64Url.encode bytes) = .ok bytes := by
  rw [decodePart, Base64Url.decode_encode]

/-- Published numbers of an RSA key make its public key. -/
theorem publicKey_encode (modulus exponent : Bytes) :
    (KeyMaterial.rsa (Base64Url.encode modulus) (Base64Url.encode exponent)).publicKey =
      .ok ⟨modulus, exponent⟩ := by
  simp [KeyMaterial.publicKey, decodePart_encode, bind, Except.bind, pure, Except.pure]

end Parts

end IssueTracker.Auth

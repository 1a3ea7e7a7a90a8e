import IssueTracker.Proofs.Auth.Compact
import IssueTracker.Proofs.Bytes.WrittenForm

/-!
# Payload segments are canonical

The octets that a token carries can be written into it in one way only. Whatever stands in front of
the first dot and behind the second, they are carried exactly if their written form stands between
the two. So nobody can rewrite the payload segment of a token in such a way that the same octets are
read: neither padding nor symbols of another alphabet nor other bits behind the last octet will do.
-/

namespace IssueTracker.Auth

variable {token segment : String} {bytes : Bytes}

/-- The second segment of a token, with the texts on both sides of it. -/
theorem isSecondSegment_iff_written :
    IsSecondSegment token segment ↔
      '.' ∉ segment.toList ∧ ∃ header rest : String, '.' ∉ header.toList ∧
        (rest = "" ∨ ∃ more, rest = "." ++ more) ∧ token = header ++ "." ++ segment ++ rest := by
  constructor
  · rintro ⟨front, back, written, frontWhole, whole, behind⟩
    refine ⟨whole, String.ofList front, String.ofList back, by simpa using frontWhole, ?_, ?_⟩
    · rcases behind with rfl | ⟨more, rfl⟩
      · exact .inl rfl
      · exact .inr ⟨String.ofList more, by simp⟩
    · simp [← String.toList_inj, written]
  · rintro ⟨whole, header, rest, headerWhole, behind, rfl⟩
    refine ⟨header.toList, rest.toList, by simp, headerWhole, whole, ?_⟩
    rcases behind with rfl | ⟨more, rfl⟩
    · exact .inl rfl
    · exact .inr ⟨more.toList, by simp⟩

/-- A token carries octets exactly if its second segment is their encoding. -/
theorem carriesOctets_iff :
    CarriesOctets token bytes ↔ IsSecondSegment token (Base64Url.encode bytes) := by
  constructor
  · rintro ⟨segment, second, decoded⟩
    rw [Base64Url.decode_ok_iff] at decoded
    exact decoded ▸ second
  · intro second
    exact ⟨_, second, Base64Url.decode_encode bytes⟩

/-- Payload segments are canonical. Octets are decoded from a token exactly if their encoding stands
in it between the first dot and the next one or the end, whatever stands around it; that is the text
whose symbols have the bits of the octets and fewer than six zeros behind them, which there is only
one of. So tokens from which the same octets are decoded have the same second segment. -/
theorem payload_canonical (token : String) (bytes : Bytes) :
    (Envelope.decodePayload token = .ok bytes ↔
      ∃ header rest : String, '.' ∉ header.toList ∧ (rest = "" ∨ ∃ more, rest = "." ++ more) ∧
        token = header ++ "." ++ Base64Url.encode bytes ++ rest) ∧
    (∀ segment, IsSecondSegment token segment →
      (Envelope.decodePayload token = .ok bytes ↔ segment = Base64Url.encode bytes)) ∧
    (∀ segment, Base64Url.IsWrittenForm bytes segment ↔ segment = Base64Url.encode bytes) ∧
    ∀ other segment another, Envelope.decodePayload token = .ok bytes →
      Envelope.decodePayload other = .ok bytes → IsSecondSegment token segment →
        IsSecondSegment other another → segment = another := by
  have exactly (token : String) : Envelope.decodePayload token = .ok bytes ↔
      IsSecondSegment token (Base64Url.encode bytes) :=
    decodePayload_eq_ok_iff.trans carriesOctets_iff
  refine ⟨?_, ?_, fun _ => Base64Url.isWrittenForm_iff, ?_⟩
  · rw [exactly, isSecondSegment_iff_written]
    exact and_iff_right (encode_undotted bytes)
  · intro segment second
    rw [exactly]
    constructor
    · exact isSecondSegment_unique second
    · rintro rfl
      exact second
  · intro other segment another read alsoRead second alsoSecond
    rw [exactly] at read alsoRead
    exact (isSecondSegment_unique second read).trans
      (isSecondSegment_unique alsoRead alsoSecond)

/-- An octet of ones is written with four zeros behind it, in whatever token it is. With padding it
is not read, and neither is it with ones for the zeros. -/
theorem ones_canonical :
    Envelope.decodePayload "a._w" = .ok [0xFF] ∧ Envelope.decodePayload "._w..x" = .ok [0xFF] ∧
      (∀ segment another, IsSecondSegment "a._w" segment → IsSecondSegment "._w..x" another →
        segment = another) ∧
      Envelope.decodePayload "a._w==" ≠ .ok [0xFF] ∧ Envelope.decodePayload "a._x" ≠ .ok [0xFF] ∧
        Envelope.decodePayload "a./w" ≠ .ok [0xFF] := by
  have written : Base64Url.encode [0xFF] = "_w" := by decide
  have second (segment : String) (whole : '.' ∉ segment.toList) :
      IsSecondSegment ("a." ++ segment) segment := by
    refine isSecondSegment_iff_written.mpr ⟨whole, "a", "", by decide, .inl rfl, ?_⟩
    simp
  have refused (segment : String) (whole : '.' ∉ segment.toList) (other : segment ≠ "_w") :
      Envelope.decodePayload ("a." ++ segment) ≠ .ok [0xFF] := by
    intro read
    have same := ((payload_canonical _ [0xFF]).2.1 segment (second segment whole)).mp read
    exact other (same.trans written)
  have first : Envelope.decodePayload "a._w" = .ok [0xFF] :=
    (payload_canonical "a._w" [0xFF]).1.mpr ⟨"a", "", by decide, .inl rfl, by decide⟩
  have other : Envelope.decodePayload "._w..x" = .ok [0xFF] :=
    (payload_canonical "._w..x" [0xFF]).1.mpr
      ⟨"", "..x", by decide, .inr ⟨".x", by decide⟩, by decide⟩
  exact ⟨first, other, fun segment another =>
      (payload_canonical "a._w" [0xFF]).2.2.2 "._w..x" segment another first other,
    refused "_w==" (by decide) (by decide), refused "_x" (by decide) (by decide),
    refused "/w" (by decide) (by decide)⟩

end IssueTracker.Auth

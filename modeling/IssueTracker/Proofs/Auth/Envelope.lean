import IssueTracker.Proofs.Except
import IssueTracker.Proofs.Json.Members
import IssueTracker.Proofs.Text.Split
import IssueTracker.Auth.Envelope

/-!
# What parsing an envelope says

Whatever is wrong with an envelope makes the token malformed. A compact envelope with a signature
has exactly one entry, and that is what its first segment says.
-/

namespace IssueTracker.Auth

/-- A refusal for the form of a token. -/
def AuthError.IsMalformed (refusal : AuthError) : Prop :=
  ∃ malformation, refusal = .malformedToken malformation

namespace SignatureEntry

/-- A header segment that cannot be read is malformed. -/
theorem ofSegment_malformed {segment : String} {refusal : AuthError}
    (refused : ofSegment segment = .error refusal) :
    refusal.IsMalformed := by
  unfold ofSegment at refused
  split at refused
  · cases refused
    exact ⟨_, rfl⟩
  · split at refused
    · cases refused
      exact ⟨_, rfl⟩
    · cases refused

/-- A header segment says what the JSON text says that it encodes. -/
theorem ofSegment_eq_ok_iff {segment : String} {entry : SignatureEntry} :
    ofSegment segment = .ok entry ↔
      ∃ bytes, Base64Url.decode segment = .ok bytes ∧ Json.decode ofJson bytes = .ok entry := by
  cases decoded : Base64Url.decode segment with
  | error fault => simp [ofSegment, decoded]
  | ok bytes =>
    cases read : Json.decode ofJson bytes with
    | error fault => simp [ofSegment, decoded, read]
    | ok found => simp [ofSegment, decoded, read]

/-- A signature of a JSON form whose protected header cannot be read is malformed. -/
theorem ofParts_malformed {protectedHeader : Option String} {header : Option SignatureEntry}
    {refusal : AuthError} (refused : ofParts protectedHeader header = .error refusal) :
    refusal.IsMalformed := by
  cases protectedHeader with
  | none => simp [ofParts, Except.bind_eq_error, pure, Except.pure] at refused
  | some segment =>
    simp only [ofParts, Except.bind_eq_error] at refused
    rcases refused with refused | ⟨_, _, returned⟩
    · exact ofSegment_malformed refused
    · cases returned

end SignatureEntry

/-- A JSON form whose signatures cannot be read is malformed. -/
theorem JsonEnvelope.entries_malformed {envelope : JsonEnvelope} {refusal : AuthError}
    (refused : envelope.entries = .error refusal) :
    refusal.IsMalformed := by
  unfold entries at refused
  split at refused
  · cases refused
    exact ⟨_, rfl⟩
  · exact Except.mapM_fails (fun _ _ => SignatureEntry.ofParts_malformed) refused
  · rw [Except.bind_eq_error] at refused
    rcases refused with refused | ⟨_, _, returned⟩
    · exact SignatureEntry.ofParts_malformed refused
    · cases returned
  · cases refused

/-- A token written as three segments with dots between them. -/
structure HasSegments (token header payload signature : String) : Prop where
  written : token = header ++ "." ++ payload ++ "." ++ signature
  header : '.' ∉ header.toList
  payload : '.' ∉ payload.toList
  signature : '.' ∉ signature.toList

namespace Envelope

variable {token : String}

/-- Cutting a token at its dots gives three segments exactly if it is written so. -/
theorem segments_eq_iff {header payload signature : String} :
    segments token = [header, payload, signature] ↔
      HasSegments token header payload signature := by
  have joined : token.toList = ['.'].intercalate ([header, payload, signature].map String.toList) ↔
      token = header ++ "." ++ payload ++ "." ++ signature := by
    rw [← String.toList_inj]
    simp
  rw [segments, split_eq_iff, joined]
  constructor
  · rintro ⟨-, whole, written⟩
    exact ⟨written, whole _ (by simp), whole _ (by simp), whole _ (by simp)⟩
  · rintro ⟨written, header, payload, signature⟩
    exact ⟨by simp, by simp [header, payload, signature], written⟩

/-- A compact form that cannot be parsed is malformed. -/
theorem ofCompact_malformed {refusal : AuthError} (refused : ofCompact token = .error refusal) :
    refusal.IsMalformed := by
  unfold ofCompact at refused
  split at refused
  · next header _ signature _ =>
    split at refused
    · cases refused
    · cases read : SignatureEntry.ofSegment header with
      | ok entry => simp [read, Except.map] at refused
      | error cause =>
        have same : cause = refusal := by simpa [read, Except.map] using refused
        exact same ▸ SignatureEntry.ofSegment_malformed read
  · cases refused
    exact ⟨_, rfl⟩

/-- A JSON form that cannot be parsed is malformed. -/
theorem ofJsonForm_malformed {refusal : AuthError} (refused : ofJsonForm token = .error refusal) :
    refusal.IsMalformed := by
  unfold ofJsonForm at refused
  split at refused
  · cases refused
    exact ⟨_, rfl⟩
  · next envelope _ =>
    cases listed : envelope.entries with
    | ok entries => simp [listed, Except.map] at refused
    | error cause =>
      have same : cause = refusal := by simpa [listed, Except.map] using refused
      exact same ▸ JsonEnvelope.entries_malformed listed

/-- A token that cannot be parsed is malformed. -/
theorem parse_malformed {refusal : AuthError} (refused : parse token = .error refusal) :
    refusal.IsMalformed := by
  unfold parse at refused
  split at refused
  · exact ofJsonForm_malformed refused
  · exact ofCompact_malformed refused

/-- The only entry of a compact envelope is what its header segment says. -/
theorem ofCompact_entry {header payload signature : String} {entry : SignatureEntry}
    (cut : segments token = [header, payload, signature])
    (parsed : ofCompact token = .ok ⟨[entry]⟩) :
    SignatureEntry.ofSegment header = .ok entry := by
  simp only [ofCompact, cut] at parsed
  split at parsed
  · cases parsed
  · cases read : SignatureEntry.ofSegment header with
    | error refusal => simp [read, Except.map] at parsed
    | ok found =>
      have same : found = entry := by simpa [read, Except.map] using parsed
      rw [same]

end Envelope

end IssueTracker.Auth

import IssueTracker.Proofs.Auth.Compact
import IssueTracker.Proofs.Json.Ending
import IssueTracker.Proofs.Text.Utf8

/-!
# Tokens in a JSON form

The service means to refuse every token in a JSON form before the provider is asked. Inspection
reads such a token as JSON to find its signatures, but takes the payload from between the first
two dots of its text. So the refusal depends on where dots stand in the strings of the token: it
passes exactly if claims that would be accepted are encoded there. With fewer than two dots it
never does, since the text of a container does not end like an encoded segment.
-/

namespace IssueTracker.Auth

/-- A JSON form that declares one signature under an accepted algorithm, and whose text has
acceptable claims encoded between its first two dots, whatever members it has. -/
structure HidesClaims (config : ValidatorConfig) (now : Instant) (token : String)
    (payload : TokenPayload) (bytes : Bytes) : Prop where
  form : ∃ envelope entry,
    Json.decode JsonEnvelope.ofJson (Utf8.encode token) = .ok envelope ∧
      envelope.entries = .ok [entry] ∧ ∃ name ∈ config.algorithms, entry.alg = some name
  text : ∃ front back,
    token.toList = front ++ '.' :: ((Base64Url.encode bytes).toList ++ '.' :: back) ∧ '.' ∉ front
  claims : Json.decode TokenPayload.ofJson bytes = .ok payload
  issuer : payload.issuer = config.issuer
  current : now.before payload.expires = true
  client : ∀ expected, config.clientId = some expected → payload.clientId = expected

section Ending

/-- Only containers are read as a record. -/
theorem container_of_asRecord {fields : List Json.Field} {json : Json} {given : Json.Given}
    (read : Json.asRecord fields json = .ok given) :
    json.IsContainer := by
  cases json with
  | array items closed => exact .inl ⟨items, closed, rfl⟩
  | object members closed => exact .inr ⟨members, closed, rfl⟩
  | null | bool | number | string | broken => cases read

/-- The text of a JSON form ends with a closing octet. -/
theorem endsClosed_of_jsonForm {text : Bytes} {envelope : JsonEnvelope}
    (decoded : Json.decode JsonEnvelope.ofJson text = .ok envelope) :
    Json.EndsClosed text := by
  obtain ⟨read, complete⟩ := Json.decode_eq_ok_iff.mp decoded
  simp only [JsonEnvelope.ofJson, Except.bind_eq_ok] at read
  obtain ⟨given, record, -⟩ := read
  exact Json.endsClosed_of_read (container_of_asRecord record) (by rw [← complete])

/-- The last octet of a text that ends with a closing octet is that or white space. -/
theorem last_of_endsClosed {text : Bytes} (ends : Json.EndsClosed text) :
    ∃ last, text.getLast? = some last ∧ (Json.isCloser last = true ∨ Json.isSpace last = true) := by
  obtain ⟨front, closer, spaces, rfl, closing, blank⟩ := ends
  have nonempty : closer :: spaces ≠ [] := by simp
  refine ⟨(closer :: spaces).getLast nonempty, ?_, ?_⟩
  · rw [List.getLast?_append_of_ne_nil _ nonempty, List.getLast?_eq_some_getLast nonempty]
  · rcases List.mem_cons.mp (List.getLast_mem nonempty) with same | member
    · exact .inl (by rw [same, closing])
    · exact .inr (blank _ member)

/-- An ASCII character that closes no container and is no white space. -/
def EndsNothing (c : Char) : Prop :=
  c.toNat < 0x80 ∧ Json.isCloser (Bytes.ofAscii c) = false ∧ Json.isSpace (Bytes.ofAscii c) = false

instance (c : Char) : Decidable (EndsNothing c) := inferInstanceAs (Decidable (_ ∧ _))

/-- A dot ends no JSON text, and neither does a symbol of an encoded segment. -/
theorem open_of_encoded {bytes : Bytes} {c : Char}
    (member : c ∈ '.' :: (Base64Url.encode bytes).toList) :
    EndsNothing c := by
  rcases List.mem_cons.mp member with rfl | inside
  · decide
  · exact Base64Url.of_mem_encode EndsNothing (by decide) inside

/-- A text with an encoded segment behind a dot at its end does not end with a closing octet. -/
theorem not_endsClosed {token : String} {front : List Char} {bytes : Bytes}
    (written : token.toList = front ++ '.' :: (Base64Url.encode bytes).toList) :
    ¬ Json.EndsClosed (Utf8.encode token) := by
  intro ends
  obtain ⟨last, found, closing⟩ := last_of_endsClosed ends
  have nonempty : '.' :: (Base64Url.encode bytes).toList ≠ [] := by simp
  have ascii : ('.' :: (Base64Url.encode bytes).toList).flatMap String.utf8EncodeChar =
      ('.' :: (Base64Url.encode bytes).toList).map Bytes.ofAscii := by
    rw [List.map_eq_flatMap]
    exact List.flatMap_congr fun c member => Utf8.encodeChar_ascii (open_of_encoded member).1
  rw [Utf8.encode, written, List.flatMap_append, ascii,
    List.getLast?_append_of_ne_nil _ (by simp), List.getLast?_map,
    List.getLast?_eq_some_getLast nonempty, Option.map_some, Option.some.injEq] at found
  obtain ⟨-, closer, space⟩ := open_of_encoded (List.getLast_mem nonempty)
  rw [← found, closer, space] at closing
  simp at closing

end Ending

section Form

variable {config : ValidatorConfig} {now : Instant} {token : String} {payload : TokenPayload}
  {bytes : Bytes}

/-- The envelope of a JSON form has the entries that its JSON text declares. -/
theorem parse_jsonForm_iff (json : Envelope.isJsonForm token = true) {entry : SignatureEntry} :
    Envelope.parse token = .ok ⟨[entry]⟩ ↔
      ∃ envelope, Json.decode JsonEnvelope.ofJson (Utf8.encode token) = .ok envelope ∧
        envelope.entries = .ok [entry] := by
  cases decoded : Json.decode JsonEnvelope.ofJson (Utf8.encode token) with
  | error fault => simp [Envelope.parse, json, Envelope.ofJsonForm, decoded]
  | ok envelope =>
    cases listed : envelope.entries with
    | error refusal => simp [Envelope.parse, json, Envelope.ofJsonForm, decoded, listed, Except.map]
    | ok entries => simp [Envelope.parse, json, Envelope.ofJsonForm, decoded, listed, Except.map]

/-- A token in a JSON form is locally sound exactly if it hides acceptable claims. -/
theorem locallySound_iff_hidesClaims (json : Envelope.isJsonForm token = true) :
    LocallySound config now token payload bytes ↔ HidesClaims config now token payload bytes := by
  constructor
  · rintro ⟨⟨entry, parsed, named⟩, ⟨segment, second, decoded⟩, claims, issuer, current, client⟩
    obtain ⟨envelope, read, listed⟩ := (parse_jsonForm_iff json).mp parsed
    obtain ⟨front, back, written, absent, -, behind⟩ := second
    rw [Base64Url.decode_ok_iff] at decoded
    refine ⟨⟨envelope, entry, read, listed, named⟩, ?_, ofBytes_eq_ok_iff.mp claims, issuer,
      current, client⟩
    rcases behind with rfl | ⟨rest, rfl⟩
    · -- The text would end with the segment, but it ends with a brace.
      rw [decoded, List.append_nil] at written
      exact absurd (endsClosed_of_jsonForm read) (not_endsClosed written)
    · exact ⟨front, rest, by rw [written, decoded], absent⟩
  · rintro ⟨⟨envelope, entry, read, listed, named⟩, ⟨front, back, written, absent⟩, claims, issuer,
      current, client⟩
    have parsed := (parse_jsonForm_iff json).mpr ⟨envelope, read, listed⟩
    have carried : CarriesOctets token bytes :=
      ⟨Base64Url.encode bytes, ⟨front, '.' :: back, written, absent, encode_undotted bytes,
          .inr ⟨back, rfl⟩⟩, Base64Url.decode_encode bytes⟩
    exact ⟨⟨entry, parsed, named⟩, carried, ofBytes_eq_ok_iff.mpr claims, issuer, current, client⟩

end Form

/-- A token in a JSON form is refused locally, without asking the provider, unless it hides
acceptable claims between its first two dots; then the provider is asked. -/
theorem jsonForm_refused_iff (config : ValidatorConfig) (provider : Provider) (now : Instant)
    (token : String) (json : Envelope.isJsonForm token = true) :
    (((∃ refusal, (config.validateAt provider now token).result = .error refusal ∧
        refusal.IsLocal) ∧ (config.validateAt provider now token).providerCalls = 0) ↔
      ¬ ∃ payload bytes, HidesClaims config now token payload bytes) ∧
    ((config.validateAt provider now token).providerCalls = 1 ↔
      ∃ payload bytes, HidesClaims config now token payload bytes) := by
  cases inspected : config.inspect now token with
  | error refusal =>
    have none : ¬ ∃ payload bytes, HidesClaims config now token payload bytes := by
      rintro ⟨payload, bytes, hidden⟩
      rw [← locallySound_iff_hidesClaims json, ← inspect_eq_ok_iff, inspected] at hidden
      cases hidden
    have early := inspect_refusal_local inspected
    simp [validateAt_of_refused inspected, none, early]
  | ok found =>
    obtain ⟨payload, bytes⟩ := found
    have sound := inspect_eq_ok_iff.mp inspected
    have hidden : ∃ payload bytes, HidesClaims config now token payload bytes :=
      ⟨payload, bytes, (locallySound_iff_hidesClaims json).mp sound⟩
    simp [validateAt_of_sound sound, hidden]

/-- What a service requires of tokens that are issued to any client. -/
def anyClient : ValidatorConfig := ⟨"i", none, ["RS256"], Duration.ofSeconds 5⟩

/-- A provider that has published no keys. -/
def keyless : Provider := OidcProvider.toProvider ⟨"i", ⟨[]⟩⟩

/-- A token in the flattened form, with no dot in it. -/
def flattenedToken : String :=
  "\x7b\"protected\":\"eyJhbGciOiJSUzI1NiJ9\",\"payload\":\"e30\",\"signature\":\"c2ln\"\x7d"

/-- The flattened token is refused before the provider is asked. -/
theorem flattenedToken_refused :
    Envelope.isJsonForm flattenedToken = true ∧
      (∃ refusal, (anyClient.validateAt keyless ⟨0, 0⟩ flattenedToken).result = .error refusal ∧
        refusal.IsLocal) ∧
      (anyClient.validateAt keyless ⟨0, 0⟩ flattenedToken).providerCalls = 0 := by
  have json : Envelope.isJsonForm flattenedToken = true := by decide +kernel
  have undotted : '.' ∉ flattenedToken.toList := by decide +kernel
  have nothing : ¬ ∃ payload bytes, HidesClaims anyClient ⟨0, 0⟩ flattenedToken payload bytes := by
    rintro ⟨payload, bytes, hidden⟩
    obtain ⟨front, back, written, -⟩ := hidden.text
    simp [written] at undotted
  exact ⟨json, (jsonForm_refused_iff anyClient keyless ⟨0, 0⟩ flattenedToken json).1.mpr nothing⟩

/-- The same token with a member that nothing reads, whose text has the encoding of claims that
are accepted at the start of 1970 between two dots. -/
def hidingToken : String :=
  "\x7b\"protected\":\"eyJhbGciOiJSUzI1NiJ9\",\"payload\":\"e30\",\"signature\":\"c2ln\","
    ++ "\"x\":\".eyJpc3MiOiJpIiwiZXhwIjoxfQ.\"\x7d"

/-- The provider is asked about that token, though it is in a JSON form, and the refusal is the
provider's. -/
theorem hidingToken_reaches_provider :
    Envelope.isJsonForm hidingToken = true ∧
      (anyClient.validateAt keyless ⟨0, 0⟩ hidingToken).providerCalls = 1 ∧
      ¬ ∃ refusal, (anyClient.validateAt keyless ⟨0, 0⟩ hidingToken).result = .error refusal ∧
        refusal.IsLocal := by
  have asked : (anyClient.validateAt keyless ⟨0, 0⟩ hidingToken).result =
      .error (.signatureVerificationFailed (.unreadable (.encoding (.invalidSymbol 0x7B 0)))) := by
    decide +kernel
  refine ⟨by decide +kernel, by decide +kernel, ?_⟩
  rintro ⟨refusal, refused, early⟩
  rw [asked] at refused
  cases refused
  exact early

end IssueTracker.Auth

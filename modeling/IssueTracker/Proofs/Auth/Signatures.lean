import IssueTracker.Proofs.Auth.Acceptance

/-!
# How many signatures a token declares

What a token declares as its signatures stands in it before any header is looked into, so it can be
counted there. A token that declares none is always refused as not signed. One that declares several
is refused for their number only if all their protected headers can be read: they are read in order
before they are counted, and the first that cannot be read makes the token malformed instead.
-/

namespace IssueTracker.Auth

/-- The signatures that a token of proper form declares, with their headers as they stand there. -/
inductive Declares (token : String) : List ListedSignature → Prop
  /-- A compact token with an empty third segment declares none. -/
  | unsecured {header payload : String} (compact : Envelope.isJsonForm token = false)
      (cut : HasSegments token header payload "") :
      Declares token []
  /-- Any other compact token declares one. -/
  | compact {header payload signature : String} (compact : Envelope.isJsonForm token = false)
      (cut : HasSegments token header payload signature) (signed : signature ≠ "") :
      Declares token [⟨some header, none⟩]
  /-- The general JSON form declares those that it lists. -/
  | general {envelope : JsonEnvelope} {listed : List ListedSignature}
      (json : Envelope.isJsonForm token = true)
      (decoded : Json.decode JsonEnvelope.ofJson (Utf8.encode token) = .ok envelope)
      (several : envelope.signatures = some listed) (unmixed : envelope.signature = none) :
      Declares token listed
  /-- The flattened JSON form declares one. -/
  | flattened {envelope : JsonEnvelope} {signature : String}
      (json : Envelope.isJsonForm token = true)
      (decoded : Json.decode JsonEnvelope.ofJson (Utf8.encode token) = .ok envelope)
      (unlisted : envelope.signatures = none) (signed : envelope.signature = some signature) :
      Declares token [⟨envelope.protectedHeader, envelope.header⟩]
  /-- A JSON form with neither declares none. -/
  | bare {envelope : JsonEnvelope} (json : Envelope.isJsonForm token = true)
      (decoded : Json.decode JsonEnvelope.ofJson (Utf8.encode token) = .ok envelope)
      (unlisted : envelope.signatures = none) (unsigned : envelope.signature = none) :
      Declares token []

/-- What keeps the protected header of a declared signature from being read. -/
inductive HeaderFlaw (declared : ListedSignature) : AuthError → Prop
  | encoding {segment : String} {fault : Base64Url.Fault}
      (given : declared.protectedHeader = some segment)
      (failed : Base64Url.decode segment = .error fault) :
      HeaderFlaw declared (.malformedToken (.headerEncoding fault))
  | text {segment : String} {bytes : Bytes} {fault : Json.Fault}
      (given : declared.protectedHeader = some segment)
      (decoded : Base64Url.decode segment = .ok bytes)
      (failed : Json.decode SignatureEntry.ofJson bytes = .error fault) :
      HeaderFlaw declared (.malformedToken (.header fault))

/-- Whether nothing keeps the header of a declared signature from being read. -/
def HeaderReadable (declared : ListedSignature) : Prop := ∀ refusal, ¬ HeaderFlaw declared refusal

/-- What keeps the first header that cannot be read from being read. -/
def FirstHeaderFlaw (declared : List ListedSignature) (refusal : AuthError) : Prop :=
  ∃ before flawed after, declared = before ++ flawed :: after ∧
    (∀ earlier ∈ before, HeaderReadable earlier) ∧ HeaderFlaw flawed refusal

/-- The entry of a declared signature. -/
def ListedSignature.entry (declared : ListedSignature) : Except AuthError SignatureEntry :=
  SignatureEntry.ofParts declared.protectedHeader declared.header

section Headers

variable {declared : ListedSignature} {refusal : AuthError}

/-- A header segment is refused for its encoding, or for the JSON text in it. -/
theorem SignatureEntry.ofSegment_eq_error_iff {segment : String} :
    SignatureEntry.ofSegment segment = .error refusal ↔
      (∃ fault, Base64Url.decode segment = .error fault ∧
        refusal = .malformedToken (.headerEncoding fault)) ∨
      ∃ bytes fault, Base64Url.decode segment = .ok bytes ∧
        Json.decode SignatureEntry.ofJson bytes = .error fault ∧
          refusal = .malformedToken (.header fault) := by
  cases decoded : Base64Url.decode segment with
  | error fault => simp [SignatureEntry.ofSegment, decoded, eq_comm]
  | ok bytes =>
    cases read : Json.decode SignatureEntry.ofJson bytes with
    | error fault => simp [SignatureEntry.ofSegment, decoded, read, eq_comm]
    | ok entry => simp [SignatureEntry.ofSegment, decoded, read]

/-- A declared signature has no entry exactly for what is wrong with its protected header. -/
theorem entry_eq_error_iff : declared.entry = .error refusal ↔ HeaderFlaw declared refusal := by
  constructor
  · intro refused
    cases given : declared.protectedHeader with
    | none =>
      simp [ListedSignature.entry, SignatureEntry.ofParts, given, Except.bind_eq_error, pure,
        Except.pure] at refused
    | some segment =>
      simp only [ListedSignature.entry, SignatureEntry.ofParts, given, Except.bind_eq_error]
        at refused
      rcases refused with refused | ⟨_, _, returned⟩
      · rcases SignatureEntry.ofSegment_eq_error_iff.mp refused with ⟨fault, failed, rfl⟩ |
          ⟨bytes, fault, decoded, failed, rfl⟩
        · exact .encoding given failed
        · exact .text given decoded failed
      · cases returned
  · intro flaw
    have refused : ∃ segment, declared.protectedHeader = some segment ∧
        SignatureEntry.ofSegment segment = .error refusal := by
      cases flaw with
      | encoding given failed =>
        exact ⟨_, given, SignatureEntry.ofSegment_eq_error_iff.mpr (.inl ⟨_, failed, rfl⟩)⟩
      | text given decoded failed =>
        exact ⟨_, given,
          SignatureEntry.ofSegment_eq_error_iff.mpr (.inr ⟨_, _, decoded, failed, rfl⟩)⟩
    obtain ⟨segment, given, failed⟩ := refused
    simp [ListedSignature.entry, SignatureEntry.ofParts, given, failed, bind, Except.bind]

/-- A declared signature has an entry exactly if its header can be read. -/
theorem exists_entry_iff : (∃ entry, declared.entry = .ok entry) ↔ HeaderReadable declared := by
  cases read : declared.entry with
  | ok entry =>
    have clean : HeaderReadable declared := by
      intro refusal flaw
      rw [← entry_eq_error_iff, read] at flaw
      cases flaw
    simp [clean]
  | error refusal =>
    have flaw := entry_eq_error_iff.mp read
    simp only [reduceCtorEq, exists_false, false_iff]
    exact fun readable => readable refusal flaw

/-- The entries of declared signatures are refused for the first header that cannot be read. -/
theorem entries_eq_error_iff {declared : List ListedSignature} :
    declared.mapM ListedSignature.entry = .error refusal ↔ FirstHeaderFlaw declared refusal := by
  simp only [Except.mapM_eq_error_iff, exists_entry_iff, entry_eq_error_iff, FirstHeaderFlaw]

/-- If every header can be read, none is the first that cannot; and otherwise there is a first. -/
theorem readable_iff_no_firstHeaderFlaw {declared : List ListedSignature} :
    (∀ signature ∈ declared, HeaderReadable signature) ↔
      ∀ refusal, ¬ FirstHeaderFlaw declared refusal := by
  constructor
  · rintro readable refusal ⟨before, flawed, after, rfl, -, flaw⟩
    exact readable flawed (by simp) refusal flaw
  · intro none
    induction declared with
    | nil => simp
    | cons first others inductionHypothesis =>
      have readable : HeaderReadable first := fun refusal flaw =>
        none refusal ⟨[], first, others, rfl, by simp, flaw⟩
      have rest : ∀ signature ∈ others, HeaderReadable signature := by
        refine inductionHypothesis ?_
        rintro refusal ⟨before, flawed, after, rfl, earlier, flaw⟩
        exact none refusal
          ⟨first :: before, flawed, after, rfl, by simpa using ⟨readable, earlier⟩, flaw⟩
      simpa using ⟨readable, rest⟩

end Headers

section Parsing

variable {token : String} {declared : List ListedSignature} {entries : List SignatureEntry}

/-- The entry of a compact token is what its header segment says. -/
theorem entry_of_segment (header : String) :
    ListedSignature.entry ⟨some header, none⟩ = SignatureEntry.ofSegment header := by
  cases read : SignatureEntry.ofSegment header with
  | error refusal =>
    simp [ListedSignature.entry, SignatureEntry.ofParts, read, bind, Except.bind]
  | ok entry =>
    simp [ListedSignature.entry, SignatureEntry.ofParts, SignatureEntry.orElse, read, bind,
      Except.bind, pure, Except.pure]

/-- Parsing a token reads the headers of the signatures that it declares. -/
theorem parse_of_declares (declares : Declares token declared) :
    Envelope.parse token = (declared.mapM ListedSignature.entry).map Envelope.mk := by
  cases declares with
  | unsecured compact cut =>
    have segments := Envelope.segments_eq_iff.mpr cut
    simp [Envelope.parse, compact, Envelope.ofCompact, segments, Except.map, pure, Except.pure]
  | @compact header payload signature compact cut signed =>
    have segments := Envelope.segments_eq_iff.mpr cut
    have one := entry_of_segment header
    cases read : SignatureEntry.ofSegment header with
    | error refusal =>
      simp [Envelope.parse, compact, Envelope.ofCompact, segments, signed, one, read, Except.map,
        bind, Except.bind]
    | ok entry =>
      simp [Envelope.parse, compact, Envelope.ofCompact, segments, signed, one, read, Except.map,
        bind, Except.bind, pure, Except.pure]
  | general json decoded several unmixed =>
    simp only [Envelope.parse, json, if_true, Envelope.ofJsonForm, decoded, JsonEnvelope.entries,
      several, unmixed]
    rfl
  | flattened json decoded unlisted signed =>
    simp only [Envelope.parse, json, if_true, Envelope.ofJsonForm, decoded, JsonEnvelope.entries,
      unlisted, signed, List.mapM_cons, List.mapM_nil, pure_bind]
    rfl
  | bare json decoded unlisted unsigned =>
    simp [Envelope.parse, json, Envelope.ofJsonForm, decoded, JsonEnvelope.entries, unlisted,
      unsigned, Except.map, pure, Except.pure]

/-- A token that can be parsed is of proper form. -/
theorem exists_declares_of_parse (parsed : Envelope.parse token = .ok ⟨entries⟩) :
    ∃ declared, Declares token declared := by
  cases json : Envelope.isJsonForm token with
  | true =>
    simp only [Envelope.parse, json, if_true, Envelope.ofJsonForm] at parsed
    split at parsed
    · cases parsed
    · next envelope decoded =>
      cases listed : envelope.signatures with
      | some signatures =>
        cases signed : envelope.signature with
        | some signature => simp [JsonEnvelope.entries, listed, signed, Except.map] at parsed
        | none => exact ⟨signatures, .general json decoded listed signed⟩
      | none =>
        cases signed : envelope.signature with
        | some signature => exact ⟨_, .flattened json decoded listed signed⟩
        | none => exact ⟨[], .bare json decoded listed signed⟩
  | false =>
    simp only [Envelope.parse, json, Bool.false_eq_true, if_false, Envelope.ofCompact] at parsed
    split at parsed
    · next header payload signature cut =>
      have segments := Envelope.segments_eq_iff.mp cut
      by_cases empty : signature = ""
      · exact ⟨[], .unsecured json (empty ▸ segments)⟩
      · exact ⟨_, .compact json segments empty⟩
    · cases parsed

/-- A token parses as an envelope without entries exactly if it declares no signature. -/
theorem parse_empty_iff : Envelope.parse token = .ok ⟨[]⟩ ↔ Declares token [] := by
  constructor
  · intro parsed
    obtain ⟨declared, declares⟩ := exists_declares_of_parse parsed
    rw [parse_of_declares declares] at parsed
    cases read : declared.mapM ListedSignature.entry with
    | error refusal => simp [read, Except.map] at parsed
    | ok entries =>
      obtain rfl : entries = [] := by simpa [read, Except.map] using parsed
      obtain rfl : declared = [] := by simpa using (Except.length_of_mapM read).symm
      exact declares
  · intro declares
    rw [parse_of_declares declares]
    rfl

end Parsing

section Judgement

variable {config : ValidatorConfig} {provider : Provider} {now : Instant} {token : String}
  {declared : List ListedSignature} {refusal : AuthError}

/-- A token that cannot be parsed is refused for that, and the provider is not asked. -/
theorem validateAt_of_unparsed (unparsed : Envelope.parse token = .error refusal) :
    config.validateAt provider now token = ⟨.error refusal, 0, Duration.zero⟩ := by
  apply validateAt_of_refused
  simp [ValidatorConfig.inspect, unparsed, bind, Except.bind]

/-- A token without exactly one signature is refused for that, and the provider is not asked. -/
theorem validateAt_of_miscounted {envelope : Envelope}
    (parsed : Envelope.parse token = .ok envelope)
    (miscounted : envelope.singleSignature = .error refusal) :
    config.validateAt provider now token = ⟨.error refusal, 0, Duration.zero⟩ := by
  apply validateAt_of_refused
  simp [ValidatorConfig.inspect, parsed, miscounted, bind, Except.bind]

/-- Only a token that declares no signature is refused as not signed. -/
theorem declares_of_notSigned
    (refused : (config.validateAt provider now token).result = .error .tokenNotSigned) :
    Declares token [] := by
  obtain ⟨check, flaw, -⟩ := firstFlaw_of_result refused
  cases flaw with
  | form unparsed =>
    obtain ⟨malformation, same⟩ := Envelope.parse_malformed unparsed
    cases same
  | unsigned parsed => exact parse_empty_iff.mp parsed

/-- A token that declares no signature is refused as not signed. -/
theorem validateAt_of_unsigned (declares : Declares token []) :
    config.validateAt provider now token = ⟨.error .tokenNotSigned, 0, Duration.zero⟩ :=
  validateAt_of_miscounted (parse_empty_iff.mpr declares) rfl

/-- A token that declares several signatures is refused for the first header that cannot be
read, or else for their number. -/
theorem validateAt_of_several (config : ValidatorConfig) (provider : Provider) (now : Instant)
    (declares : Declares token declared) (several : 2 ≤ declared.length) :
    (∃ refusal, FirstHeaderFlaw declared refusal ∧
      config.validateAt provider now token = ⟨.error refusal, 0, Duration.zero⟩) ∨
    ((∀ signature ∈ declared, HeaderReadable signature) ∧
      config.validateAt provider now token =
        ⟨.error .multipleSignaturesUnsupported, 0, Duration.zero⟩) := by
  have parsed := parse_of_declares declares
  cases read : declared.mapM ListedSignature.entry with
  | error refusal =>
    rw [read] at parsed
    exact .inl ⟨refusal, entries_eq_error_iff.mp read, validateAt_of_unparsed parsed⟩
  | ok entries =>
    rw [read] at parsed
    have readable : ∀ signature ∈ declared, HeaderReadable signature := by
      rw [readable_iff_no_firstHeaderFlaw]
      intro refusal flaw
      rw [← entries_eq_error_iff, read] at flaw
      cases flaw
    have count := Except.length_of_mapM read
    obtain ⟨first, second, others, rfl⟩ : ∃ first second others,
        entries = first :: second :: others := by
      match entries, count with
      | first :: second :: others, _ => exact ⟨first, second, others, rfl⟩
      | [], count | [_], count => simp at count; omega
    exact .inr ⟨readable, validateAt_of_miscounted parsed rfl⟩

end Judgement

/-- A token is refused as not signed exactly if it declares no signature. One that declares several
is refused for their number exactly if all their headers can be read, and otherwise as malformed
for the first that cannot. The provider is asked about neither. -/
theorem signature_count_exact (config : ValidatorConfig) (provider : Provider) (now : Instant)
    (token : String) :
    ((config.validateAt provider now token).result = .error .tokenNotSigned ↔
      Declares token []) ∧
    (∀ declared, Declares token declared → 2 ≤ declared.length →
      ((config.validateAt provider now token).result = .error .multipleSignaturesUnsupported ↔
        ∀ signature ∈ declared, HeaderReadable signature) ∧
      ∀ malformation,
        (config.validateAt provider now token).result = .error (.malformedToken malformation) ↔
          FirstHeaderFlaw declared (.malformedToken malformation)) ∧
    ∀ declared, Declares token declared → declared.length ≠ 1 →
      (config.validateAt provider now token).providerCalls = 0 := by
  refine ⟨⟨declares_of_notSigned, ?_⟩, ?_, ?_⟩
  · intro declares
    rw [validateAt_of_unsigned declares]
  · intro declared declares several
    rcases validateAt_of_several config provider now declares several with
      ⟨refusal, flaw, refused⟩ | ⟨readable, refused⟩
    · obtain ⟨before, flawed, after, shape, earlier, own⟩ := flaw
      have unreadable : ¬ ∀ signature ∈ declared, HeaderReadable signature := by
        intro readable
        exact readable flawed (by simp [shape]) refusal own
      have malformed : ∃ malformation, refusal = .malformedToken malformation := by
        cases own <;> exact ⟨_, rfl⟩
      obtain ⟨malformation, rfl⟩ := malformed
      have only : ∀ other,
          FirstHeaderFlaw declared other ↔ .malformedToken malformation = other := by
        intro other
        rw [← entries_eq_error_iff,
          entries_eq_error_iff.mpr ⟨before, flawed, after, shape, earlier, own⟩, Except.error.injEq]
      simp [refused, unreadable, only]
    · have unflawed := readable_iff_no_firstHeaderFlaw.mp readable
      refine ⟨⟨fun _ => readable, fun _ => by rw [refused]⟩, ?_⟩
      simp [refused, unflawed]
  · intro declared declares count
    match declared, declares, count with
    | [], declares, _ => rw [validateAt_of_unsigned declares]
    | first :: second :: others, declares, _ =>
      rcases validateAt_of_several config provider now declares (by simp) with
        ⟨_, _, refused⟩ | ⟨_, refused⟩
      · rw [refused]
      · rw [refused]
    | [_], _, count => exact absurd rfl count

section Counted

/-- What a service requires of tokens that are issued to any client. -/
def lenientConfig : ValidatorConfig := ⟨"i", none, ["RS256"], Duration.ofSeconds 5⟩

/-- A provider that vouches for nothing. -/
def refusing : Provider := fun _ => ⟨.error .signatureMismatch, Duration.zero⟩

/-- A signature whose protected header says `{"alg":"RS256"}`. -/
def plainSignature : ListedSignature := ⟨some "eyJhbGciOiJSUzI1NiJ9", none⟩

/-- A token in the general form with two such signatures. -/
def doublySigned : String :=
  "\x7b\"payload\":\"e30\",\"signatures\":[\x7b\"protected\":\"eyJhbGciOiJSUzI1NiJ9\"\x7d,"
    ++ "\x7b\"protected\":\"eyJhbGciOiJSUzI1NiJ9\"\x7d]\x7d"

/-- Two signatures whose headers can be read are reported as too many. -/
theorem doublySigned_counted :
    (lenientConfig.validateAt refusing ⟨0, 0⟩ doublySigned).result =
        .error .multipleSignaturesUnsupported ∧
      (lenientConfig.validateAt refusing ⟨0, 0⟩ doublySigned).providerCalls = 0 := by
  have decoded : Json.decode JsonEnvelope.ofJson (Utf8.encode doublySigned) =
      .ok ⟨some [plainSignature, plainSignature], none, none, none⟩ := by decide +kernel
  have declares : Declares doublySigned [plainSignature, plainSignature] :=
    .general (by decide +kernel) decoded rfl rfl
  have readable : HeaderReadable plainSignature :=
    exists_entry_iff.mp ⟨⟨some "RS256", none⟩, by decide +kernel⟩
  have counted := signature_count_exact lenientConfig refusing ⟨0, 0⟩ doublySigned
  exact ⟨(counted.2.1 _ declares (by decide)).1.mpr (by simp [readable]),
    counted.2.2 _ declares (by decide)⟩

/-- A signature whose protected header is in no encoding. -/
def garbledSignature : ListedSignature := ⟨some "!", none⟩

/-- A token in the general form with two such signatures. -/
def doublyGarbled : String :=
  "\x7b\"payload\":\"e30\","
    ++ "\"signatures\":[\x7b\"protected\":\"!\"\x7d,\x7b\"protected\":\"!\"\x7d]\x7d"

/-- That token declares two signatures, but is reported as malformed. -/
theorem doublyGarbled_malformed :
    Declares doublyGarbled [garbledSignature, garbledSignature] ∧
      (lenientConfig.validateAt refusing ⟨0, 0⟩ doublyGarbled).result =
        .error (.malformedToken (.headerEncoding (.invalidSymbol 0x21 0))) ∧
      (lenientConfig.validateAt refusing ⟨0, 0⟩ doublyGarbled).result ≠
        .error .multipleSignaturesUnsupported := by
  have decoded : Json.decode JsonEnvelope.ofJson (Utf8.encode doublyGarbled) =
      .ok ⟨some [garbledSignature, garbledSignature], none, none, none⟩ := by decide +kernel
  have declares : Declares doublyGarbled [garbledSignature, garbledSignature] :=
    .general (by decide +kernel) decoded rfl rfl
  have malformed : (lenientConfig.validateAt refusing ⟨0, 0⟩ doublyGarbled).result =
      .error (.malformedToken (.headerEncoding (.invalidSymbol 0x21 0))) := by decide +kernel
  refine ⟨declares, malformed, ?_⟩
  rw [malformed]
  exact nofun

end Counted

end IssueTracker.Auth

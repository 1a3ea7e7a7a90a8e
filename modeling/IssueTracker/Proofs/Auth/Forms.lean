import IssueTracker.Proofs.Auth.Signatures
import IssueTracker.Proofs.Json.Writing

/-!
# One token in three forms

The same header, payload and signature can be written with dots between them, as a JSON object with
one signature, or as one with a list of signatures that has one item. A JSON text may escape what it
likes, put its members in any order and have others that nobody asks for. Whichever form is used,
inspection finds the one signature that the header describes, or the same fault in the header.
-/

namespace IssueTracker.Auth

/-- Whether a member says a text under a name, however the two are escaped. -/
structure IsTextMember (name text : String) (member : Bytes × Json) : Prop where
  key : Json.text? member.1 = some name
  value : ∃ written, member.2 = .string written ∧ Json.text? written = some text

/-- Whether a token is one of the texts of the flattened form. -/
inductive IsFlattened (header payload signature token : String) : Prop
  | intro {members : List (Bytes × Json)} {first second third : Bytes × Json}
      (spelled : Json.IsText (.object members true) (Utf8.encode token))
      (among : Json.AreAmong JsonEnvelope.fields [first, second, third] members)
      (header : IsTextMember "protected" header first)
      (payload : IsTextMember "payload" payload second)
      (signature : IsTextMember "signature" signature third)

/-- Whether a token is one of the texts of the general form with one signature. -/
inductive IsGeneral (header payload signature token : String) : Prop
  | intro {members inner : List (Bytes × Json)} {first second third fourth : Bytes × Json}
      (spelled : Json.IsText (.object members true) (Utf8.encode token))
      (among : Json.AreAmong JsonEnvelope.fields [first, second] members)
      (payload : IsTextMember "payload" payload first)
      (key : Json.text? second.1 = some "signatures")
      (listed : second.2 = .array [.object inner true] true)
      (amongInner : Json.AreAmong ListedSignature.fields [third, fourth] inner)
      (header : IsTextMember "protected" header third)
      (signature : IsTextMember "signature" signature fourth)

section Texts

variable {token : String} {members : List (Bytes × Json)} {name text : String}
  {member : Bytes × Json}

/-- A token that is the text of an object is taken for one in a JSON form. -/
theorem isJsonForm_of_isText {closed : Bool}
    (spelled : Json.IsText (.object members closed) (Utf8.encode token)) :
    Envelope.isJsonForm token = true := by
  obtain ⟨blank, rest, spaces, begins⟩ := Json.begins_of_isText_object spelled
  rw [Utf8.encode] at begins
  rw [Envelope.isJsonForm, decide_eq_true_eq]
  -- The induction is on the white space, which has one character for each of its octets.
  generalize token.toList = chars at begins
  induction blank generalizing chars with
  | nil =>
    obtain ⟨c, others, rfl, same, -⟩ := Utf8.exists_cons_of_small begins (by decide)
    obtain rfl : c = '\x7b' := Char.toNat_inj.mp same
    rfl
  | cons b blank inductionHypothesis =>
    obtain ⟨space, more⟩ := List.forall_mem_cons.mp spaces
    have small : b.toNat < 0x80 ∧ Blank.isBlank (Char.ofNat b.toNat) = true := by
      simp only [Json.isSpace, Bool.or_eq_true, decide_eq_true_eq] at space
      rcases space with ((rfl | rfl) | rfl) | rfl <;> decide
    obtain ⟨c, others, rfl, same, behind⟩ := Utf8.exists_cons_of_small begins small.1
    have blank : Blank.isBlank c = true := by
      rw [← Char.ofNat_toNat c, same]
      exact small.2
    rw [Blank.trimStart, List.dropWhile_cons_of_pos blank]
    exact inductionHypothesis more others behind

/-- A text is read where a text may be left out. -/
theorem IsTextMember.asOptional (told : IsTextMember name text member) :
    Json.asOptional Json.asText member.2 = .ok (some text) := by
  obtain ⟨written, string, named⟩ := told.value
  rw [string]
  simp [Json.asOptional, Json.asText, named, Except.map]

end Texts

section Reading

variable {header payload signature token : String}

/-- The fields of a JSON form, and those of a listed signature. -/
theorem isFieldName_jsonEnvelope {name : String} :
    Json.IsFieldName JsonEnvelope.fields name ↔
      name ∈ ["signatures", "protected", "header", "signature"] := by
  simp [Json.IsFieldName, JsonEnvelope.fields, Json.Field.of, eq_comm]

theorem isFieldName_listedSignature {name : String} :
    Json.IsFieldName ListedSignature.fields name ↔ name ∈ ["protected", "header"] := by
  simp [Json.IsFieldName, ListedSignature.fields, Json.Field.of, eq_comm]

/-- All fields of a JSON form and of a listed signature may be left out. -/
theorem free_of_fields :
    ∀ field ∈ JsonEnvelope.fields ++ ListedSignature.fields, field.absence ≠ .refused := by
  simp [JsonEnvelope.fields, ListedSignature.fields, Json.Field.of]

/-- Nobody asks a JSON form for its payload, nor a listed signature for what it is. -/
theorem payload_isForeign {text : String} {member : Bytes × Json}
    (told : IsTextMember "payload" text member) :
    Json.IsForeign JsonEnvelope.fields member :=
  ⟨"payload", told.key, by rw [isFieldName_jsonEnvelope]; decide⟩

theorem signature_isForeign {text : String} {member : Bytes × Json}
    (told : IsTextMember "signature" text member) :
    Json.IsForeign ListedSignature.fields member :=
  ⟨"signature", told.key, by rw [isFieldName_listedSignature]; decide⟩

/-- A token in the flattened form declares the signature that its header is of. -/
theorem declares_of_isFlattened (flattened : IsFlattened header payload signature token) :
    Declares token [⟨some header, none⟩] := by
  obtain @⟨members, first, second, third, spelled, among, headerTold, payloadTold,
    signatureTold⟩ := flattened
  have record : Json.IsRecord JsonEnvelope.fields (fun _ => True) [first, second, third] := by
    apply Json.isRecord_of_names
    case names => exact ["protected", "payload", "signature"]
    case named => simp [headerTold.key, payloadTold.key, signatureTold.key]
    case distinct => decide
    case each =>
      simp only [List.mem_cons, List.not_mem_nil, or_false, forall_eq_or_imp, forall_eq]
      exact ⟨Json.isMember_of_read headerTold.key rfl headerTold.asOptional,
        (payload_isForeign payloadTold).isMember,
        Json.isMember_of_read signatureTold.key rfl signatureTold.asOptional⟩
  obtain ⟨given, read, values⟩ := record.exists_asRecord_among among fun field inside =>
    free_of_fields field (List.mem_append_left _ inside)
  have decoded : Json.decode JsonEnvelope.ofJson (Utf8.encode token) =
      .ok ⟨none, some header, none, some signature⟩ := by
    rw [Json.decode_of_isText spelled]
    simp [JsonEnvelope.ofJson, read, Json.Given.readOr_eq, values, isFieldName_jsonEnvelope,
      Json.memberOf, headerTold.key, payloadTold.key, signatureTold.key, headerTold.asOptional,
      signatureTold.asOptional, bind, Except.bind, pure, Except.pure]
  exact .flattened (isJsonForm_of_isText spelled) decoded rfl rfl

/-- An object with the header and the signature of a listed signature is read as one. -/
theorem listed_ofJson {inner : List (Bytes × Json)} {third fourth : Bytes × Json}
    (among : Json.AreAmong ListedSignature.fields [third, fourth] inner)
    (headerTold : IsTextMember "protected" header third)
    (signatureTold : IsTextMember "signature" signature fourth) :
    ListedSignature.ofJson (.object inner true) = .ok ⟨some header, none⟩ := by
  have record : Json.IsRecord ListedSignature.fields (fun _ => True) [third, fourth] := by
    apply Json.isRecord_of_names
    case names => exact ["protected", "signature"]
    case named => simp [headerTold.key, signatureTold.key]
    case distinct => decide
    case each =>
      simp only [List.mem_cons, List.not_mem_nil, or_false, forall_eq_or_imp, forall_eq]
      exact ⟨Json.isMember_of_read headerTold.key rfl headerTold.asOptional,
        (signature_isForeign signatureTold).isMember⟩
  obtain ⟨given, read, values⟩ := record.exists_asRecord_among among fun field inside =>
    free_of_fields field (List.mem_append_right _ inside)
  simp [ListedSignature.ofJson, read, Json.Given.readOr_eq, values, isFieldName_listedSignature,
    Json.memberOf, headerTold.key, signatureTold.key, headerTold.asOptional, bind, Except.bind,
    pure, Except.pure]

/-- A token in the general form with one signature declares that, with its header. -/
theorem declares_of_isGeneral (general : IsGeneral header payload signature token) :
    Declares token [⟨some header, none⟩] := by
  obtain @⟨members, inner, first, second, third, fourth, spelled, among, payloadTold, key, listed,
    amongInner, headerTold, signatureTold⟩ := general
  have signatures : Json.asOptional (Json.asList ListedSignature.ofJson) second.2 =
      .ok (some [⟨some header, none⟩]) := by
    simp [listed, Json.asOptional, Json.asList, listed_ofJson amongInner headerTold signatureTold,
      bind, Except.bind, pure, Except.pure, Except.map]
  have record : Json.IsRecord JsonEnvelope.fields (fun _ => True) [first, second] := by
    apply Json.isRecord_of_names
    case names => exact ["payload", "signatures"]
    case named => simp [payloadTold.key, key]
    case distinct => decide
    case each =>
      simp only [List.mem_cons, List.not_mem_nil, or_false, forall_eq_or_imp, forall_eq]
      exact ⟨(payload_isForeign payloadTold).isMember, Json.isMember_of_read key rfl signatures⟩
  obtain ⟨given, read, values⟩ := record.exists_asRecord_among among fun field inside =>
    free_of_fields field (List.mem_append_left _ inside)
  have decoded : Json.decode JsonEnvelope.ofJson (Utf8.encode token) =
      .ok ⟨some [⟨some header, none⟩], none, none, none⟩ := by
    rw [Json.decode_of_isText spelled]
    simp [JsonEnvelope.ofJson, read, Json.Given.readOr_eq, values, isFieldName_jsonEnvelope,
      Json.memberOf, payloadTold.key, key, signatures, bind, Except.bind, pure, Except.pure]
  exact .general (isJsonForm_of_isText spelled) decoded rfl rfl

/-- A token that declares one signature with a protected header has the entry that the header
says, or its fault. -/
theorem parse_of_declares_one (declares : Declares token [⟨some header, none⟩]) :
    Envelope.parse token = (SignatureEntry.ofSegment header).map fun entry => ⟨[entry]⟩ := by
  rw [parse_of_declares declares, List.mapM_cons, List.mapM_nil, entry_of_segment]
  cases SignatureEntry.ofSegment header with
  | error refusal => rfl
  | ok entry => rfl

end Reading

/-- A header, a payload and a signature may be written with dots between them, as a JSON object with
one signature, or as one with a list of it. In each of these forms parsing finds the one entry that
the header says, or the one fault that keeps it from being read. -/
theorem forms_agree (header payload signature compact flattened general : String)
    (segments : HasSegments compact header payload signature) (signed : signature ≠ "")
    (unbraced : Envelope.isJsonForm compact = false)
    (asFlattened : IsFlattened header payload signature flattened)
    (asGeneral : IsGeneral header payload signature general) :
    Envelope.parse compact = (SignatureEntry.ofSegment header).map (fun entry => ⟨[entry]⟩) ∧
      Envelope.parse flattened = Envelope.parse compact ∧
      Envelope.parse general = Envelope.parse compact := by
  have inSegments := parse_of_declares_one (.compact unbraced segments signed)
  have inObject := parse_of_declares_one (declares_of_isFlattened asFlattened)
  have inList := parse_of_declares_one (declares_of_isGeneral asGeneral)
  refine ⟨inSegments, ?_, ?_⟩
  · rw [inObject, inSegments]
  · rw [inList, inSegments]

section Written

/-- A header segment that says `{"alg":"RS256","kid":"k"}`. -/
def keyedHeader : String := "eyJhbGciOiJSUzI1NiIsImtpZCI6ImsifQ"

/-- The members of a token in the flattened form, and one that nobody asks for. -/
def flattenedMembers : List (String × Json) :=
  [("x", .array [.null, .object [] true] true), ("signature", Json.ofText "c2ln"),
    ("payload", Json.ofText "e30"), ("protected", Json.ofText keyedHeader)]

/-- The members of the one listed signature of a token in the general form, and those of the token.
-/
def listedMembers : List (String × Json) :=
  [("signature", Json.ofText "c2ln"), ("protected", Json.ofText keyedHeader)]

def generalMembers : List (String × Json) :=
  [("signatures", Json.ofList [Json.ofMembers listedMembers]), ("payload", Json.ofText "e30")]

/-- The tokens in the flattened and in the general form as texts, the first with white space around
it. -/
def spacedFlattened : String :=
  "\n\x7b\"x\":[null,\x7b\x7d],\"signature\":\"c2ln\",\"payload\":\"e30\","
    ++ "\"protected\":\"eyJhbGciOiJSUzI1NiIsImtpZCI6ImsifQ\"\x7d "

def listedGeneral : String :=
  "\x7b\"signatures\":[\x7b\"signature\":\"c2ln\","
    ++ "\"protected\":\"eyJhbGciOiJSUzI1NiIsImtpZCI6ImsifQ\"\x7d],\"payload\":\"e30\"\x7d"

/-- A member that is written as a text under a name says it. -/
theorem isTextMember_written (name text : String) :
    IsTextMember name text (Json.written name, Json.ofText text) :=
  ⟨Json.text?_written name, Json.written text, rfl, Json.text?_written text⟩

/-- The first token is a text of the flattened form, with its members in the opposite order. -/
theorem isFlattened_spacedFlattened : IsFlattened keyedHeader "e30" "c2ln" spacedFlattened := by
  have whole : ∀ member ∈ flattenedMembers, Json.IsWhole member.2 := by
    simp only [flattenedMembers, List.mem_cons, List.not_mem_nil, or_false, forall_eq_or_imp,
      forall_eq, Json.isWhole_ofText, and_true]
    refine .array ?_
    simp only [List.mem_cons, List.not_mem_nil, or_false, forall_eq_or_imp, forall_eq]
    exact ⟨.null, .object (by simp) (by simp)⟩
  have octets : Utf8.encode spacedFlattened =
      [0x0A] ++ ((Json.ofMembers flattenedMembers).write ++ [0x20]) := by decide +kernel
  have spelled : Json.IsText (Json.ofMembers flattenedMembers) (Utf8.encode spacedFlattened) := by
    rw [octets]
    exact .spaced (by simp [Json.IsBlank, Json.isSpace])
      (Json.isText_of_isWhole (Json.isWhole_ofMembers whole))
      (by simp [Json.IsBlank, Json.isSpace])
  have foreign : Json.IsForeign JsonEnvelope.fields
      (Json.written "x", .array [.null, .object [] true] true) :=
    ⟨"x", Json.text?_written "x", by rw [isFieldName_jsonEnvelope]; decide⟩
  refine .intro spelled ⟨[_], (List.reverse_perm _).symm, ?_⟩ (isTextMember_written _ _)
    (isTextMember_written _ _) (isTextMember_written _ _)
  intro other inside
  obtain rfl := List.mem_singleton.mp inside
  exact foreign

/-- The second token is a text of the general form. -/
theorem isGeneral_listedGeneral : IsGeneral keyedHeader "e30" "c2ln" listedGeneral := by
  have inner : ∀ member ∈ listedMembers, Json.IsWhole member.2 := by
    simp [listedMembers, Json.isWhole_ofText]
  have whole : ∀ member ∈ generalMembers, Json.IsWhole member.2 := by
    simp only [generalMembers, List.mem_cons, List.not_mem_nil, or_false, forall_eq_or_imp,
      forall_eq, Json.isWhole_ofText, and_true]
    refine .array ?_
    intro item inside
    obtain rfl := List.mem_singleton.mp inside
    exact Json.isWhole_ofMembers inner
  have octets : Utf8.encode listedGeneral = (Json.ofMembers generalMembers).write := by
    decide +kernel
  have spelled : Json.IsText (Json.ofMembers generalMembers) (Utf8.encode listedGeneral) := by
    rw [octets]
    exact Json.isText_of_isWhole (Json.isWhole_ofMembers whole)
  exact .intro spelled ⟨[], (List.reverse_perm _).symm, by simp⟩ (isTextMember_written _ _)
    (Json.text?_written _) rfl ⟨[], (List.reverse_perm _).symm, by simp⟩
    (isTextMember_written _ _) (isTextMember_written _ _)

/-- The compact token and the two others are found to have the same entry. -/
theorem keyedHeader_agreed :
    Envelope.parse (keyedHeader ++ ".e30.c2ln") = .ok ⟨[⟨some "RS256", some "k"⟩]⟩ ∧
      Envelope.parse spacedFlattened = .ok ⟨[⟨some "RS256", some "k"⟩]⟩ ∧
      Envelope.parse listedGeneral = .ok ⟨[⟨some "RS256", some "k"⟩]⟩ := by
  have segments : HasSegments (keyedHeader ++ ".e30.c2ln") keyedHeader "e30" "c2ln" :=
    ⟨by decide, by decide, by decide, by decide⟩
  have said : SignatureEntry.ofSegment keyedHeader = .ok ⟨some "RS256", some "k"⟩ := by
    decide +kernel
  obtain ⟨inSegments, inObject, inList⟩ := forms_agree keyedHeader "e30" "c2ln" _ spacedFlattened
    listedGeneral segments (by decide) (by decide +kernel) isFlattened_spacedFlattened
    isGeneral_listedGeneral
  rw [said] at inSegments
  exact ⟨inSegments, inObject.trans inSegments, inList.trans inSegments⟩

end Written

end IssueTracker.Auth

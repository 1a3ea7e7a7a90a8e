import IssueTracker.Auth.Error
import IssueTracker.Text.Blank

/-!
# Signed envelopes

A token is a signed envelope in one of three forms: compact, with three segments between dots;
flattened JSON, with one signature; and general JSON, with a list of signatures. Inspection finds
out which signatures an envelope declares, with the algorithm and key each one names. It does not
check any of them.
-/

namespace IssueTracker.Auth

/-- What a header says about its signature. -/
structure SignatureEntry where
  /-- The name of the algorithm. -/
  alg : Option String
  /-- The name of the key. -/
  kid : Option String
deriving Repr, DecidableEq

namespace SignatureEntry

/-- The fields of a header. -/
def fields : List Json.Field := [
  .of "alg" (Json.asOptional Json.asText) .defaulted,
  .of "kid" (Json.asOptional Json.asText) .defaulted]

/-- Read a header. -/
def ofJson : Json.Reader SignatureEntry := fun json => do
  let given ← Json.asRecord fields json
  let alg ← given.readOr "alg" (Json.asOptional Json.asText) none
  let kid ← given.readOr "kid" (Json.asOptional Json.asText) none
  return ⟨alg, kid⟩

/-- Read a header from its segment. -/
def ofSegment (segment : String) : Except AuthError SignatureEntry :=
  match Base64Url.decode segment with
  | .error fault => .error (.malformedToken (.headerEncoding fault))
  | .ok bytes =>
    match Json.decode ofJson bytes with
    | .error fault => .error (.malformedToken (.header fault))
    | .ok entry => .ok entry

/-- What the protected header leaves open is taken from the other one. -/
def orElse (protectedEntry other : SignatureEntry) : SignatureEntry :=
  ⟨protectedEntry.alg <|> other.alg, protectedEntry.kid <|> other.kid⟩

/-- The entry of a signature in a JSON form: the protected header is encoded, the other is not. -/
def ofParts (protectedHeader : Option String) (header : Option SignatureEntry) :
    Except AuthError SignatureEntry := do
  let first ← match protectedHeader with
    | some segment => ofSegment segment
    | none => pure ⟨none, none⟩
  return first.orElse (header.getD ⟨none, none⟩)

end SignatureEntry

/-- One signature of the general JSON form, as far as it is inspected. -/
structure ListedSignature where
  protectedHeader : Option String
  header : Option SignatureEntry
deriving Repr, DecidableEq

namespace ListedSignature

/-- The fields of a listed signature. -/
def fields : List Json.Field := [
  .of "protected" (Json.asOptional Json.asText) .defaulted,
  .of "header" (Json.asOptional SignatureEntry.ofJson) .defaulted]

/-- Read a listed signature. -/
def ofJson : Json.Reader ListedSignature := fun json => do
  let given ← Json.asRecord fields json
  let protectedHeader ← given.readOr "protected" (Json.asOptional Json.asText) none
  let header ← given.readOr "header" (Json.asOptional SignatureEntry.ofJson) none
  return ⟨protectedHeader, header⟩

end ListedSignature

/-- A token in one of the JSON forms, as far as it is inspected. -/
structure JsonEnvelope where
  /-- The signatures of the general form. -/
  signatures : Option (List ListedSignature)
  protectedHeader : Option String
  header : Option SignatureEntry
  /-- The signature of the flattened form. -/
  signature : Option String
deriving Repr, DecidableEq

namespace JsonEnvelope

/-- The fields of a JSON form. -/
def fields : List Json.Field := [
  .of "signatures" (Json.asOptional (Json.asList ListedSignature.ofJson)) .defaulted,
  .of "protected" (Json.asOptional Json.asText) .defaulted,
  .of "header" (Json.asOptional SignatureEntry.ofJson) .defaulted,
  .of "signature" (Json.asOptional Json.asText) .defaulted]

/-- Read a JSON form. -/
def ofJson : Json.Reader JsonEnvelope := fun json => do
  let given ← Json.asRecord fields json
  let signatures ← given.readOr "signatures"
    (Json.asOptional (Json.asList ListedSignature.ofJson)) none
  let protectedHeader ← given.readOr "protected" (Json.asOptional Json.asText) none
  let header ← given.readOr "header" (Json.asOptional SignatureEntry.ofJson) none
  let signature ← given.readOr "signature" (Json.asOptional Json.asText) none
  return ⟨signatures, protectedHeader, header, signature⟩

/-- The entries that a JSON form declares. -/
def entries (envelope : JsonEnvelope) : Except AuthError (List SignatureEntry) :=
  match envelope.signatures, envelope.signature with
  | some _, some _ => .error (.malformedToken .mixedForms)
  | some listed, none => listed.mapM fun s => SignatureEntry.ofParts s.protectedHeader s.header
  | none, some _ => do
    let entry ← SignatureEntry.ofParts envelope.protectedHeader envelope.header
    return [entry]
  | none, none => .ok []

end JsonEnvelope

/-- The signatures that a token declares. -/
structure Envelope where
  signatures : List SignatureEntry
deriving Repr, DecidableEq

namespace Envelope

/-- Cut a text at every occurrence of a character, collecting pieces and characters last first. -/
def splitFrom (mark : Char) (pieces : List String) (piece : List Char) : List Char → List String
  | [] => (String.ofList piece.reverse :: pieces).reverse
  | c :: rest =>
    if c = mark then splitFrom mark (String.ofList piece.reverse :: pieces) [] rest
    else splitFrom mark pieces (c :: piece) rest

/-- The pieces of a text between the occurrences of a character; there is always one more piece
than occurrences. -/
def split (mark : Char) (text : String) : List String := splitFrom mark [] [] text.toList

/-- The segments of a token. -/
def segments (token : String) : List String := split '.' token

/-- A token whose first character that is not white space opens an object is in a JSON form. -/
def isJsonForm (token : String) : Bool :=
  (Blank.trimStart token.toList).head? = some '\x7b'

/-- Inspect a compact token. An empty third segment declares no signature, and then the header is
not looked at. -/
def ofCompact (token : String) : Except AuthError Envelope :=
  match segments token with
  | [header, _, signature] =>
    if signature.isEmpty then .ok ⟨[]⟩
    else (SignatureEntry.ofSegment header).map fun entry => ⟨[entry]⟩
  | other => .error (.malformedToken (.segments other.length))

/-- Inspect a token in a JSON form. -/
def ofJsonForm (token : String) : Except AuthError Envelope :=
  match Json.decode JsonEnvelope.ofJson (Utf8.encode token) with
  | .error fault => .error (.malformedToken (.jsonForm fault))
  | .ok envelope => envelope.entries.map fun entries => ⟨entries⟩

/-- Inspect a token. -/
def parse (token : String) : Except AuthError Envelope :=
  if isJsonForm token then ofJsonForm token else ofCompact token

/-- The only signature of an envelope. -/
def singleSignature (envelope : Envelope) : Except AuthError SignatureEntry :=
  match envelope.signatures with
  | [] => .error .tokenNotSigned
  | [entry] => .ok entry
  | _ :: _ :: _ => .error .multipleSignaturesUnsupported

/-- Accept a signature only under one of the named algorithms. -/
def checkAlgorithm (entry : SignatureEntry) (allowed : List String) : Except AuthError Unit :=
  if entry.alg.any (allowed.contains ·) then .ok ()
  else .error (.unsupportedAlgorithm allowed (entry.alg.getD ""))

/-- The octets of a token's second segment, whatever the form of the token. -/
def decodePayload (token : String) : Except AuthError Bytes :=
  match segments token with
  | _ :: payload :: _ =>
    match Base64Url.decode payload with
    | .ok bytes => .ok bytes
    | .error fault => .error (.malformedToken (.payloadEncoding fault))
  | other => .error (.malformedToken (.payloadSegments other.length))

end Envelope

end IssueTracker.Auth

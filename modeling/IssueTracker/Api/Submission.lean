import IssueTracker.Json.Decode
import IssueTracker.Store.Records
import IssueTracker.Text.Blank

/-!
# What callers submit

The bodies of requests that create or change a record, and their rules. Certain fields must not be
blank. The name of a customer or project loses the white space at its ends; everything else is
kept as submitted. What the service decides about a record is not part of a submission.
-/

namespace IssueTracker.Api.Submission

open Store

/-- A field that must not be blank, and is. -/
structure BlankField where
  name : String
deriving Repr, DecidableEq

/-- The wording of a blank field. -/
def BlankField.message (field : BlankField) : String := s!"{field.name} is required"

/-- A field that must not be blank. -/
def required (name value : String) : Except BlankField Unit :=
  if Blank.isAllBlank value then .error ⟨name⟩ else .ok ()

/-- The labels of a record. -/
def asLabels : Json.Reader (List String) := Json.asList Json.asText

/-- The fields of a submitted customer or project. -/
def profileFields : List Json.Field := [
  .of "name" Json.asText .refused,
  .of "description" Json.asText .defaulted,
  .of "labels" asLabels .defaulted]

/-- Read a submitted customer or project. -/
def profile : Json.Reader Profile := fun json => do
  let given ← Json.asRecord profileFields json
  let name ← given.read "name" Json.asText
  let description ← given.readOr "description" Json.asText ""
  let labels ← given.readOr "labels" asLabels []
  return { name, description, labels }

/-- What is stored of a submitted customer or project. -/
def checkProfile (submitted : Profile) : Except BlankField Profile := do
  required "name" submitted.name
  return { submitted with name := Blank.trim submitted.name }

/-- The fields of a submitted issue. -/
def issueFields : List Json.Field := [
  .of "subject" Json.asText .refused,
  .of "severity" Json.asText .refused,
  .of "category" Json.asText .refused,
  .of "labels" asLabels .defaulted,
  .of "content" Json.asText .defaulted]

/-- Read a submitted issue. -/
def issue : Json.Reader IssueFields := fun json => do
  let given ← Json.asRecord issueFields json
  let subject ← given.read "subject" Json.asText
  let severity ← given.read "severity" Json.asText
  let category ← given.read "category" Json.asText
  let labels ← given.readOr "labels" asLabels []
  let content ← given.readOr "content" Json.asText ""
  return { subject, severity, category, labels, content }

/-- What is stored of a submitted issue. -/
def checkIssue (submitted : IssueFields) : Except BlankField IssueFields := do
  required "subject" submitted.subject
  required "severity" submitted.severity
  required "category" submitted.category
  return submitted

/-- The fields of a submitted comment. -/
def commentFields : List Json.Field := [.of "content" Json.asText .refused]

/-- Read a submitted comment. -/
def comment : Json.Reader String := fun json => do
  let given ← Json.asRecord commentFields json
  given.read "content" Json.asText

/-- What is stored of a submitted comment. -/
def checkComment (submitted : String) : Except BlankField String := do
  required "content" submitted
  return submitted

end IssueTracker.Api.Submission

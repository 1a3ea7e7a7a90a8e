import IssueTracker.Api.Presentation
import IssueTracker.Api.Submission
import IssueTracker.Proofs.Json.Writing

/-!
# What is shown of records

A record is shown as an object, which has a member for everything that callers may know of it. Which
members these are is said here without the functions that make up a response, and the body of a
response is a text of that object.

What is shown of a record is a submission for one. Among its members are those that a submission of
its kind has, and they are read as the fields of the record, whatever texts these are. The others,
which tell what the service decided, are under names of no field and are passed over.
-/

namespace IssueTracker

open Api Http Json

namespace Store

section Members

/-- The members of a customer that is shown. -/
def customerMembers (row : CustomerRow) : List (String × Json) :=
  [("id", ofText row.id.toText), ("name", ofText row.fields.name),
    ("description", ofText row.fields.description), ("labels", ofTexts row.fields.labels),
    ("created_at", ofText row.createdAt.toShortText),
    ("updated_at", ofText row.updatedAt.toShortText)]

/-- The members of a project that is shown. -/
def projectMembers (row : ProjectRow) : List (String × Json) :=
  [("id", ofText row.id.toText), ("customer_id", ofText row.scope.toText),
    ("name", ofText row.fields.name), ("description", ofText row.fields.description),
    ("labels", ofTexts row.fields.labels), ("created_at", ofText row.createdAt.toShortText),
    ("updated_at", ofText row.updatedAt.toShortText)]

/-- The members of an issue that is shown. -/
def issueMembers (row : IssueRow) : List (String × Json) :=
  [("id", ofText row.id.toText), ("project_id", ofText row.scope.project.toText),
    ("reporter", ofText row.origin.reporter), ("subject", ofText row.fields.subject),
    ("state", ofText row.origin.state), ("severity", ofText row.fields.severity),
    ("category", ofText row.fields.category), ("labels", ofTexts row.fields.labels),
    ("content", ofText row.fields.content), ("created_at", ofText row.createdAt.toShortText),
    ("updated_at", ofText row.updatedAt.toShortText)]

/-- The members of a comment that is shown. -/
def commentMembers (row : CommentRow) : List (String × Json) :=
  [("id", ofText row.id.toText), ("issue_id", ofText row.scope.issue.toText),
    ("author", ofText row.origin), ("content", ofText row.fields),
    ("created_at", ofText row.createdAt.toShortText),
    ("updated_at", ofText row.updatedAt.toShortText)]

end Members

namespace Reply

variable {ρ : Type}

/-- The status with which a reply is shown. -/
def status : Reply ρ → Nat
  | .page _ | .found _ | .updated _ => 200
  | .created _ => 201

/-- The object that tells of a reply: that of its row, or the list of those of all rows of a page
under the name of their kind. -/
def object (plural : String) (members : ρ → List (String × Json)) : Reply ρ → Json
  | .page rows => .ofMembers [(plural, .ofList (rows.map fun row => .ofMembers (members row)))]
  | .found row | .created row | .updated row => .ofMembers (members row)

/-- Whether a response tells of a reply: it has the status, and its body is a text of the object. -/
def IsToldBy (plural : String) (members : ρ → List (String × Json)) (reply : Reply ρ)
    (response : Response) : Prop :=
  response.status = reply.status ∧ IsText (reply.object plural members) response.content.octets

end Reply

/-- Whether a response tells of what the stores show. -/
def Shown.IsToldBy : Shown → Response → Prop
  | .customers reply => reply.IsToldBy "customers" customerMembers
  | .projects reply => reply.IsToldBy "projects" projectMembers
  | .issues reply => reply.IsToldBy "issues" issueMembers
  | .comments reply => reply.IsToldBy "comments" commentMembers

end Store

namespace Api

open Store

namespace Presentation

variable {members : List (String × Json)}

@[simp] theorem status_reply {ρ : Type} (plural : String) (show1 : ρ → Json) (reply : Reply ρ) :
    (Presentation.reply plural show1 reply).status = reply.status := by
  cases reply <;> rfl

/-- An object of texts and of lists of texts is whole. -/
theorem isWhole_of_texts (texts : ∀ member ∈ members,
    (∃ text, member.2 = ofText text) ∨ ∃ labels, member.2 = ofTexts labels) :
    IsWhole (ofMembers members) := by
  refine isWhole_ofMembers fun member inside => ?_
  rcases texts member inside with ⟨text, same⟩ | ⟨labels, same⟩
  · rw [same]
    exact isWhole_ofText text
  · rw [same]
    exact isWhole_ofTexts labels

/-- The response to a reply tells of it, if rows are shown as the objects of their members. -/
theorem isToldBy_reply {ρ : Type} (plural : String) {show1 : ρ → Json}
    (members : ρ → List (String × Json)) (same : ∀ row, show1 row = ofMembers (members row))
    (texts : ∀ row, ∀ member ∈ members row,
      (∃ text, member.2 = ofText text) ∨ ∃ labels, member.2 = ofTexts labels) (reply : Reply ρ) :
    reply.IsToldBy plural members (Presentation.reply plural show1 reply) := by
  have whole (row : ρ) : IsWhole (ofMembers (members row)) := isWhole_of_texts (texts row)
  obtain rfl : show1 = fun row => ofMembers (members row) := funext same
  refine ⟨status_reply _ _ _, ?_⟩
  cases reply with
  | page rows =>
    refine isText_of_isWhole (isWhole_ofMembers ?_)
    simp only [List.forall_mem_singleton]
    refine .array fun item inside => ?_
    obtain ⟨row, -, rfl⟩ := List.mem_map.mp inside
    exact whole row
  | found row | created row | updated row => exact isText_of_isWhole (whole row)

/-- The response to what the stores show tells of it. -/
theorem isToldBy_shown (what : Shown) : what.IsToldBy (Presentation.shown what) := by
  cases what with
  | customers reply =>
    exact isToldBy_reply _ customerMembers (fun _ => rfl) (by simp [customerMembers]) reply
  | projects reply =>
    exact isToldBy_reply _ projectMembers (fun _ => rfl) (by simp [projectMembers]) reply
  | issues reply =>
    exact isToldBy_reply _ issueMembers (fun _ => rfl) (by simp [issueMembers]) reply
  | comments reply =>
    exact isToldBy_reply _ commentMembers (fun _ => rfl) (by simp [commentMembers]) reply

end Presentation

namespace Presentation

/-- The members that are under names of fields. -/
def underFields (fields : List Field) (members : List (String × Json)) : List (String × Json) :=
  members.filter fun member => fields.any (·.name = member.1)

/-- The fields of an issue. -/
def report (fields : IssueFields) : List (String × Json) :=
  [("subject", ofText fields.subject), ("severity", ofText fields.severity),
    ("category", ofText fields.category), ("labels", ofTexts fields.labels),
    ("content", ofText fields.content)]

/-- The field of a comment. -/
def remark (content : String) : List (String × Json) := [("content", ofText content)]

end Presentation

open Presentation

namespace Submission

variable {members : List (String × Json)}

/-- An object with the members of a customer or a project is read as one, whatever else it has. -/
theorem profile_of_members {fields : Profile}
    (among : underFields profileFields members = Presentation.profile fields) :
    profile (ofMembers members) = .ok fields := by
  have fits : ∀ member ∈ Presentation.profile fields, IsTaken profileFields member := by
    simp only [Presentation.profile, List.forall_mem_cons]
    exact ⟨isTaken_of_read rfl (asText_ofText _), isTaken_of_read rfl (asText_ofText _),
      isTaken_of_read rfl (asList_ofTexts _), nofun⟩
  obtain ⟨given, read, values⟩ := exists_asRecord_among profileFields among
    (by simp [Presentation.profile]) fits
    (by simp [profileFields, Field.of, Presentation.profile])
  have name : given.read "name" asText = .ok fields.name :=
    Given.read_of_read (values "name" _ (by simp [Presentation.profile])) (asText_ofText _)
  have description : given.readOr "description" asText "" = .ok fields.description :=
    Given.readOr_of_read (values "description" _ (by simp [Presentation.profile])) (asText_ofText _)
  have labels : given.readOr "labels" asLabels [] = .ok fields.labels :=
    Given.readOr_of_read (values "labels" _ (by simp [Presentation.profile])) (asList_ofTexts _)
  simp only [profile, Except.bind_eq_ok]
  exact ⟨given, read, _, name, _, description, _, labels, rfl⟩

/-- An object with the members of an issue is read as one, whatever else it has. -/
theorem issue_of_members {fields : IssueFields}
    (among : underFields issueFields members = report fields) :
    issue (ofMembers members) = .ok fields := by
  have fits : ∀ member ∈ report fields, IsTaken issueFields member := by
    simp only [report, List.forall_mem_cons]
    exact ⟨isTaken_of_read rfl (asText_ofText _), isTaken_of_read rfl (asText_ofText _),
      isTaken_of_read rfl (asText_ofText _), isTaken_of_read rfl (asList_ofTexts _),
      isTaken_of_read rfl (asText_ofText _), nofun⟩
  obtain ⟨given, read, values⟩ := exists_asRecord_among issueFields among (by simp [report]) fits
    (by simp [issueFields, Field.of, report])
  have text (name text : String) (member : (name, ofText text) ∈ report fields) :
      given.read name asText = .ok text :=
    Given.read_of_read (values name _ member) (asText_ofText text)
  have subject := text "subject" fields.subject (by simp [report])
  have severity := text "severity" fields.severity (by simp [report])
  have category := text "category" fields.category (by simp [report])
  have labels : given.readOr "labels" asLabels [] = .ok fields.labels :=
    Given.readOr_of_read (values "labels" _ (by simp [report])) (asList_ofTexts _)
  have content : given.readOr "content" asText "" = .ok fields.content :=
    Given.readOr_of_read (values "content" _ (by simp [report])) (asText_ofText _)
  simp only [issue, Except.bind_eq_ok]
  exact ⟨given, read, _, subject, _, severity, _, category, _, labels, _, content, rfl⟩

/-- An object with the member of a comment is read as one, whatever else it has. -/
theorem comment_of_members {text : String}
    (among : underFields commentFields members = remark text) :
    comment (ofMembers members) = .ok text := by
  have fits : ∀ member ∈ remark text, IsTaken commentFields member := by
    simp only [remark, List.forall_mem_cons]
    exact ⟨isTaken_of_read rfl (asText_ofText _), nofun⟩
  obtain ⟨given, read, values⟩ := exists_asRecord_among commentFields among (by simp [remark]) fits
    (by simp [commentFields, Field.of, remark])
  have content : given.read "content" asText = .ok text :=
    Given.read_of_read (values "content" _ (by simp [remark])) (asText_ofText _)
  simp only [comment, Except.bind_eq_ok]
  exact ⟨given, read, content⟩

end Submission

namespace Presentation

variable {members : List (String × Json)}

/-- An object of texts and of lists of texts is read back from what is written of it. -/
theorem decode_members {α : Type} {reader : Reader α} {result : α}
    (texts : ∀ member ∈ members,
      (∃ text, member.2 = ofText text) ∨ ∃ labels, member.2 = ofTexts labels)
    (read : reader (ofMembers members) = .ok result) :
    decode reader (ofMembers members).write = .ok result := by
  rw [decode_of_isText (isText_of_isWhole (isWhole_of_texts texts)), read]

/-- A customer that is shown is read as a submission of its fields. -/
theorem decode_customer (row : CustomerRow) :
    decode Submission.profile (customer row).write = .ok row.fields :=
  decode_members (by simp [named, profile, times]) (Submission.profile_of_members
    (by simp [underFields, Submission.profileFields, Field.of, named, profile, times]))

/-- A project that is shown is read as a submission of its fields. -/
theorem decode_project (row : ProjectRow) :
    decode Submission.profile (project row).write = .ok row.fields :=
  decode_members (by simp [named, profile, times]) (Submission.profile_of_members
    (by simp [underFields, Submission.profileFields, Field.of, named, profile, times]))

/-- An issue that is shown is read as a submission of its fields. Its state and its reporter are
passed over. -/
theorem decode_issue (row : IssueRow) :
    decode Submission.issue (issue row).write = .ok row.fields :=
  decode_members (by simp [named, times]) (Submission.issue_of_members
    (by simp [underFields, Submission.issueFields, Field.of, named, report, times]))

/-- A comment that is shown is read as a submission of its content. Its author is passed over. -/
theorem decode_comment (row : CommentRow) :
    decode Submission.comment (comment row).write = .ok row.fields :=
  decode_members (by simp [named, times]) (Submission.comment_of_members
    (by simp [underFields, Submission.commentFields, Field.of, named, remark, times]))

end Presentation

end Api

end IssueTracker

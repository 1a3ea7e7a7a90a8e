import IssueTracker.Store.Collection

/-!
# The four kinds of record

Customers stand by themselves and have unique names. Projects belong to a customer and have unique
names there. Issues belong to a project and know who reported them; comments belong to an issue
and know their author.
-/

namespace IssueTracker.Store

/-- What a caller supplies for a customer or a project. -/
structure Profile where
  name : String
  description : String
  labels : List String
deriving Repr, DecidableEq

/-- What a caller supplies for an issue. -/
structure IssueFields where
  subject : String
  severity : String
  category : String
  labels : List String
  content : String
deriving Repr, DecidableEq

/-- What the service decides when an issue is created. -/
structure IssueOrigin where
  /-- The subject of the token that created it. -/
  reporter : String
  state : String
deriving Repr, DecidableEq

/-- The project that an issue belongs to. -/
structure IssueScope where
  customer : Uuid
  project : Uuid
deriving Repr, DecidableEq

/-- The issue that a comment belongs to. -/
structure CommentScope where
  customer : Uuid
  project : Uuid
  issue : Uuid
deriving Repr, DecidableEq

/-- The rules of customers. -/
def customerKind : Kind Profile := ⟨"customer", Profile.name, true⟩

/-- The rules of projects. -/
def projectKind : Kind Profile := ⟨"project", Profile.name, true⟩

/-- The rules of issues. -/
def issueKind : Kind IssueFields := ⟨"issue", IssueFields.subject, false⟩

/-- The rules of comments, whose only field is their content. -/
def commentKind : Kind String := ⟨"comment", id, false⟩

/-- The state of every issue at its creation. -/
def createdState : String := "created"

/-- A stored customer. -/
abbrev CustomerRow := Row Unit Unit Profile

/-- A stored project; its scope is its customer. -/
abbrev ProjectRow := Row Uuid Unit Profile

/-- A stored issue. -/
abbrev IssueRow := Row IssueScope IssueOrigin IssueFields

/-- A stored comment, with its author and its content. -/
abbrev CommentRow := Row CommentScope String String

/-- The stores of the service. -/
structure Stores where
  customers : Collection Unit Unit Profile := []
  projects : Collection Uuid Unit Profile := []
  issues : Collection IssueScope IssueOrigin IssueFields := []
  comments : Collection CommentScope String String := []
deriving Repr, DecidableEq

/-- Stores without rows. -/
def Stores.empty : Stores := {}

end IssueTracker.Store

import IssueTracker.Proofs.Api.Asking
import IssueTracker.Proofs.Store.DataModel
import IssueTracker.Proofs.Text.Blank

/-!
# What operations have the stores do

What is stored of a submission obeys the rules of its kind, as nothing else passes the checks. So
every errand that an operation comes to is one for the tenant that supplies only what obeys the
rules, and that looks up the parents of its call itself.
-/

namespace IssueTracker.Api

open Store

namespace Submission

/-- A field passes its check exactly if something is left of it when it is trimmed. -/
theorem required_eq_ok_iff {name value : String} {passed : Unit} :
    required name value = .ok passed ↔ Blank.trim value ≠ "" := by
  rw [Ne, Blank.trim_eq_empty_iff, required]
  cases Blank.isAllBlank value <;> simp

/-- A customer or a project passes its check exactly if its name is not blank, and is then stored
with the trimmed name. -/
theorem checkProfile_eq_ok_iff (submitted stored : Profile) :
    checkProfile submitted = .ok stored ↔
      Blank.trim submitted.name ≠ "" ∧
        { submitted with name := Blank.trim submitted.name } = stored := by
  simp [checkProfile, Except.bind_eq_ok, required_eq_ok_iff, pure, Except.pure]

/-- An issue passes its check exactly if the fields are filled that have to be, and is then stored
as it was submitted. -/
theorem checkIssue_eq_ok_iff (submitted stored : IssueFields) :
    checkIssue submitted = .ok stored ↔ submitted.IsFilled ∧ submitted = stored := by
  simp only [checkIssue, Except.bind_eq_ok, required_eq_ok_iff, pure, Except.pure, Except.ok.injEq]
  constructor
  · rintro ⟨_, subject, _, severity, _, category, same⟩
    exact ⟨⟨subject, severity, category⟩, same⟩
  · rintro ⟨⟨subject, severity, category⟩, same⟩
    exact ⟨(), subject, (), severity, (), category, same⟩

/-- A comment passes its check exactly if it is not blank, and is then stored as it was submitted.
-/
theorem checkComment_eq_ok_iff (submitted stored : String) :
    checkComment submitted = .ok stored ↔ Blank.trim submitted ≠ "" ∧ submitted = stored := by
  simp [checkComment, Except.bind_eq_ok, required_eq_ok_iff, pure, Except.pure]

/-- What is stored of a submission passes its check again, as it is. -/
theorem checkProfile_of_isNamed {stored : Profile} (named : stored.IsNamed) :
    checkProfile stored = .ok stored := by
  rw [checkProfile_eq_ok_iff, named.trimmed]
  exact ⟨named.nonempty, rfl⟩

theorem checkIssue_of_isFilled {stored : IssueFields} (filled : stored.IsFilled) :
    checkIssue stored = .ok stored :=
  (checkIssue_eq_ok_iff _ _).mpr ⟨filled, rfl⟩

theorem checkComment_of_filled {stored : String} (filled : Blank.trim stored ≠ "") :
    checkComment stored = .ok stored :=
  (checkComment_eq_ok_iff _ _).mpr ⟨filled, rfl⟩

end Submission

namespace Occasion

variable {occasion : Occasion}

/-- What is to be stored of a customer or a project has a name. -/
theorem Supplies.isNamed {fields : Profile}
    (supplied : occasion.Supplies Submission.profile Submission.checkProfile fields) :
    fields.IsNamed := by
  obtain ⟨submitted, -, checked⟩ := supplied
  obtain ⟨filled, rfl⟩ := (Submission.checkProfile_eq_ok_iff _ _).mp checked
  exact ⟨filled, Blank.trim_trim submitted.name⟩

/-- What is to be stored of an issue is filled. -/
theorem Supplies.isFilled {fields : IssueFields}
    (supplied : occasion.Supplies Submission.issue Submission.checkIssue fields) :
    fields.IsFilled := by
  obtain ⟨submitted, -, checked⟩ := supplied
  obtain ⟨filled, rfl⟩ := (Submission.checkIssue_eq_ok_iff _ _).mp checked
  exact filled

/-- What is to be stored of a comment is not blank. -/
theorem Supplies.filled {content : String}
    (supplied : occasion.Supplies Submission.comment Submission.checkComment content) :
    Blank.trim content ≠ "" := by
  obtain ⟨submitted, -, checked⟩ := supplied
  obtain ⟨filled, rfl⟩ := (Submission.checkComment_eq_ok_iff _ _).mp checked
  exact filled

/-- What a request asks for is a call for the tenant that supplies only what obeys the rules. -/
theorem Asks.obeys {operation : Operation} {call : StoreCall}
    (asks : occasion.Asks operation call) :
    call.Obeys occasion.tenant := by
  cases asks
  case listCustomers | getCustomer => trivial
  case createCustomer supplied => exact ⟨trivial, supplied.isNamed⟩
  case updateCustomer supplied => exact supplied.isNamed
  case listProjects | getProject | listIssues | getIssue | listComments | getComment =>
    exact ⟨rfl, trivial⟩
  case createProject supplied => exact ⟨rfl, trivial, supplied.isNamed⟩
  case updateProject supplied => exact ⟨rfl, supplied.isNamed⟩
  case createIssue supplied _ => exact ⟨rfl, rfl, supplied.isFilled⟩
  case updateIssue supplied => exact ⟨rfl, supplied.isFilled⟩
  case createComment supplied _ => exact ⟨rfl, trivial, supplied.filled⟩
  case updateComment supplied => exact ⟨rfl, supplied.filled⟩

/-- Every errand looks up the parents of its call, which is for the tenant and supplies only what
obeys the rules. -/
theorem obeys_of_errand {operation : Operation} {errand : Errand}
    (passed : occasion.errand operation = .ok errand) :
    errand.IsWhole ∧ errand.call.Obeys occasion.tenant := by
  obtain ⟨-, call, asks, rfl⟩ := errand_eq_ok_iff.mp passed
  exact ⟨call.isWhole_errand, call.call_errand.symm ▸ asks.obeys⟩

end Occasion

end IssueTracker.Api

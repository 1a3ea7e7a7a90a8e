import IssueTracker.Json.Decode
import IssueTracker.Proofs.Except
import Mathlib.Data.List.Basic

/-!
# The members of an object by name

Readers that know different fields collect different members of one object. What each of them has
for a field that it knows is the first member of that name, so readers that know a field in common
have the same value for it, whatever else they know, and whatever they think of other members.
-/

namespace IssueTracker.Json

/-- The value of the first member whose key names a text. -/
def memberOf (members : List (Bytes × Json)) (name : String) : Option Json :=
  (members.find? fun member => text? member.1 = some name).map (·.2)

/-- There is nothing under a name exactly if no member has it. -/
theorem memberOf_eq_none_iff {members : List (Bytes × Json)} {name : String} :
    memberOf members name = none ↔ ∀ member ∈ members, text? member.1 ≠ some name := by
  simp [memberOf]

/-- The value given for a field. -/
def Given.value? (given : Given) (name : String) : Option Json :=
  (given.find? (·.1 = name)).map (·.2)

section Given

variable {α : Type} {given same : Given} {name : String} {reader : Reader α}

/-- A field that may be left out is read from the value given for it. -/
theorem Given.readOr_eq (default : α) :
    given.readOr name reader default =
      match given.value? name with
      | some value => reader value
      | none => .ok default := by
  cases found : given.find? (·.1 = name) with
  | none => simp [Given.readOr, Given.value?, found]
  | some entry => simp [Given.readOr, Given.value?, found]

/-- A required field is read from the value given for it. -/
theorem Given.read_eq :
    given.read name reader =
      match given.value? name with
      | some value => reader value
      | none => .error (.missing name) := by
  cases found : given.find? (·.1 = name) with
  | none => simp [Given.read, Given.value?, found]
  | some entry => simp [Given.read, Given.value?, found]

/-- What is read of a field does not depend on what is given for others. -/
theorem Given.readOr_congr (alike : same.value? name = given.value? name) (default : α) :
    same.readOr name reader default = given.readOr name reader default := by
  rw [Given.readOr_eq, Given.readOr_eq, alike]

theorem Given.read_congr (alike : same.value? name = given.value? name) :
    same.read name reader = given.read name reader := by
  rw [Given.read_eq, Given.read_eq, alike]

/-- A field that is given is read, whether it may be left out or not. -/
theorem Given.readOr_of_read {default result : α} {value : Json}
    (found : given.value? name = some value) (read : reader value = .ok result) :
    given.readOr name reader default = .ok result := by
  rw [Given.readOr_eq, found]
  exact read

theorem Given.read_of_read {result : α} {value : Json}
    (found : given.value? name = some value) (read : reader value = .ok result) :
    given.read name reader = .ok result := by
  rw [Given.read_eq, found]
  exact read

end Given

/-- A value other than `null` is read alike whether it may be `null` or not. -/
theorem asOptional_of_read {α : Type} {reader : Reader α} {value : Json} {result : α}
    (present : value ≠ .null) (read : reader value = .ok result) :
    asOptional reader value = .ok (some result) := by
  cases value with
  | null => exact absurd rfl present
  | bool | number | string | array | object | broken => simp only [asOptional, read, Except.map]

/-- A text yields a value if it is read in full and the reader accepts what it is. -/
theorem decode_eq_ok_iff {α : Type} {reader : Reader α} {text : Bytes} {value : α} :
    decode reader text = .ok value ↔
      reader (read text).root = .ok value ∧ (read text).complete = true := by
  cases accepted : reader (read text).root with
  | error fault => simp [decode, accepted]
  | ok found =>
    cases whole : (read text).complete with
    | false => simp [decode, accepted, whole]
    | true => simp [decode, accepted, whole]

/-- What was collected for a field is what was given before, or else the first member of its
name. -/
theorem value?_of_collectMembers {fields : List Field} {other? : Json → Option Fault}
    {given collected : Given} {members : List (Bytes × Json)} {name : String}
    (known : ∃ field ∈ fields, field.name = name)
    (done : collectMembers fields other? given members = .ok collected) :
    collected.value? name = (given.value? name <|> memberOf members name) := by
  induction members generalizing given with
  | nil =>
    simp only [collectMembers, Except.ok.injEq] at done
    simp [done, memberOf]
  | cons member rest inductionHypothesis =>
    obtain ⟨key, value⟩ := member
    simp only [collectMembers] at done
    split at done
    · cases done
    · next text named =>
      split at done
      · next unknown =>
        -- A member that is no field has another name than the field.
        have different : text ≠ name := by
          rintro rfl
          obtain ⟨field, member, same⟩ := known
          have absent := List.find?_eq_none.mp unknown field member
          simp [same] at absent
        split at done
        · cases done
        · rw [inductionHypothesis done]
          simp [memberOf, named, different]
      · next field found =>
        split at done
        · cases done
        · next fresh =>
          split at done
          · cases done
          · rw [inductionHypothesis done]
            by_cases same : text = name
            · -- Nothing was given under this name before, so the member comes first.
              subst same
              have empty : given.find? (·.1 = text) = none := by
                rw [List.find?_eq_none]
                intro entry inside same
                exact fresh (List.any_eq_true.mpr ⟨entry, inside, same⟩)
              simp [Given.value?, memberOf, named, empty]
            · simp [Given.value?, memberOf, named, same]

/-- An object is read as a record if its members are collected, it is closed and no required field
is missing. -/
theorem asMembers_eq_ok_iff {fields : List Field} {members : List (Bytes × Json)} {closed : Bool}
    {given : Given} :
    asMembers fields members closed = .ok given ↔
      collectMembers fields passedOver [] members = .ok given ∧ closed = true ∧
        missingField? fields given = none := by
  cases collected : collectMembers fields passedOver [] members with
  | error fault => simp [asMembers, collected]
  | ok found =>
    cases closed with
    | false => simp [asMembers, collected]
    | true =>
      cases missing : missingField? fields found with
      | none =>
        simp only [asMembers, collected, missing, Bool.not_true, Bool.false_eq_true, if_false,
          Except.ok.injEq, true_and]
        constructor
        · rintro rfl
          exact ⟨rfl, missing⟩
        · exact And.left
      | some field =>
        simp only [asMembers, collected, missing, Bool.not_true, Bool.false_eq_true, if_false,
          Except.ok.injEq, true_and, reduceCtorEq, false_iff]
        rintro ⟨rfl, none⟩
        rw [missing] at none
        cases none

end IssueTracker.Json

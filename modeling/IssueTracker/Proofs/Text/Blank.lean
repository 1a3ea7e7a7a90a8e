import IssueTracker.Text.Blank
import Mathlib.Data.List.DropRight

/-!
# Trimmed texts

A trimmed text has no white space to be trimmed off: trimming leaves a text as it is exactly if it
neither begins nor ends with white space. It leaves nothing of a text exactly if there is nothing
in it but white space, and it never adds anything.
-/

namespace IssueTracker.Blank

/-- The characters of a trimmed text. -/
theorem toList_trim (s : String) :
    (trim s).toList = (s.toList.dropWhile isBlank).rdropWhile isBlank := by
  simp [trim, trimStart, List.rdropWhile]

section Dropping

variable {α : Type} {p : α → Bool} {first : α} {rest : List α}

/-- What is left when items are dropped at the front begins with one that is not to be dropped. -/
theorem not_of_dropWhile_eq_cons {items : List α} (left : items.dropWhile p = first :: rest) :
    p first = false := by
  have head := List.head?_dropWhile_not p items
  simpa [left] using head

/-- What is dropped at the end leaves the first item, if that is not to be dropped. -/
theorem rdropWhile_cons_of_not (kept : p first = false) :
    (first :: rest).rdropWhile p = first :: rest.rdropWhile p := by
  simp only [List.rdropWhile, List.reverse_cons, List.dropWhile_append]
  split
  · next none => simp [List.isEmpty_iff.mp none, kept]
  · simp

end Dropping

/-- To trim a trimmed text changes nothing. -/
theorem trim_trim (s : String) : trim (trim s) = trim s := by
  rw [← String.toList_inj, toList_trim, toList_trim]
  cases left : s.toList.dropWhile isBlank with
  | nil => rfl
  | cons first rest =>
    have kept := not_of_dropWhile_eq_cons left
    have front : (first :: rest.rdropWhile isBlank).dropWhile isBlank =
        first :: rest.rdropWhile isBlank := by
      simp [kept]
    rw [rdropWhile_cons_of_not kept, front, rdropWhile_cons_of_not kept, List.rdropWhile_idempotent]

/-- Nothing is left of a text of white space only, and of no other. -/
theorem trim_eq_empty_iff (s : String) : trim s = "" ↔ isAllBlank s = true := by
  have blank : isAllBlank s = true ↔ s.toList.dropWhile isBlank = [] := by
    rw [isAllBlank, List.all_eq_true, List.dropWhile_eq_nil_iff]
  rw [← String.toList_inj, toList_trim, String.toList_empty, blank]
  cases left : s.toList.dropWhile isBlank with
  | nil => simp
  | cons first rest => simp [rdropWhile_cons_of_not (not_of_dropWhile_eq_cons left)]

/-- Whether a text neither begins nor ends with white space. -/
structure IsTrimmed (s : String) : Prop where
  first : ∀ c rest, s.toList = c :: rest → isBlank c = false
  last : ∀ front c, s.toList = front ++ [c] → isBlank c = false

/-- Trimming does not change a text exactly if it neither begins nor ends with white space. -/
theorem trim_eq_self_iff (s : String) : trim s = s ↔ IsTrimmed s := by
  rw [← String.toList_inj, toList_trim]
  constructor
  · intro unchanged
    constructor
    case first =>
      intro c rest written
      cases left : s.toList.dropWhile isBlank with
      | nil =>
        rw [left, written] at unchanged
        cases unchanged
      | cons first others =>
        have kept := not_of_dropWhile_eq_cons left
        rw [left, rdropWhile_cons_of_not kept, written] at unchanged
        obtain ⟨rfl, -⟩ := List.cons.inj unchanged
        exact kept
    case last =>
      intro front c written
      rw [written] at unchanged
      have nonempty : ((front ++ [c]).dropWhile isBlank).rdropWhile isBlank ≠ [] := by
        simp [unchanged]
      have kept := List.rdropWhile_last_not isBlank _ nonempty
      simpa [unchanged] using kept
  · rintro ⟨first, last⟩
    have front : s.toList.dropWhile isBlank = s.toList := by
      cases written : s.toList with
      | nil => rfl
      | cons c rest => rw [List.dropWhile_cons_of_neg (by simp [first c rest written])]
    rw [front, List.rdropWhile_eq_self_iff]
    intro nonempty
    simp [last _ _ (List.dropLast_concat_getLast nonempty).symm]

/-- A trimmed text is one of them. -/
theorem isTrimmed_trim (s : String) : IsTrimmed (trim s) := by
  rw [← trim_eq_self_iff]
  exact trim_trim s

/-- What is in a trimmed text was there before. -/
theorem mem_of_mem_trim {s : String} {c : Char} (inside : c ∈ (trim s).toList) : c ∈ s.toList := by
  rw [toList_trim] at inside
  apply (List.dropWhile_suffix isBlank).subset
  exact (List.rdropWhile_prefix isBlank _).subset inside

end IssueTracker.Blank

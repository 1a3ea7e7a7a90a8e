import IssueTracker.Auth.Credential

/-!
# The form of a credential

A credential is found in a header exactly if the header is the scheme, one space and a token that
is not empty. Nothing else about the header matters, and nothing in it is trimmed.
-/

namespace IssueTracker.Auth

/-- What remains is what was put behind the mark. -/
theorem after?_eq_some_iff (mark text rest : List Char) :
    after? mark text = some rest ↔ text = mark ++ rest := by
  induction mark generalizing text with
  | nil => simp [after?]
  | cons m mark inductionHypothesis =>
    cases text with
    | nil => simp [after?]
    | cons c text =>
      by_cases same : m = c
      · simp [after?, same, inductionHypothesis]
      · simp [after?, same, Ne.symm same]

/-- The characters behind the scheme and one space. -/
theorem behind_scheme_iff (scheme header : String) (rest : List Char) :
    ((after? scheme.toList header.toList).bind (after? [' '])) = some rest ↔
      header.toList = scheme.toList ++ ' ' :: rest := by
  rw [Option.bind_eq_some_iff]
  constructor
  · rintro ⟨middle, behindScheme, behindSpace⟩
    rw [after?_eq_some_iff] at behindScheme behindSpace
    rw [behindScheme, behindSpace]
    rfl
  · intro written
    refine ⟨' ' :: rest, ?_, ?_⟩
    · exact (after?_eq_some_iff _ _ _).mpr written
    · exact (after?_eq_some_iff _ _ _).mpr rfl

/-- A header yields a token exactly if it is the scheme, one space and the token, and the token is
not empty. -/
theorem credential_eq_ok_iff (header : Option String) (scheme token : String) :
    credential header scheme = .ok token ↔
      header = some (scheme ++ " " ++ token) ∧ token ≠ "" := by
  cases header with
  | none => simp [credential]
  | some header =>
    have written : header = scheme ++ " " ++ token ↔
        ((after? scheme.toList header.toList).bind (after? [' '])) = some token.toList := by
      rw [behind_scheme_iff, ← String.toList_inj]
      simp
    simp only [credential, Option.bind_some, Option.some.injEq, written]
    cases found : (after? scheme.toList header.toList).bind (after? [' ']) with
    | none => simp
    | some rest =>
      cases rest with
      | nil =>
        simp
      | cons c rest =>
        simp only [Except.ok.injEq, Option.some.injEq]
        constructor
        · rintro rfl
          simp
        · rintro ⟨same, -⟩
          simp [same]

/-- Any other header is reported as one without a token. -/
theorem missing_of_credential {header : Option String} {scheme : String} {refusal : AuthError}
    (refused : credential header scheme = .error refusal) :
    refusal = .tokenMissingOrMalformed := by
  unfold credential at refused
  split at refused <;> cases refused
  rfl

end IssueTracker.Auth

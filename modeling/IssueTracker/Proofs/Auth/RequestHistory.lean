import IssueTracker.Api.Access
import Mathlib.Data.List.Induction

/-!
# What travels with a request

Attributes are bound to a request, stored one by one or thrown away, in any order and under any key.
Only two keys are ever asked, and what is found under one of them is what was stored there last
since the attributes were started anew. A caller who is not found there, or for whom no scopes are
found, passes no check for a scope.
-/

namespace IssueTracker.Auth.RequestState

/-- What can happen to the attributes of a request. -/
inductive Step
  | bind (identity : Identity) (required : List String)
  | insert (key : String) (value : Attribute)
  | reset
deriving Repr, DecidableEq

namespace Step

/-- The attributes after a step. -/
def apply (state : RequestState) : Step → RequestState
  | bind identity required => RequestState.bind identity required
  | insert key value => state.insert key value
  | reset => empty

/-- Whether a step throws away what was stored before. -/
def startsAnew : Step → Bool
  | bind _ _ | reset => true
  | insert _ _ => false

/-- What a step stores under a key. -/
def stored? (key : String) : Step → Option Attribute
  | bind identity required =>
    if key = scopesKey then some (.required required)
    else if key = identityKey then some (.identity identity)
    else none
  | insert other value => if key = other then some value else none
  | reset => none

end Step

/-- The attributes after a history. -/
def after (steps : List Step) : RequestState := steps.foldl Step.apply empty

/-- Whether a value is the last that was stored under a key since the attributes were started anew.
-/
def LastStored (key : String) (value : Attribute) (steps : List Step) : Prop :=
  ∃ before step behind, steps = before ++ step :: behind ∧ step.stored? key = some value ∧
    ∀ later ∈ behind, later.stored? key = none ∧ later.startsAnew = false

section Lookup

variable {key : String} {value : Attribute} {steps : List Step} {step : Step}

@[simp] theorem get?_empty (key : String) : empty.get? key = none := rfl

/-- What is stored under a key is found there, and nowhere else. -/
@[simp] theorem get?_insert (state : RequestState) (key other : String) (value : Attribute) :
    (state.insert other value).get? key = if key = other then some value else state.get? key := by
  by_cases same : other = key
  · simp [get?, insert, same]
  · simp [get?, insert, same, Ne.symm same]

/-- After a step there is under a key what the step stores there, or else what was there before,
unless the step throws it away. -/
theorem get?_apply (state : RequestState) (step : Step) :
    (step.apply state).get? key =
      (step.stored? key).or (if step.startsAnew then none else state.get? key) := by
  cases step with
  | bind identity required =>
    simp only [Step.apply, Step.stored?, RequestState.bind, get?_insert, get?_empty]
    split
    · rfl
    · split <;> rfl
  | insert other value =>
    simp only [Step.apply, Step.stored?, get?_insert]
    split <;> rfl
  | reset => rfl

/-- Before the first step nothing was stored. -/
theorem not_lastStored_nil : ¬ LastStored key value [] := by
  rintro ⟨before, step, behind, whole, -⟩
  simp at whole

/-- What the last step stores was stored last; if it stores nothing and throws nothing away, this is
what was stored last before. -/
theorem lastStored_concat :
    LastStored key value (steps ++ [step]) ↔
      step.stored? key = some value ∨
        step.stored? key = none ∧ step.startsAnew = false ∧ LastStored key value steps := by
  constructor
  · rintro ⟨before, storing, behind, whole, stored, quiet⟩
    -- The last step is the one that stores the value, or it comes behind that one.
    cases behind using List.reverseRecOn with
    | nil =>
      obtain ⟨-, same⟩ := List.append_inj' whole rfl
      obtain rfl : step = storing := by simpa using same
      exact .inl stored
    | append_singleton behind final =>
      rw [← List.cons_append, ← List.append_assoc] at whole
      obtain ⟨rfl, same⟩ := List.append_inj' whole rfl
      obtain rfl : step = final := by simpa using same
      obtain ⟨nothing, continued⟩ := quiet step (by simp)
      exact .inr ⟨nothing, continued, before, storing, behind, rfl, stored,
        fun later inside => quiet later (by simp [inside])⟩
  · rintro (stored | ⟨nothing, continued, before, storing, behind, rfl, stored, quiet⟩)
    · exact ⟨steps, step, [], rfl, stored, by simp⟩
    · refine ⟨before, storing, behind ++ [step], by simp, stored, ?_⟩
      intro later inside
      rcases List.mem_append.mp inside with inside | inside
      · exact quiet later inside
      · obtain rfl := List.mem_singleton.mp inside
        exact ⟨nothing, continued⟩

/-- After a history there is under a key what was stored there last. -/
theorem get?_after : (after steps).get? key = some value ↔ LastStored key value steps := by
  induction steps using List.reverseRecOn with
  | nil => exact iff_of_false nofun not_lastStored_nil
  | append_singleton steps step inductionHypothesis =>
    have last : after (steps ++ [step]) = step.apply (after steps) := by
      simp [after, List.foldl_append]
    rw [last, get?_apply, lastStored_concat, ← inductionHypothesis]
    cases step.stored? key <;> cases step.startsAnew <;> simp

/-- After a history there is nothing under a key exactly if nothing was stored there. -/
theorem get?_after_eq_none :
    (after steps).get? key = none ↔ ∀ value, ¬ LastStored key value steps := by
  simp only [← get?_after, Option.eq_none_iff_forall_ne_some, ne_eq]

end Lookup

section Accessors

variable {state other : RequestState} {identity : Identity} {scopes : List String}

/-- The caller is found where an identity is stored. -/
theorem identity_eq_ok_iff :
    state.identity = .ok identity ↔ state.get? identityKey = some (.identity identity) := by
  fun_cases RequestState.identity state <;> simp [*]

theorem identity_eq_mismatch_iff :
    state.identity = .error .identityTypeMismatch ↔
      ∃ scopes, state.get? identityKey = some (.required scopes) := by
  fun_cases RequestState.identity state <;> simp [*]

theorem identity_eq_notFound_iff :
    state.identity = .error .identityNotFound ↔ state.get? identityKey = none := by
  fun_cases RequestState.identity state <;> simp [*]

/-- The required scopes are found where such are stored. -/
theorem requiredScopes_eq_ok_iff :
    state.requiredScopes = .ok scopes ↔ state.get? scopesKey = some (.required scopes) := by
  fun_cases requiredScopes state <;> simp [*]

theorem requiredScopes_eq_mismatch_iff :
    state.requiredScopes = .error .scopesTypeMismatch ↔
      ∃ identity, state.get? scopesKey = some (.identity identity) := by
  fun_cases requiredScopes state <;> simp [*]

theorem requiredScopes_eq_notFound_iff :
    state.requiredScopes = .error .scopesNotFound ↔ state.get? scopesKey = none := by
  fun_cases requiredScopes state <;> simp [*]

/-- The caller may do what requires a scope that was granted, if both are found. -/
theorem authorize_iff :
    state.authorize = true ↔
      ∃ identity required, state.identity = .ok identity ∧ state.requiredScopes = .ok required ∧
        ∃ scope ∈ identity.scopes, scope ∈ required := by
  fun_cases authorize state with
  | case1 identity required asked found => simp [found, asked, hasScope]
  | case2 missing =>
    simp only [Bool.false_eq_true, false_iff]
    rintro ⟨identity, required, found, asked, -⟩
    exact missing identity required found asked

/-- The check for a scope is passed by who may go on, and by nobody else. -/
theorem requireScope_eq_ok_iff : state.requireScope = .ok () ↔ state.authorize = true := by
  cases allowed : state.authorize <;> simp [requireScope, allowed]

/-- What anybody can find out about the attributes of a request. -/
structure View where
  identity : Except AuthStateError Identity
  requiredScopes : Except AuthStateError (List String)
  authorized : Bool
  checked : Except Api.ApiError Unit
  subject : Except Api.ApiError String

/-- The view of certain attributes. -/
def view (state : RequestState) : View :=
  ⟨state.identity, state.requiredScopes, state.authorize, state.requireScope, state.subject⟩

/-- The view of attributes depends on what is under the two keys only. -/
theorem view_congr (sameIdentity : state.get? identityKey = other.get? identityKey)
    (sameScopes : state.get? scopesKey = other.get? scopesKey) :
    state.view = other.view := by
  have identity : state.identity = other.identity := by
    simp only [RequestState.identity, sameIdentity]
  have required : state.requiredScopes = other.requiredScopes := by
    simp only [requiredScopes, sameScopes]
  have authorized : state.authorize = other.authorize := by
    simp only [authorize, identity, required]
  simp only [view, identity, required, authorized, requireScope, subject]

end Accessors

section Histories

variable {key another : String} {value : Attribute} {before behind : List Step}

/-- What two states have under a key in common, they have in common after any further steps. -/
theorem get?_foldl_congr {state other : RequestState} (same : state.get? key = other.get? key) :
    (behind.foldl Step.apply state).get? key = (behind.foldl Step.apply other).get? key := by
  induction behind generalizing state other with
  | nil => exact same
  | cons step behind inductionHypothesis =>
    apply inductionHypothesis
    rw [get?_apply, get?_apply, same]

/-- What is stored under a key, whenever that is, is of no matter under another. -/
theorem get?_after_insert (different : key ≠ another) :
    (after (before ++ .insert another value :: behind)).get? key =
      (after (before ++ behind)).get? key := by
  simp only [after, List.foldl_append, List.foldl_cons]
  apply get?_foldl_congr
  simp [Step.apply, different]

end Histories

/-- After any history the caller is the identity that was stored last under its key since the
attributes were started anew, and the required scopes are the ones stored last under theirs. If what
was stored there is of the other kind, it is a mismatch, and if nothing was, it is not found. What
is stored under any other key, at any time, changes nothing that can be found out. The caller is let
through exactly if both are found and one of the granted scopes is required, and is told otherwise
that none is, and nothing else. -/
theorem history_decides (steps : List Step) :
    ((∀ identity, (after steps).identity = .ok identity ↔
          LastStored identityKey (.identity identity) steps) ∧
        ((after steps).identity = .error .identityTypeMismatch ↔
          ∃ scopes, LastStored identityKey (.required scopes) steps) ∧
        ((after steps).identity = .error .identityNotFound ↔
          ∀ value, ¬ LastStored identityKey value steps)) ∧
      ((∀ scopes, (after steps).requiredScopes = .ok scopes ↔
          LastStored scopesKey (.required scopes) steps) ∧
        ((after steps).requiredScopes = .error .scopesTypeMismatch ↔
          ∃ identity, LastStored scopesKey (.identity identity) steps) ∧
        ((after steps).requiredScopes = .error .scopesNotFound ↔
          ∀ value, ¬ LastStored scopesKey value steps)) ∧
      (∀ before key value behind, steps = before ++ .insert key value :: behind →
        key ≠ identityKey → key ≠ scopesKey →
        (after steps).view = (after (before ++ behind)).view) ∧
      ((after steps).authorize = true ↔
        ∃ identity required, (after steps).identity = .ok identity ∧
          (after steps).requiredScopes = .ok required ∧
          ∃ scope ∈ identity.scopes, scope ∈ required) ∧
      ((after steps).requireScope = .ok () ↔ (after steps).authorize = true) ∧
      ((after steps).authorize = false →
        (after steps).requireScope = .error .insufficientScope) := by
  refine ⟨⟨?_, ?_, ?_⟩, ⟨?_, ?_, ?_⟩, ?_, authorize_iff, requireScope_eq_ok_iff, ?_⟩
  · intro identity
    rw [identity_eq_ok_iff, get?_after]
  · simp only [identity_eq_mismatch_iff, get?_after]
  · rw [identity_eq_notFound_iff, get?_after_eq_none]
  · intro scopes
    rw [requiredScopes_eq_ok_iff, get?_after]
  · simp only [requiredScopes_eq_mismatch_iff, get?_after]
  · rw [requiredScopes_eq_notFound_iff, get?_after_eq_none]
  · rintro before key value behind rfl noIdentity noScopes
    exact view_congr (get?_after_insert noIdentity.symm) (get?_after_insert noScopes.symm)
  · intro refused
    simp [requireScope, refused]

/-- Scopes that are required anew are the ones that count, and what is stored elsewhere is not. -/
theorem restated_decides :
    (after [.bind ⟨"u1", ["a"]⟩ ["a"], .insert "trace" (.required []),
        .insert scopesKey (.required ["b"])]).requireScope = .error .insufficientScope ∧
      (after [.bind ⟨"u1", ["a"]⟩ ["a"], .insert "trace" (.required []),
          .insert scopesKey (.required ["b"])]).view =
        (after [.bind ⟨"u1", ["a"]⟩ ["a"], .insert scopesKey (.required ["b"])]).view := by
  obtain ⟨-, -, unseen, -, -, refused⟩ := history_decides [.bind ⟨"u1", ["a"]⟩ ["a"],
    .insert "trace" (.required []), .insert scopesKey (.required ["b"])]
  refine ⟨refused (by decide), ?_⟩
  exact unseen [.bind ⟨"u1", ["a"]⟩ ["a"]] "trace" (.required []) _ rfl (by decide) (by decide)

end IssueTracker.Auth.RequestState

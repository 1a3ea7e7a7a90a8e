/-!
# Steps in sequence

What it means that steps in sequence succeed or fail, and what they can fail for. The checks of a
request and those of a token are such sequences; these laws take them apart step by step.
-/

namespace Except

variable {ε α β : Type}

/-- Two steps in sequence succeed if the first does and the second does on its value. -/
theorem bind_eq_ok {first : Except ε α} {second : α → Except ε β} {value : β} :
    (first >>= second) = .ok value ↔
      ∃ between, first = .ok between ∧ second between = .ok value := by
  cases first with
  | error refusal => simp [bind, Except.bind]
  | ok between => simp [bind, Except.bind]

/-- Two steps in sequence fail if the first does, or the second does on its value. -/
theorem bind_eq_error {first : Except ε α} {second : α → Except ε β} {refusal : ε} :
    (first >>= second) = .error refusal ↔
      first = .error refusal ∨
        ∃ between, first = .ok between ∧ second between = .error refusal := by
  cases first with
  | error refusal => simp [bind, Except.bind]
  | ok between => simp [bind, Except.bind]

/-- Taking a step on every item of a list fails only for what the step fails for. -/
theorem mapM_fails {step : α → Except ε β} {reason : ε → Prop}
    (reasons : ∀ item refusal, step item = .error refusal → reason refusal) {items : List α}
    {refusal : ε} (refused : items.mapM step = .error refusal) :
    reason refusal := by
  induction items with
  | nil => cases refused
  | cons item items inductionHypothesis =>
    simp only [List.mapM_cons, bind_eq_error] at refused
    rcases refused with first | ⟨_, _, others | ⟨_, _, returned⟩⟩
    · exact reasons item refusal first
    · exact inductionHypothesis others
    · cases returned

/-- Taking a step on every item of a list gives as many values as there are items. -/
theorem length_of_mapM {step : α → Except ε β} {items : List α} {values : List β}
    (done : items.mapM step = .ok values) :
    values.length = items.length := by
  induction items generalizing values with
  | nil =>
    cases done
    rfl
  | cons item items inductionHypothesis =>
    simp only [List.mapM_cons, bind_eq_ok] at done
    obtain ⟨value, _, others, rest, returned⟩ := done
    cases returned
    simp [inductionHypothesis rest]

/-- Taking a step on every item of a list fails for what it fails for on the first item on which
it does. -/
theorem mapM_eq_error_iff {step : α → Except ε β} {items : List α} {refusal : ε} :
    items.mapM step = .error refusal ↔
      ∃ before item after, items = before ++ item :: after ∧
        (∀ earlier ∈ before, ∃ value, step earlier = .ok value) ∧ step item = .error refusal := by
  induction items with
  | nil => simp [pure, Except.pure]
  | cons first items inductionHypothesis =>
    simp only [List.mapM_cons, bind_eq_error]
    constructor
    · rintro (failed | ⟨value, passed, failed | ⟨_, _, returned⟩⟩)
      · exact ⟨[], first, items, rfl, by simp, failed⟩
      · obtain ⟨before, item, after, rfl, earlier, failed⟩ := inductionHypothesis.mp failed
        refine ⟨first :: before, item, after, rfl, ?_, failed⟩
        simpa using ⟨⟨value, passed⟩, earlier⟩
      · cases returned
    · rintro ⟨before, item, after, shape, earlier, failed⟩
      cases before with
      | nil =>
        obtain ⟨rfl, rfl⟩ : first = item ∧ items = after := by simpa using shape
        exact .inl failed
      | cons head before =>
        obtain ⟨rfl, rfl⟩ : first = head ∧ items = before ++ item :: after := by simpa using shape
        obtain ⟨value, passed⟩ := earlier first (by simp)
        have later : ∀ other ∈ before, ∃ value, step other = .ok value := fun other member =>
          earlier other (by simp [member])
        exact .inr ⟨value, passed,
          .inl (inductionHypothesis.mpr ⟨before, item, after, rfl, later, failed⟩)⟩

/-- Whether a step fails for certain reasons only. -/
def FailsOnly (reason : ε → Prop) (step : Except ε α) : Prop :=
  ∀ refusal, step = .error refusal → reason refusal

section Reasons

variable {reason : ε → Prop}

theorem failsOnly_ok (value : α) : FailsOnly reason (.ok value) := by
  intro refusal failed
  cases failed

theorem failsOnly_error {refusal : ε} (reasoned : reason refusal) :
    FailsOnly reason (.error refusal : Except ε α) := by
  intro other failed
  cases failed
  exact reasoned

/-- Two steps in sequence fail for such reasons if each of them does. -/
theorem FailsOnly.bind {first : Except ε α} {second : α → Except ε β}
    (one : FailsOnly reason first) (next : ∀ value, FailsOnly reason (second value)) :
    FailsOnly reason (first >>= second) := by
  intro refusal failed
  rcases bind_eq_error.mp failed with failed | ⟨value, -, failed⟩
  · exact one refusal failed
  · exact next value refusal failed

end Reasons

end Except

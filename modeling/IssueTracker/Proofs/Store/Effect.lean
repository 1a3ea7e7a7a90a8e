import IssueTracker.Store.Call
import Mathlib.Data.List.Nodup

/-!
# What a call does to a collection

A call leaves a collection as it is, because it only looks or is refused; or it appends a row; or it
puts a revision of a row in the place of that row. Nothing else happens to a collection, and all
that is said of collections after calls rests on this.

Identifiers that were never drawn before keep the rows of a collection apart.
-/

namespace IssueTracker.Store

variable {σ ο φ : Type}

/-- The identifier that a call brings along for a new row. -/
def Call.drawn? : Call ο φ → Option Uuid
  | .create _ _ id _ => some id
  | _ => none

/-- Whether a call only looks at rows. -/
def Call.isLook : Call ο φ → Bool
  | .list _ | .get _ => true
  | _ => false

/-- A row as it is when it is created. -/
def Row.made (scope : σ) (origin : ο) (fields : φ) (id : Uuid) (now : Instant) : Row σ ο φ where
  id := id
  scope := scope
  origin := origin
  fields := fields
  createdAt := now
  updatedAt := now

namespace Collection

/-- Whether the identifiers of all rows are different from each other and among those drawn. -/
structure DrawnFrom (rows : Collection σ ο φ) (drawn : List Uuid) : Prop where
  distinct : (rows.map (·.id)).Nodup
  among : ∀ row ∈ rows, row.id ∈ drawn

/-- Whether a scope has a row with an identifier. -/
def HasRow (rows : Collection σ ο φ) (scope : σ) (id : Uuid) : Prop :=
  ∃ row ∈ rows, row.scope = scope ∧ row.id = id

/-- Without rows there are no identifiers. -/
theorem drawnFrom_nil : DrawnFrom ([] : Collection σ ο φ) [] := ⟨List.nodup_nil, by simp⟩

section Revision

variable {row : Row σ ο φ} {fields : φ} {now : Instant}

@[simp] theorem revised_id : (revised row fields now).id = row.id := rfl

@[simp] theorem revised_scope : (revised row fields now).scope = row.scope := rfl

@[simp] theorem revised_origin : (revised row fields now).origin = row.origin := rfl

@[simp] theorem revised_fields : (revised row fields now).fields = fields := rfl

@[simp] theorem revised_createdAt : (revised row fields now).createdAt = row.createdAt := rfl

@[simp] theorem revised_updatedAt : (revised row fields now).updatedAt = now := rfl

end Revision

variable [DecidableEq σ] {rows : Collection σ ο φ} {kind : Kind φ} {scope : σ} {call : Call ο φ}
  {id : Uuid} {row old : Row σ ο φ} {ids : List Uuid}

/-- A row that is found stands somewhere, and a row that is put in its place leaves the rows before
and behind it alone. -/
theorem exists_of_get? (found : rows.get? scope id = some old) :
    ∃ front back, rows = front ++ old :: back ∧ old.id = id ∧ old.scope = scope ∧
      ∀ new, rows.replace scope id new = front ++ new :: back := by
  induction rows with
  | nil => simp [get?] at found
  | cons first rest inductionHypothesis =>
    by_cases here : first.id = id ∧ first.scope = scope
    · obtain rfl : first = old := by simpa [get?, here] using found
      exact ⟨[], rest, rfl, here.1, here.2, fun new => by simp [replace, here]⟩
    · have passed : (first.id = id && first.scope = scope) = false := by simpa using here
      have further : get? rest scope id = some old := by
        simpa only [get?, List.find?_cons, passed] using found
      obtain ⟨front, back, rfl, itsId, itsScope, put⟩ := inductionHypothesis further
      refine ⟨first :: front, back, rfl, itsId, itsScope, fun new => ?_⟩
      simp only [replace, passed, Bool.false_eq_true, if_false, put, List.cons_append]

/-- A row is reached if it is there. -/
theorem get?_isSome_iff : (rows.get? scope id).isSome = true ↔ rows.HasRow scope id := by
  simp only [get?, List.find?_isSome, Bool.and_eq_true, decide_eq_true_eq, HasRow]
  constructor
  · rintro ⟨row, member, itsId, itsScope⟩
    exact ⟨row, member, itsScope, itsId⟩
  · rintro ⟨row, member, itsScope, itsId⟩
    exact ⟨row, member, itsId, itsScope⟩

section Answers

variable {origin : ο} {fields : φ} {now : Instant}

/-- A row that is there is found. -/
theorem answer_get_of_found (found : rows.get? scope id = some old) :
    rows.answer kind scope (.get id : Call ο φ) = (rows, .ok (.found old)) := by
  simp [answer, get, found, Except.map]

/-- A row that is not there is not found. -/
theorem answer_get_of_absent (absent : rows.get? scope id = none) :
    rows.answer kind scope (.get id : Call ο φ) = (rows, .error (.notFound kind.resource)) := by
  simp [answer, get, absent, Except.map]

/-- To create a row under a name that is taken is a conflict. -/
theorem answer_create_of_taken
    (taken : rows.isTaken kind scope (kind.label fields) (fun _ => false) = true) :
    rows.answer kind scope (.create origin fields id now) =
      (rows, .error (.conflict kind.resource (kind.label fields))) := by
  simp [answer, create, taken, Except.map]

/-- To create a row under a name that is free appends it. -/
theorem answer_create_of_free
    (free : rows.isTaken kind scope (kind.label fields) (fun _ => false) = false) :
    rows.answer kind scope (.create origin fields id now) =
      (rows ++ [.made scope origin fields id now],
        .ok (.created (.made scope origin fields id now))) := by
  simp [answer, create, free, Except.map, Row.made]

/-- To change a row to a name that is taken is a conflict. -/
theorem answer_update_of_taken
    (taken : rows.isTaken kind scope (kind.label fields) (· = id) = true) :
    rows.answer kind scope (.update id fields now) =
      (rows, .error (.conflict kind.resource (kind.label fields))) := by
  simp [answer, update, taken, Except.map]

/-- To change a row that is not there fails for want of it, if the name is free. -/
theorem answer_update_of_absent
    (free : rows.isTaken kind scope (kind.label fields) (· = id) = false)
    (absent : rows.get? scope id = none) :
    rows.answer kind scope (.update id fields now) = (rows, .error (.notFound kind.resource)) := by
  simp [answer, update, free, absent, Except.map]

/-- To change a row that is there puts its revision in its place, if the name is free. -/
theorem answer_update_of_found
    (free : rows.isTaken kind scope (kind.label fields) (· = id) = false)
    (found : rows.get? scope id = some old) :
    rows.answer kind scope (.update id fields now) =
      (rows.replace scope id (revised old fields now),
        .ok (.updated (revised old fields now))) := by
  simp [answer, update, free, found, Except.map]

end Answers

/-- What a call can do, with its answer. -/
theorem answer_cases (rows : Collection σ ο φ) (kind : Kind φ) (scope : σ) (call : Call ο φ) :
    ((rows.answer kind scope call).1 = rows ∧
        (call.isLook = true ∨ ∃ refusal, (rows.answer kind scope call).2 = .error refusal)) ∨
      (∃ origin fields id now, call = .create origin fields id now ∧
        rows.isTaken kind scope (kind.label fields) (fun _ => false) = false ∧
          rows.answer kind scope call =
            (rows ++ [.made scope origin fields id now],
              .ok (.created (.made scope origin fields id now)))) ∨
      ∃ id fields now front old back, call = .update id fields now ∧
        rows.isTaken kind scope (kind.label fields) (· = id) = false ∧
          rows = front ++ old :: back ∧ old.id = id ∧ old.scope = scope ∧
            rows.answer kind scope call =
              (front ++ revised old fields now :: back,
                .ok (.updated (revised old fields now))) := by
  cases call with
  | list listing => exact .inl ⟨rfl, .inl rfl⟩
  | get id => exact .inl ⟨rfl, .inl rfl⟩
  | create origin fields id now =>
    cases taken : rows.isTaken kind scope (kind.label fields) (fun _ => false) with
    | true => simp [answer_create_of_taken taken]
    | false => exact .inr (.inl ⟨origin, fields, id, now, rfl, taken, answer_create_of_free taken⟩)
  | update id fields now =>
    cases taken : rows.isTaken kind scope (kind.label fields) (· = id) with
    | true => simp [answer_update_of_taken taken]
    | false =>
      cases found : rows.get? scope id with
      | none => simp [answer_update_of_absent taken found]
      | some old =>
        obtain ⟨front, back, shape, itsId, itsScope, put⟩ := exists_of_get? found
        refine .inr (.inr
          ⟨id, fields, now, front, old, back, rfl, taken, shape, itsId, itsScope, ?_⟩)
        rw [answer_update_of_found taken found, put]

/-- Where the rows of a collection come from after a call. -/
theorem mem_answer (member : row ∈ (rows.answer kind scope call).1) :
    row ∈ rows ∨
      (∃ origin fields id now, call = .create origin fields id now ∧
        row = .made scope origin fields id now) ∨
      ∃ old ∈ rows, old.scope = scope ∧
        ∃ fields now, call = .update old.id fields now ∧ row = revised old fields now := by
  rcases rows.answer_cases kind scope call with
    ⟨same, -⟩ | ⟨origin, fields, id, now, rfl, -, done⟩ |
      ⟨id, fields, now, front, old, back, rfl, -, rfl, itsId, itsScope, done⟩
  · exact .inl (same ▸ member)
  · rw [done] at member
    rcases List.mem_append.mp member with before | new
    · exact .inl before
    · exact .inr (.inl ⟨origin, fields, id, now, rfl, List.mem_singleton.mp new⟩)
  · rw [done] at member
    rcases List.mem_append.mp member with before | here
    · exact .inl (by simp [before])
    · rcases List.mem_cons.mp here with new | behind
      · exact .inr (.inr ⟨old, by simp, itsScope, fields, now, by rw [itsId], new⟩)
      · exact .inl (by simp [behind])

/-- The identifiers after a call: the same ones, and the one drawn if a row was created. -/
theorem map_id_answer (rows : Collection σ ο φ) (kind : Kind φ) (scope : σ) (call : Call ο φ) :
    (rows.answer kind scope call).1.map (·.id) = rows.map (·.id) ∨
      ∃ id, call.drawn? = some id ∧
        (rows.answer kind scope call).1.map (·.id) = rows.map (·.id) ++ [id] := by
  rcases rows.answer_cases kind scope call with
    ⟨same, -⟩ | ⟨origin, fields, id, now, rfl, -, done⟩ |
      ⟨id, fields, now, front, old, back, rfl, -, rfl, itsId, itsScope, done⟩
  · exact .inl (by rw [same])
  · exact .inr ⟨id, rfl, by simp [done, Row.made]⟩
  · exact .inl (by simp [done])

omit [DecidableEq σ] in
/-- A row in a collection has another identifier than those before and behind it. -/
theorem DrawnFrom.id_ne {front back : Collection σ ο φ}
    (drawn : DrawnFrom (front ++ old :: back) ids) (member : row ∈ front ++ back) :
    row.id ≠ old.id := by
  have distinct : (old.id :: (front ++ back).map (·.id)).Nodup := by
    simpa [List.nodup_middle] using drawn.distinct
  intro same
  exact (List.nodup_cons.mp distinct).1 (same ▸ List.mem_map_of_mem member)

/-- A row is reached exactly if it is there, as no other has its identifier. -/
theorem DrawnFrom.get?_eq_some_iff (drawn : rows.DrawnFrom ids) :
    rows.get? scope id = some row ↔ row ∈ rows ∧ row.scope = scope ∧ row.id = id := by
  constructor
  · intro found
    obtain ⟨front, back, rfl, itsId, itsScope, -⟩ := exists_of_get? found
    exact ⟨by simp, itsScope, itsId⟩
  · rintro ⟨member, rfl, rfl⟩
    have reached : (rows.get? row.scope row.id).isSome = true :=
      List.find?_isSome.mpr ⟨row, member, by simp⟩
    obtain ⟨old, found⟩ := Option.isSome_iff_exists.mp reached
    obtain ⟨front, back, rfl, itsId, -, -⟩ := exists_of_get? found
    by_cases same : row = old
    · rw [found, same]
    · have other : row ∈ front ++ back := by simpa [same] using member
      exact absurd itsId.symm (drawn.id_ne other)

/-- A call that is refused leaves the collection as it is. -/
theorem answer_of_refused {refusal : StoreError}
    (refused : (rows.answer kind scope call).2 = .error refusal) :
    (rows.answer kind scope call).1 = rows := by
  rcases rows.answer_cases kind scope call with
    ⟨same, -⟩ | ⟨origin, fields, id, now, rfl, -, done⟩ |
      ⟨id, fields, now, front, old, back, rfl, -, -, -, -, done⟩
  · exact same
  · rw [done] at refused
    cases refused
  · rw [done] at refused
    cases refused

/-- A call that draws no identifier twice keeps the rows apart. -/
theorem DrawnFrom.answer (drawn : rows.DrawnFrom ids)
    (fresh : ∀ id, call.drawn? = some id → id ∉ ids) :
    (rows.answer kind scope call).1.DrawnFrom (ids ++ call.drawn?.toList) := by
  have among : ∀ id ∈ rows.map (·.id), id ∈ ids := by
    simpa using drawn.among
  suffices (((rows.answer kind scope call).1.map (·.id)).Nodup ∧
      ∀ id ∈ (rows.answer kind scope call).1.map (·.id), id ∈ ids ++ call.drawn?.toList) from
    ⟨this.1, fun row member => this.2 row.id (List.mem_map_of_mem member)⟩
  rcases rows.map_id_answer kind scope call with same | ⟨id, brought, more⟩
  · rw [same]
    exact ⟨drawn.distinct, fun id member => List.mem_append_left _ (among id member)⟩
  · rw [more]
    have unused : id ∉ rows.map (·.id) := fun member => fresh id brought (among id member)
    refine ⟨drawn.distinct.append (List.nodup_singleton id) (by simpa using unused), ?_⟩
    intro its member
    rcases List.mem_append.mp member with before | new
    · exact List.mem_append_left _ (among its before)
    · simp only [brought, Option.toList_some]
      exact List.mem_append_right _ new

end Collection

end IssueTracker.Store

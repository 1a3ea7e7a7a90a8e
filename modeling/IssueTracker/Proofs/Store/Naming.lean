import IssueTracker.Proofs.Store.Sequence
import Mathlib.Data.List.Pairwise

/-!
# Names and conflicts

In a kind of record whose names are unique within a scope, no calls in any order bring two rows of a
scope to one name. What is refused as a conflict is exactly what would do that: the creation of a
row under a name of its scope, and the change of a row to the name of another row of its scope. A
row may always keep its name, and names that were given up may be taken.

That a change is checked against all rows but those with the identifier of the row itself suffices
only because no two rows have the same identifier.
-/

namespace IssueTracker.Store

variable {σ ο φ : Type}

/-- Whether two rows have different names, if they are of one scope. -/
def Row.NamedApart (kind : Kind φ) (one other : Row σ ο φ) : Prop :=
  one.scope = other.scope → kind.label one.fields ≠ kind.label other.fields

/-- Which of the two rows comes first does not matter. -/
instance (kind : Kind φ) : Std.Symm (Row.NamedApart (σ := σ) (ο := ο) kind) where
  symm _ _ apart sameScope sameName := apart sameScope.symm sameName.symm

namespace Collection

/-- Whether a row of a scope has a name. -/
def HasName (rows : Collection σ ο φ) (kind : Kind φ) (scope : σ) (name : String) : Prop :=
  ∃ row ∈ rows, row.scope = scope ∧ kind.label row.fields = name

/-- Whether a row of a scope has a name that is not the row with an identifier. -/
def HasNameBesides (rows : Collection σ ο φ) (kind : Kind φ) (scope : σ) (id : Uuid)
    (name : String) : Prop :=
  ∃ row ∈ rows, row.scope = scope ∧ row.id ≠ id ∧ kind.label row.fields = name

/-- Whether no two rows of a scope share a name. -/
def HasDistinctNames (rows : Collection σ ο φ) (kind : Kind φ) : Prop :=
  rows.Pairwise (Row.NamedApart kind)

/-- Whether names are unique within scopes, and calls that give names are refused exactly where they
have to be. -/
structure NamesExactly [DecidableEq σ] (rows : Collection σ ο φ) (kind : Kind φ) : Prop where
  distinct : rows.HasDistinctNames kind
  /-- To create a row is a conflict exactly if a row of the scope has the name. -/
  creation_conflict : ∀ scope (origin : ο) fields id now,
    (rows.answer kind scope (.create origin fields id now)).2 =
        .error (.conflict kind.resource (kind.label fields)) ↔
      rows.HasName kind scope (kind.label fields)
  /-- Otherwise the row is created. -/
  creation_success : ∀ scope (origin : ο) fields id now,
    (rows.answer kind scope (.create origin fields id now)).2 =
        .ok (.created (.made scope origin fields id now)) ↔
      ¬ rows.HasName kind scope (kind.label fields)
  /-- To change a row is a conflict exactly if another row of the scope has the name. -/
  update_conflict : ∀ scope id fields now,
    (rows.answer kind scope (.update id fields now)).2 =
        .error (.conflict kind.resource (kind.label fields)) ↔
      rows.HasNameBesides kind scope id (kind.label fields)
  /-- It fails for want of a row exactly if there is no conflict and no row. -/
  update_absent : ∀ scope id fields now,
    (rows.answer kind scope (.update id fields now)).2 = .error (.notFound kind.resource) ↔
      ¬ rows.HasNameBesides kind scope id (kind.label fields) ∧ ¬ rows.HasRow scope id
  /-- Otherwise the row is changed. -/
  update_success : ∀ scope id fields now,
    (∃ old ∈ rows, old.scope = scope ∧ old.id = id ∧
        (rows.answer kind scope (.update id fields now)).2 =
          .ok (.updated (revised old fields now))) ↔
      ¬ rows.HasNameBesides kind scope id (kind.label fields) ∧ rows.HasRow scope id
  /-- A row may keep its name. -/
  own_name : ∀ row ∈ rows, ∀ fields now, kind.label fields = kind.label row.fields →
    ∃ new, (rows.answer kind row.scope (.update row.id fields now)).2 = .ok (.updated new)

variable [DecidableEq σ] {rows : Collection σ ο φ} {kind : Kind φ} {scope : σ} {id : Uuid}
  {call : Call ο φ} {fields : φ} {now : Instant} {ids : List Uuid}

/-- The check of a name looks at the rows of the scope that are not excepted. -/
theorem isTaken_iff (unique : kind.hasUniqueNames = true) {name : String} {excepted : Uuid → Bool} :
    rows.isTaken kind scope name excepted = true ↔
      ∃ row ∈ rows, row.scope = scope ∧ excepted row.id = false ∧ kind.label row.fields = name := by
  simp only [isTaken, unique, Bool.true_and, List.any_eq_true, Bool.and_eq_true, decide_eq_true_eq,
    Bool.not_eq_true']
  constructor
  · rintro ⟨row, member, ⟨itsScope, itsName⟩, apart⟩
    exact ⟨row, member, itsScope, apart, itsName⟩
  · rintro ⟨row, member, itsScope, apart, itsName⟩
    exact ⟨row, member, ⟨itsScope, itsName⟩, apart⟩

/-- A name is taken for a new row if a row of the scope has it. -/
theorem isTaken_iff_hasName (unique : kind.hasUniqueNames = true) {name : String} :
    rows.isTaken kind scope name (fun _ => false) = true ↔ rows.HasName kind scope name := by
  simp [isTaken_iff unique, HasName]

/-- A name is taken for a row if another row of the scope has it. -/
theorem isTaken_iff_hasNameBesides (unique : kind.hasUniqueNames = true) {name : String} :
    rows.isTaken kind scope name (· = id) = true ↔ rows.HasNameBesides kind scope id name := by
  simp [isTaken_iff unique, HasNameBesides]

/-- A call keeps names distinct in a kind that wants them so. A new row gets a name that no row of
its scope has. A changed row gets one that no row with another identifier has, and all other rows
have other identifiers. -/
theorem HasDistinctNames.answer (unique : kind.hasUniqueNames = true)
    (names : rows.HasDistinctNames kind) (drawn : rows.DrawnFrom ids) :
    (rows.answer kind scope call).1.HasDistinctNames kind := by
  rcases rows.answer_cases kind scope call with
    ⟨same, -⟩ | ⟨origin, fields, id, now, rfl, free, done⟩ |
      ⟨id, fields, now, front, old, back, rfl, free, rfl, itsId, itsScope, done⟩
  · rwa [same]
  · rw [done]
    have unnamed : ¬ rows.HasName kind scope (kind.label fields) := by
      rw [← isTaken_iff_hasName unique, free]
      exact Bool.false_ne_true
    refine List.pairwise_append.mpr ⟨names, List.pairwise_singleton _ _, ?_⟩
    intro row member new isNew sameScope sameName
    obtain rfl := List.mem_singleton.mp isNew
    exact unnamed ⟨row, member, sameScope, sameName⟩
  · rw [done]
    have unnamed : ¬ HasNameBesides (front ++ old :: back) kind scope id (kind.label fields) := by
      rw [← isTaken_iff_hasNameBesides unique, free]
      exact Bool.false_ne_true
    -- The place of the changed row among the others does not matter.
    have others := (List.pairwise_cons.mp ((List.pairwise_middle (symm_of _)).mp names)).2
    refine (List.pairwise_middle (symm_of _)).mpr (List.pairwise_cons.mpr ⟨?_, others⟩)
    intro row member sameScope sameName
    have another : row.id ≠ id := itsId ▸ drawn.id_ne member
    have there : row ∈ front ++ old :: back := by
      rcases List.mem_append.mp member with before | behind
      · simp [before]
      · simp [behind]
    exact unnamed ⟨row, there, sameScope.symm.trans itsScope, another, sameName.symm⟩

/-- Calls that draw no identifier twice leave rows with distinct names in a kind that wants them so.
-/
theorem hasDistinctNames_after (unique : kind.hasUniqueNames = true) {asks : List (Ask σ ο φ)}
    (fresh : (drawnBy asks).Nodup) :
    (after [] kind asks).HasDistinctNames kind := by
  induction asks using List.reverseRecOn with
  | nil => exact List.Pairwise.nil
  | append_singleton asks ask inductionHypothesis =>
    have before := (fresh_of_concat fresh).1
    simpa using (inductionHypothesis before).answer unique (drawnFrom_after kind before)

omit [DecidableEq σ] in
/-- Where names are distinct, no other row of its scope has the name of a row. -/
theorem HasDistinctNames.not_besides (names : rows.HasDistinctNames kind) {row : Row σ ο φ}
    (member : row ∈ rows) :
    ¬ rows.HasNameBesides kind row.scope row.id (kind.label row.fields) := by
  rintro ⟨other, there, sameScope, apart, sameName⟩
  have different : other ≠ row := fun same => apart (by rw [same])
  exact names.forall there member different sameScope sameName

/-- Where names are unique, calls that give names are refused exactly where they have to be. -/
theorem HasDistinctNames.namesExactly (unique : kind.hasUniqueNames = true)
    (names : rows.HasDistinctNames kind) : rows.NamesExactly kind where
  distinct := names
  creation_conflict scope origin fields id now := by
    rw [← isTaken_iff_hasName unique]
    cases taken : rows.isTaken kind scope (kind.label fields) fun _ => false with
    | true => simp [answer_create_of_taken taken]
    | false => simp [answer_create_of_free taken]
  creation_success scope origin fields id now := by
    rw [← isTaken_iff_hasName unique]
    cases taken : rows.isTaken kind scope (kind.label fields) fun _ => false with
    | true => simp [answer_create_of_taken taken]
    | false => simp [answer_create_of_free taken]
  update_conflict scope id fields now := by
    rw [← isTaken_iff_hasNameBesides unique]
    cases taken : rows.isTaken kind scope (kind.label fields) (· = id) with
    | true => simp [answer_update_of_taken taken]
    | false =>
      cases found : rows.get? scope id with
      | none => simp [answer_update_of_absent taken found]
      | some old => simp [answer_update_of_found taken found]
  update_absent scope id fields now := by
    rw [← isTaken_iff_hasNameBesides unique, ← get?_isSome_iff]
    cases taken : rows.isTaken kind scope (kind.label fields) (· = id) with
    | true => simp [answer_update_of_taken taken]
    | false =>
      cases found : rows.get? scope id with
      | none => simp [answer_update_of_absent taken found]
      | some old => simp [answer_update_of_found taken found]
  update_success scope id fields now := by
    rw [← isTaken_iff_hasNameBesides unique, ← get?_isSome_iff]
    cases taken : rows.isTaken kind scope (kind.label fields) (· = id) with
    | true => simp [answer_update_of_taken taken]
    | false =>
      cases found : rows.get? scope id with
      | none => simp [answer_update_of_absent taken found]
      | some old =>
        obtain ⟨front, back, shape, itsId, itsScope, -⟩ := exists_of_get? found
        have there : old ∈ rows := by simp [shape]
        simpa [answer_update_of_found taken found] using ⟨old, there, itsScope, itsId, rfl⟩
  own_name row member fields now sameName := by
    have free : rows.isTaken kind row.scope (kind.label fields) (· = row.id) = false := by
      rw [← Bool.not_eq_true, isTaken_iff_hasNameBesides unique, sameName]
      exact names.not_besides member
    obtain ⟨old, found⟩ := Option.isSome_iff_exists.mp
      (get?_isSome_iff.mpr ⟨row, member, rfl, rfl⟩)
    exact ⟨_, by rw [answer_update_of_found free found]⟩

end Collection

/-- Whatever calls are made on empty stores, in whatever order and in whatever scopes, no two
customers share a name and no two projects of a customer do, and every further call that gives a
name is a conflict, fails for want of a row or succeeds exactly as the names there are require. -/
theorem names_unique_conflicts_exact (calls : List StoreCall)
    (fresh : (calls.filterMap StoreCall.drawn?).Nodup) :
    (Stores.empty.after calls).customers.NamesExactly customerKind ∧
      (Stores.empty.after calls).projects.NamesExactly projectKind := by
  have customers : (drawnBy (calls.filterMap StoreCall.onCustomers?)).Nodup :=
    fresh.sublist (Stores.drawnBy_sublist _
      (fun call ask own => by cases call <;> cases own; rfl) calls)
  have projects : (drawnBy (calls.filterMap StoreCall.onProjects?)).Nodup :=
    fresh.sublist (Stores.drawnBy_sublist _
      (fun call ask own => by cases call <;> cases own; rfl) calls)
  rw [Stores.customers_after, Stores.projects_after]
  exact ⟨(Collection.hasDistinctNames_after rfl customers).namesExactly rfl,
    (Collection.hasDistinctNames_after rfl projects).namesExactly rfl⟩

section Swap

/-- A profile with nothing but a name. -/
def named (name : String) : Profile := ⟨name, "", []⟩

/-- Two customers swap their names through a third name. A swap without it is refused, and so is a
third customer of one of the names; in the projects of another customer the names are free. -/
def swap : List StoreCall := [
  .customers (.create () (named "a") (numbered 1) ⟨1, 0⟩),
  .customers (.create () (named "b") (numbered 2) ⟨2, 0⟩),
  .customers (.update (numbered 1) (named "b") ⟨3, 0⟩),
  .customers (.update (numbered 1) (named "c") ⟨4, 0⟩),
  .customers (.update (numbered 2) (named "a") ⟨5, 0⟩),
  .customers (.update (numbered 1) (named "b") ⟨6, 0⟩),
  .customers (.create () (named "a") (numbered 3) ⟨7, 0⟩),
  .projects (numbered 1) (.create () (named "a") (numbered 4) ⟨8, 0⟩),
  .projects (numbered 2) (.create () (named "a") (numbered 5) ⟨9, 0⟩)]

/-- The names are swapped, and both stores are as they have to be. -/
theorem swap_named :
    (swap.filterMap StoreCall.drawn?).Nodup ∧
      ((Stores.empty.after swap).customers.map (·.fields.name) = ["b", "a"] ∧
        (Stores.empty.after swap).projects.map (·.fields.name) = ["a", "a"]) ∧
      (Stores.empty.after swap).customers.NamesExactly customerKind ∧
        (Stores.empty.after swap).projects.NamesExactly projectKind :=
  have fresh : (swap.filterMap StoreCall.drawn?).Nodup := by decide
  ⟨fresh, by decide +kernel, names_unique_conflicts_exact swap fresh⟩

end Swap

end IssueTracker.Store

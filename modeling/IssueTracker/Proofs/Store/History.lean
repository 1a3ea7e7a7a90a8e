import IssueTracker.Proofs.Store.Sequence

/-!
# Stores as logs of writes

What a collection answers can be read off the log of the calls before, without the collection. A row
is there from the call on that created it, in the scope of that call, and what was decided then
stays as it was. What a caller supplied is what the last successful change of the row supplied, or
else its creation. Pages are cut from the rows of a scope in the order of their creation. A call
that was refused might as well not have been made.

That a log names the one row of an identifier rests on identifiers being drawn once only.
-/

namespace IssueTracker.Store

variable {σ ο φ : Type}

/-- The clock reading that a call brings along. -/
def Call.reading? : Call ο φ → Option Instant
  | .create _ _ _ now | .update _ _ now => some now
  | _ => none

/-- The clock readings that calls bring along. -/
def readingsOf (asks : List (Ask σ ο φ)) : List Instant := asks.filterMap (·.call.reading?)

/-- Whether no reading of the clock is earlier than one before it. -/
def IsSteady (readings : List Instant) : Prop :=
  readings.Pairwise fun earlier later => later.before earlier = false

instance : DecidablePred IsSteady := fun _ => inferInstanceAs (Decidable (List.Pairwise _ _))

namespace Entry

/-- The row that a call created, as it was then. -/
def creation? (entry : Entry σ ο φ) : Option (Row σ ο φ) :=
  match entry.ask.call, entry.answer with
  | .create origin fields id now, .ok _ => some (.made entry.ask.scope origin fields id now)
  | _, _ => none

/-- What a call supplied for the row of a scope with an identifier, and when, if it changed that. -/
def revision? [DecidableEq σ] (entry : Entry σ ο φ) (scope : σ) (id : Uuid) :
    Option (φ × Instant) :=
  match entry.ask.call, entry.answer with
  | .update its fields now, .ok _ =>
    if its = id ∧ entry.ask.scope = scope then some (fields, now) else none
  | _, _ => none

end Entry

/-- Calls that were made on a collection, the oldest first, with their answers. -/
abbrev Log (σ ο φ : Type) := List (Entry σ ο φ)

namespace Log

/-- The rows that were created, as they were then. -/
def creations (log : Log σ ο φ) : List (Row σ ο φ) := log.filterMap Entry.creation?

variable [DecidableEq σ]

/-- What was supplied for the row of a scope with an identifier after its creation. -/
def revisions (log : Log σ ο φ) (scope : σ) (id : Uuid) : List (φ × Instant) :=
  log.filterMap (·.revision? scope id)

/-- A row with what was last supplied for it. -/
def current (log : Log σ ο φ) (created : Row σ ο φ) : Row σ ο φ :=
  match (log.revisions created.scope created.id).getLast? with
  | some (fields, now) => { created with fields := fields, updatedAt := now }
  | none => created

/-- The rows of a scope, in the order of their creation, with what was last supplied for them. -/
def rowsOf (log : Log σ ο φ) (scope : σ) : List (Row σ ο φ) :=
  (log.creations.filter (·.scope = scope)).map log.current

/-- Whether a call is answered as the calls before it require. -/
structure Explains (log : Log σ ο φ) (kind : Kind φ) (entry : Entry σ ο φ) : Prop where
  /-- A row that was created in the scope under the identifier is found, with what was last supplied
  for it. -/
  found : ∀ id, entry.ask.call = .get id →
    ∀ created ∈ log.creations, created.scope = entry.ask.scope → created.id = id →
      entry.answer = .ok (.found (log.current created))
  /-- Without such a creation there is no row to be found. -/
  absent : ∀ id, entry.ask.call = .get id →
    (¬ ∃ created ∈ log.creations, created.scope = entry.ask.scope ∧ created.id = id) →
      entry.answer = .error (.notFound kind.resource)
  /-- A page is cut from the rows of the scope. -/
  listed : ∀ listing, entry.ask.call = .list listing →
    entry.answer =
      .ok (.page (listing.page (fun row => kind.label row.fields) (log.rowsOf entry.ask.scope)))
  /-- The row that is created is shown to whoever created it. -/
  created : ∀ created, entry.creation? = some created → entry.answer = .ok (.created created)
  /-- A row is changed only if it was created in the scope under the identifier. -/
  updated : ∀ id fields now reply, entry.ask.call = .update id fields now →
    entry.answer = .ok reply →
      ∃ created ∈ log.creations, created.scope = entry.ask.scope ∧ created.id = id ∧
        reply = .updated { created with fields := fields, updatedAt := now }

variable {log : Log σ ο φ} {entry : Entry σ ο φ} {row : Row σ ο φ} {scope : σ} {id : Uuid}

@[simp] theorem current_id : (log.current row).id = row.id := by
  unfold current
  split <;> rfl

@[simp] theorem current_scope : (log.current row).scope = row.scope := by
  unfold current
  split <;> rfl

omit [DecidableEq σ] in
/-- What was created by one more call. -/
theorem creations_concat :
    creations (log ++ [entry]) = log.creations ++ entry.creation?.toList :=
  List.filterMap_concat Entry.creation? log entry

/-- What was supplied by one more call. -/
theorem revisions_concat :
    revisions (log ++ [entry]) scope id =
      log.revisions scope id ++ (entry.revision? scope id).toList :=
  List.filterMap_concat (Entry.revision? · scope id) log entry

/-- A row for which nothing is supplied by one more call stays as it was. -/
theorem current_concat_of_none (unsupplied : entry.revision? row.scope row.id = none) :
    current (log ++ [entry]) row = log.current row := by
  simp [current, revisions_concat, unsupplied]

/-- What was supplied for a row before does not matter for a revision. -/
@[simp] theorem revised_current {fields : φ} {now : Instant} :
    Collection.revised (log.current row) fields now = Collection.revised row fields now := by
  unfold current
  split <;> rfl

/-- A row for which something is supplied by one more call is revised. -/
theorem current_concat_of_some {fields : φ} {now : Instant}
    (supplied : entry.revision? row.scope row.id = some (fields, now)) :
    current (log ++ [entry]) row = Collection.revised (log.current row) fields now := by
  rw [revised_current]
  simp [current, revisions_concat, supplied, Collection.revised]

/-- A row for which nothing was supplied after its creation is as it was then. -/
theorem current_of_revisions (untouched : log.revisions row.scope row.id = []) :
    log.current row = row := by
  simp [current, untouched]

end Log

namespace Collection

variable [DecidableEq σ] {kind : Kind φ} {asks : List (Ask σ ο φ)} {scope : σ} {id : Uuid}
  {row : Row σ ο φ}

/-- The last call of a sequence in the log. -/
theorem log_concat (asks : List (Ask σ ο φ)) (ask : Ask σ ο φ) :
    log [] kind (asks ++ [ask]) =
      log [] kind asks ++ [⟨ask, ((after [] kind asks).answer kind ask.scope ask.call).2⟩] := by
  simp [log_append]

/-- What a call does to a collection, and what the log tells of it: nothing, or the creation of the
row that is appended, or the revision of the row that is revised and of no other. -/
theorem entry_cases (rows : Collection σ ο φ) (kind : Kind φ) (ask : Ask σ ο φ)
    {entry : Entry σ ο φ} (made : entry = ⟨ask, (rows.answer kind ask.scope ask.call).2⟩) :
    ((rows.answer kind ask.scope ask.call).1 = rows ∧ entry.creation? = none ∧
        ∀ scope id, entry.revision? scope id = none) ∨
      (∃ created, (rows.answer kind ask.scope ask.call).1 = rows ++ [created] ∧
        ask.call.drawn? = some created.id ∧ entry.creation? = some created ∧
          ∀ scope id, entry.revision? scope id = none) ∨
      ∃ front old back fields now, rows = front ++ old :: back ∧
        (rows.answer kind ask.scope ask.call).1 = front ++ revised old fields now :: back ∧
          entry.creation? = none ∧ ∀ scope id, entry.revision? scope id =
            if old.id = id ∧ old.scope = scope then some (fields, now) else none := by
  obtain ⟨place, call⟩ := ask
  subst made
  rcases rows.answer_cases kind place call with
    ⟨same, looks | ⟨refusal, refused⟩⟩ | ⟨origin, fields, id, now, rfl, -, done⟩ |
      ⟨id, fields, now, front, old, back, rfl, -, shape, rfl, rfl, done⟩
  · refine .inl ⟨same, ?_⟩
    cases call with
    | list listing => exact ⟨rfl, fun _ _ => rfl⟩
    | get id => exact ⟨rfl, fun _ _ => rfl⟩
    | create origin fields id now => cases looks
    | update id fields now => cases looks
  · refine .inl ⟨same, ?_⟩
    rw [refused]
    cases call <;> exact ⟨rfl, fun _ _ => rfl⟩
  · refine .inr (.inl ⟨.made place origin fields id now, ?_⟩)
    rw [done]
    exact ⟨rfl, rfl, rfl, fun _ _ => rfl⟩
  · refine .inr (.inr ⟨front, old, back, fields, now, shape, ?_⟩)
    rw [done]
    exact ⟨rfl, rfl, fun _ _ => rfl⟩

/-- Nothing is ever supplied for a row of an identifier that was never drawn. -/
theorem revisions_eq_nil (fresh : (drawnBy asks).Nodup) (undrawn : id ∉ drawnBy asks) :
    Log.revisions (log [] kind asks) scope id = [] := by
  induction asks using List.reverseRecOn with
  | nil => rfl
  | append_singleton asks ask inductionHypothesis =>
    have before := (fresh_of_concat fresh).1
    have earlier : id ∉ drawnBy asks := fun drawn => undrawn (by simp [drawn])
    rw [log_concat, Log.revisions_concat, inductionHypothesis before earlier, List.nil_append]
    rcases entry_cases (after [] kind asks) kind ask rfl with
      ⟨-, -, none⟩ | ⟨created, -, -, -, none⟩ |
        ⟨front, old, back, fields, now, shape, -, -, supplied⟩
    · rw [none, Option.toList_none]
    · rw [none, Option.toList_none]
    · have there : old ∈ after [] kind asks := by simp [shape]
      have another : old.id ≠ id := fun same =>
        earlier (same ▸ (drawnFrom_after kind before).among old there)
      simp [supplied, another]

/-- To revise one row of a collection is to revise whichever has its scope and identifier: as no
other row has the identifier, the others stay as they are. -/
theorem map_revised {front back : Collection σ ο φ} {old : Row σ ο φ} {ids : List Uuid}
    (drawn : DrawnFrom (front ++ old :: back) ids) (fields : φ) (now : Instant) :
    (front ++ old :: back).map (fun row =>
        if old.id = row.id ∧ old.scope = row.scope then revised row fields now else row) =
      front ++ revised old fields now :: back := by
  have kept (part : List (Row σ ο φ)) (others : ∀ row ∈ part, row ∈ front ++ back) :
      part.map (fun row =>
          if old.id = row.id ∧ old.scope = row.scope then revised row fields now else row) =
        part := by
    refine (List.map_congr_left fun row member => ?_).trans (List.map_id part)
    have apart : row.id ≠ old.id := drawn.id_ne (others row member)
    simp [apart.symm]
  rw [List.map_append, List.map_cons, kept front fun row => List.mem_append_left back,
    kept back fun row => List.mem_append_right front]
  simp

/-- The rows of a collection are those that the log tells of. One more call of those that create
appends a row for which nothing was supplied yet; one of those that change puts the revision of a
row where it was, and supplies nothing for the other rows, whose identifiers are different. -/
theorem after_eq_current (fresh : (drawnBy asks).Nodup) :
    after [] kind asks =
      (Log.creations (log [] kind asks)).map (Log.current (log [] kind asks)) := by
  induction asks using List.reverseRecOn with
  | nil => rfl
  | append_singleton asks ask inductionHypothesis =>
    obtain ⟨before, last⟩ := fresh_of_concat fresh
    have rows := inductionHypothesis before
    rw [log_concat, Log.creations_concat, after_append, after_cons, after_nil]
    generalize shown : Entry.mk ask ((after [] kind asks).answer kind ask.scope ask.call).2 = entry
    generalize told : log [] kind asks = log at rows
    rcases entry_cases (after [] kind asks) kind ask shown.symm with
      ⟨same, none, unsupplied⟩ | ⟨created, appended, drawn, some, unsupplied⟩ |
        ⟨front, old, back, fields, now, shape, put, none, supplied⟩
    · rw [same, none, Option.toList_none, List.append_nil, rows]
      exact List.map_congr_left fun row _ =>
        (Log.current_concat_of_none (unsupplied row.scope row.id)).symm
    · have untouched : Log.revisions log created.scope created.id = [] :=
        told ▸ revisions_eq_nil before (last created.id drawn)
      have all : Log.current (log ++ [entry]) = Log.current log :=
        funext fun row => Log.current_concat_of_none (unsupplied row.scope row.id)
      rw [appended, some, Option.toList_some, List.map_append, all, ← rows, List.map_singleton,
        Log.current_of_revisions untouched]
    · have all : Log.current (log ++ [entry]) = (fun row =>
          if old.id = row.id ∧ old.scope = row.scope then revised row fields now else row) ∘
            Log.current log := by
        funext row
        by_cases its : old.id = row.id ∧ old.scope = row.scope
        · rw [Log.current_concat_of_some (by rw [supplied, if_pos its])]
          simp [its]
        · rw [Log.current_concat_of_none (by rw [supplied, if_neg its])]
          simp [its]
      have drawn : DrawnFrom (front ++ old :: back) (drawnBy asks) :=
        shape ▸ drawnFrom_after kind before
      rw [put, none, Option.toList_none, List.append_nil, all, ← List.map_map, ← rows, shape,
        map_revised drawn]

/-- The rows of a scope are those that the log tells of. -/
theorem owned_after (fresh : (drawnBy asks).Nodup) :
    (after [] kind asks).owned scope = Log.rowsOf (log [] kind asks) scope := by
  rw [after_eq_current fresh, owned, List.filter_map, Log.rowsOf]
  congr 2
  funext row
  simp

/-- A row is reached exactly if it was created in the scope, and is what was last supplied for it.
-/
theorem get?_after (kind : Kind φ) (fresh : (drawnBy asks).Nodup) :
    (after [] kind asks).get? scope id = some row ↔
      ∃ created ∈ Log.creations (log [] kind asks), created.scope = scope ∧ created.id = id ∧
        row = Log.current (log [] kind asks) created := by
  rw [(drawnFrom_after kind fresh).get?_eq_some_iff, after_eq_current fresh, List.mem_map]
  constructor
  · rintro ⟨⟨created, member, rfl⟩, itsScope, itsId⟩
    exact ⟨created, member, by simpa using itsScope, by simpa using itsId, rfl⟩
  · rintro ⟨created, member, itsScope, itsId, rfl⟩
    exact ⟨⟨created, member, rfl⟩, by simpa using itsScope, by simpa using itsId⟩

/-- A further call is answered as the log of the calls before requires. -/
theorem explains_answer (kind : Kind φ) (fresh : (drawnBy asks).Nodup) (place : σ)
    (call : Call ο φ) :
    Log.Explains (log [] kind asks) kind
      ⟨⟨place, call⟩, ((after [] kind asks).answer kind place call).2⟩ where
  found id asked created member itsScope itsId := by
    obtain rfl : call = .get id := asked
    have found := (get?_after kind fresh).mpr ⟨created, member, itsScope, itsId, rfl⟩
    rw [answer_get_of_found found]
  absent id asked uncreated := by
    obtain rfl : call = .get id := asked
    cases found : (after [] kind asks).get? place id with
    | none => rw [answer_get_of_absent found]
    | some old =>
      obtain ⟨created, member, itsScope, itsId, -⟩ := (get?_after kind fresh).mp found
      exact absurd ⟨created, member, itsScope, itsId⟩ uncreated
  listed listing asked := by
    obtain rfl : call = .list listing := asked
    simp only [answer, list, owned_after fresh]
  created created shown := by
    cases call with
    | list listing => cases shown
    | get id => cases shown
    | update id fields now => simp [Entry.creation?] at shown
    | create origin fields id now =>
      cases taken : (after [] kind asks).isTaken kind place (kind.label fields) fun _ => false with
      | true =>
        rw [answer_create_of_taken taken] at shown
        cases shown
      | false =>
        rw [answer_create_of_free taken] at shown ⊢
        cases shown
        rfl
  updated id fields now reply asked answered := by
    obtain rfl : call = .update id fields now := asked
    cases taken : (after [] kind asks).isTaken kind place (kind.label fields) (· = id) with
    | true =>
      rw [answer_update_of_taken taken] at answered
      cases answered
    | false =>
      cases found : (after [] kind asks).get? place id with
      | none =>
        rw [answer_update_of_absent taken found] at answered
        cases answered
      | some old =>
        rw [answer_update_of_found taken found] at answered
        cases answered
        obtain ⟨created, member, itsScope, itsId, rfl⟩ := (get?_after kind fresh).mp found
        exact ⟨created, member, itsScope, itsId, by rw [Log.revised_current]; rfl⟩

/-- A row is never older at its last change than at its creation, if the clock is steady. -/
theorem readings_after (steady : IsSteady (readingsOf asks)) :
    ∀ row ∈ after [] kind asks,
      row.createdAt ∈ readingsOf asks ∧ row.updatedAt.before row.createdAt = false := by
  induction asks using List.reverseRecOn with
  | nil => simp
  | append_singleton asks ask inductionHypothesis =>
    obtain ⟨place, call⟩ := ask
    have readings : readingsOf (asks ++ [⟨place, call⟩]) =
        readingsOf asks ++ call.reading?.toList :=
      List.filterMap_concat (fun ask : Ask σ ο φ => ask.call.reading?) asks ⟨place, call⟩
    rw [readings] at steady ⊢
    obtain ⟨earlier, -, later⟩ := List.pairwise_append.mp steady
    intro row member
    rw [after_append, after_cons, after_nil] at member
    rcases mem_answer member with old | ⟨origin, fields, id, now, rfl, rfl⟩ |
        ⟨old, there, -, fields, now, rfl, rfl⟩
    · obtain ⟨read, order⟩ := inductionHypothesis earlier row old
      exact ⟨List.mem_append_left _ read, order⟩
    · exact ⟨by simp [Call.reading?, Row.made], by simp [Row.made, Instant.before]⟩
    · obtain ⟨read, -⟩ := inductionHypothesis earlier old there
      exact ⟨List.mem_append_left _ read, later _ read now (by simp [Call.reading?])⟩

end Collection

/-- Whatever calls are made on an empty store of any kind with identifiers that are drawn once only,
each is answered as the log of the calls before requires; the others are answered the same without
one that is refused; and where the clock is steady no row was changed before it was created. -/
theorem log_explains_answers [DecidableEq σ] (kind : Kind φ) (asks : List (Ask σ ο φ))
    (fresh : (drawnBy asks).Nodup) :
    (Collection.log [] kind asks).map (·.ask) = asks ∧
      (∀ earlier entry later, Collection.log [] kind asks = earlier ++ entry :: later →
        Log.Explains earlier kind entry) ∧
      (∀ (i : Nat) (entry : Entry σ ο φ) refusal, (Collection.log [] kind asks)[i]? = some entry →
        entry.answer = .error refusal →
          Collection.log [] kind (asks.eraseIdx i) = (Collection.log [] kind asks).eraseIdx i) ∧
      (IsSteady (readingsOf asks) →
        ∀ row ∈ Collection.after [] kind asks, row.updatedAt.before row.createdAt = false) := by
  refine ⟨Collection.map_ask_log asks, ?_, ?_, ?_⟩
  · intro earlier entry later shape
    obtain ⟨before, rest, rfl, rfl, answered⟩ := Collection.exists_of_log_eq shape
    have freshBefore : (drawnBy before).Nodup := by
      rw [drawnBy_append] at fresh
      exact (List.nodup_append.mp fresh).1
    obtain ⟨ask, given⟩ := entry
    simp only at answered
    subst answered
    exact Collection.explains_answer kind freshBefore ask.scope ask.call
  · intro i entry refusal there refused
    exact Collection.log_eraseIdx there refused
  · intro steady row member
    exact (Collection.readings_after steady row member).2

section Correction

/-- An issue with a subject. -/
def issueOf (subject : String) : IssueFields := ⟨subject, "high", "bug", [], ""⟩

/-- Two issues are created in a project, and the first is corrected. A correction from another
project is refused, and nothing is found there. -/
def correction : List (Ask IssueScope IssueOrigin IssueFields) :=
  let home : IssueScope := ⟨numbered 1, numbered 2⟩
  let elsewhere : IssueScope := ⟨numbered 1, numbered 3⟩
  [⟨home, .create ⟨"u1", createdState⟩ (issueOf "crash") (numbered 4) ⟨1, 0⟩⟩,
    ⟨home, .create ⟨"u2", createdState⟩ (issueOf "slow") (numbered 5) ⟨2, 0⟩⟩,
    ⟨elsewhere, .update (numbered 4) (issueOf "lost") ⟨3, 0⟩⟩,
    ⟨home, .update (numbered 4) (issueOf "crash on save") ⟨4, 0⟩⟩,
    ⟨home, .get (numbered 4)⟩,
    ⟨elsewhere, .get (numbered 4)⟩,
    ⟨home, .list ⟨"", 1, 1⟩⟩]

/-- The log of the corrected issues explains what is found of them. -/
theorem correction_explained :
    (drawnBy correction).Nodup ∧ IsSteady (readingsOf correction) ∧
      (∀ earlier entry later, Collection.log [] issueKind correction = earlier ++ entry :: later →
        Log.Explains earlier issueKind entry) ∧
      Collection.log [] issueKind (correction.eraseIdx 2) =
        (Collection.log [] issueKind correction).eraseIdx 2 ∧
      ∀ row ∈ Collection.after [] issueKind correction,
        row.updatedAt.before row.createdAt = false := by
  have fresh : (drawnBy correction).Nodup := by decide
  have steady : IsSteady (readingsOf correction) := by decide
  obtain ⟨-, explained, erased, ordered⟩ := log_explains_answers issueKind correction fresh
  have refused : ∃ entry, (Collection.log [] issueKind correction)[2]? = some entry ∧
      entry.answer = .error (.notFound "issue") := ⟨_, rfl, by decide +kernel⟩
  obtain ⟨entry, there, notFound⟩ := refused
  exact ⟨fresh, steady, explained, erased 2 entry _ there notFound, ordered steady⟩

end Correction

end IssueTracker.Store

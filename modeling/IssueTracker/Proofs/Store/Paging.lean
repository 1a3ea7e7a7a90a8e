import IssueTracker.Proofs.Store.Naming

/-!
# Lists read page by page

A client who wants all rows that a list request finds reads one page after the other and stops at
the first that is not full. Between two pages others have their turn. Rows are appended and never
moved, so what was found before a call is found after it in the same places; all that calls can do
to a walk is to give it more rows at its end. A walk has read, each once and in order, what is found
when it reads its last page.

That holds of what is found by the empty text, where others may do anything, as far as identifiers
are seen. A change may make a row match that did not, or no longer match; so if there is a text to
look for it holds only as long as nobody changes rows, but then of the rows as a whole.
-/

/-- A longer list has the same slices as the shorter one that it begins with. -/
theorem List.take_drop_of_prefix {α : Type} {front whole : List α} (begins : front <+: whole)
    {offset count : Nat} (within : offset + count ≤ front.length) :
    (whole.drop offset).take count = (front.drop offset).take count := by
  obtain ⟨rest, rfl⟩ := begins
  rw [List.drop_append_of_le_length (by omega),
    List.take_append_of_le_length (by rw [List.length_drop]; omega)]

namespace IssueTracker

/-- A page has room for a row, whatever limit is asked for. -/
theorem Listing.limit_ofParts_pos (query : Option String) (limit offset : Option Nat) :
    0 < (Listing.ofParts query limit offset).limit := by
  rcases limit with _ | _ | limit <;> simp [Listing.ofParts, Listing.defaultLimit]

namespace Store

variable {α σ ο φ : Type}

/-- Whether a call asks for a row that is there to be changed. -/
def Call.isUpdate : Call ο φ → Bool
  | .update _ _ _ => true
  | _ => false

/-- Whether rows have become more, as far as they are seen: those before are seen as they were, and
the new ones come behind them in the order in which their identifiers were drawn. -/
def Extends (see : Row σ ο φ → α) (drawn : List Uuid) (before after : List (Row σ ο φ)) : Prop :=
  ∃ new : List (Row σ ο φ),
    after.map see = before.map see ++ new.map see ∧ (new.map (·.id)).Sublist drawn

section Extension

variable {see : Row σ ο φ → α} {drawn more : List Uuid} {one other another : List (Row σ ο φ)}

theorem extends_of_eq (same : other.map see = one.map see) : Extends see drawn one other :=
  ⟨[], by simp [same], List.nil_sublist _⟩

theorem Extends.trans (first : Extends see drawn one other)
    (second : Extends see more other another) :
    Extends see (drawn ++ more) one another := by
  obtain ⟨new, grown, inOrder⟩ := first
  obtain ⟨newer, grownAgain, inOrderToo⟩ := second
  refine ⟨new ++ newer, ?_, ?_⟩
  · rw [grownAgain, grown, List.map_append, List.append_assoc]
  · rw [List.map_append]
    exact inOrder.append inOrderToo

theorem Extends.isPrefix (extended : Extends see drawn one other) :
    one.map see <+: other.map see := by
  obtain ⟨new, grown, -⟩ := extended
  exact ⟨new.map see, grown.symm⟩

end Extension

/-- Whether the pages of a walk have the rows that were there before it, each of them, and each
once. What was created meanwhile comes behind them. -/
structure IsThorough (before : List (Row σ ο φ)) (drawn : List Uuid)
    (pages : List (List (Row σ ο φ))) : Prop where
  /-- No row is read twice. -/
  distinct : (pages.flatten.map (·.id)).Nodup
  /-- No row is missed that was there. -/
  complete : ∀ row ∈ before, row.id ∈ pages.flatten.map (·.id)
  /-- All are read in the order of their creation. -/
  ordered : ∃ created, pages.flatten.map (·.id) = before.map (·.id) ++ created ∧
    created.Sublist drawn

/-- A list cut into slices from an offset on. All are full but the last, which is not and may be
empty. -/
def slices (limit offset : Nat) (items : List α) : List (List α) :=
  (List.range ((items.length - offset) / limit + 1)).map fun i =>
    (items.drop (offset + i * limit)).take limit

section Slices

variable {limit offset : Nat} {items : List α}

theorem slices_of_short (short : items.length - offset < limit) :
    slices limit offset items = [(items.drop offset).take limit] := by
  simp [slices, Nat.div_eq_of_lt short]

theorem slices_of_full (positive : 0 < limit) (full : limit ≤ items.length - offset) :
    slices limit offset items =
      (items.drop offset).take limit :: slices limit (offset + limit) items := by
  have count : (items.length - offset) / limit =
      (items.length - (offset + limit)) / limit + 1 := by
    rw [Nat.div_eq_sub_div positive full, Nat.sub_sub]
  have further (i : Nat) : offset + (i + 1) * limit = offset + limit + i * limit := by
    rw [Nat.add_mul, Nat.one_mul]
    omega
  rw [slices, slices, count, List.range_succ_eq_map, List.map_cons, List.map_map]
  simp only [Nat.zero_mul, Nat.add_zero, List.cons.injEq, true_and]
  exact List.map_congr_left fun i _ => by simp only [Function.comp_apply, further]

end Slices

namespace Collection

variable [DecidableEq σ] {kind : Kind φ} {scope : σ} {query : String} {limit offset : Nat}
  {rows : Collection σ ο φ} {asks : List (Ask σ ο φ)} {pages : List (List (Row σ ο φ))}

/-- The rows of a scope that match a text. -/
def found (rows : Collection σ ο φ) (kind : Kind φ) (scope : σ) (query : String) :
    List (Row σ ο φ) :=
  (rows.owned scope).filter fun row => Listing.isMatch ⟨query, 0, 0⟩ (kind.label row.fields)

/-- A walk over the rows of a scope that match a text, from an offset on: the calls that others make
between its pages, and the pages. -/
inductive Walk (kind : Kind φ) (scope : σ) (query : String) (limit : Nat) :
    Collection σ ο φ → Nat → List (Ask σ ο φ) → List (List (Row σ ο φ)) → Prop
  /-- A page that is not full is the last. -/
  | last {rows : Collection σ ο φ} {offset : Nat}
      (short : (rows.list kind scope ⟨query, limit, offset⟩).length < limit) :
      Walk kind scope query limit rows offset [] [rows.list kind scope ⟨query, limit, offset⟩]
  /-- Behind one that is full others have their turn, and then the next is read. -/
  | further {rows : Collection σ ο φ} {offset : Nat} {asks later : List (Ask σ ο φ)}
      {pages : List (List (Row σ ο φ))}
      (full : limit ≤ (rows.list kind scope ⟨query, limit, offset⟩).length)
      (rest : Walk kind scope query limit (rows.after kind asks) (offset + limit) later pages) :
      Walk kind scope query limit rows offset (asks ++ later)
        (rows.list kind scope ⟨query, limit, offset⟩ :: pages)

/-- A page is a slice of the rows that are found. -/
theorem list_eq (rows : Collection σ ο φ) :
    rows.list kind scope ⟨query, limit, offset⟩ =
      ((rows.found kind scope query).drop offset).take limit := rfl

/-- The empty text is found in all rows. -/
theorem found_empty (rows : Collection σ ο φ) : rows.found kind scope "" = rows.owned scope := by
  simp [found, Listing.isMatch]

/-- The identifiers in a scope stay where they are, whatever call is made. -/
theorem extends_owned_answer (rows : Collection σ ο φ) (kind : Kind φ) (ask : Ask σ ο φ) :
    Extends (·.id) ask.call.drawn?.toList (rows.owned scope)
      ((rows.answer kind ask.scope ask.call).1.owned scope) := by
  obtain ⟨place, call⟩ := ask
  rcases rows.answer_cases kind place call with
    ⟨same, -⟩ | ⟨origin, fields, id, now, rfl, -, done⟩ |
      ⟨id, fields, now, front, old, back, rfl, -, rfl, -, -, done⟩
  · exact extends_of_eq (by rw [same])
  · refine ⟨[Row.made place origin fields id now].filter (·.scope = scope), ?_, ?_⟩
    · simp [done, owned]
    · exact ((List.filter_sublist).map _).trans (by simp [Call.drawn?, Row.made])
  · refine extends_of_eq ?_
    by_cases its : old.scope = scope <;> simp [done, owned, its]

/-- What matches a text stays as it is, unless a row is changed. -/
theorem extends_found_answer (rows : Collection σ ο φ) (kind : Kind φ) (scope : σ)
    (query : String) {ask : Ask σ ο φ} (unchanging : ask.call.isUpdate = false) :
    Extends (fun row => row) ask.call.drawn?.toList (rows.found kind scope query)
      ((rows.answer kind ask.scope ask.call).1.found kind scope query) := by
  obtain ⟨place, call⟩ := ask
  rcases rows.answer_cases kind place call with
    ⟨same, -⟩ | ⟨origin, fields, id, now, rfl, -, done⟩ | ⟨id, fields, now, _, _, _, rfl, -⟩
  · exact extends_of_eq (by rw [same])
  · refine ⟨found [Row.made place origin fields id now] kind scope query, ?_, ?_⟩
    · simp [done, found, owned]
    · exact ((List.filter_sublist.trans List.filter_sublist).map _).trans
        (by simp [Call.drawn?, Row.made])
  · cases unchanging

/-- What every single call does to what is seen of the rows that are found, all of them do. -/
theorem extends_after (see : Row σ ο φ → α)
    (steps : ∀ rows : Collection σ ο φ, ∀ ask ∈ asks,
      Extends see ask.call.drawn?.toList (rows.found kind scope query)
        ((rows.answer kind ask.scope ask.call).1.found kind scope query))
    (rows : Collection σ ο φ) :
    Extends see (drawnBy asks) (rows.found kind scope query)
      ((rows.after kind asks).found kind scope query) := by
  induction asks generalizing rows with
  | nil => exact extends_of_eq rfl
  | cons ask asks inductionHypothesis =>
    have first := steps rows ask (by simp)
    have others := inductionHypothesis
      (fun rows other member => steps rows other (by simp [member]))
      (rows.answer kind ask.scope ask.call).1
    have drawn : drawnBy (ask :: asks) = ask.call.drawn?.toList ++ drawnBy asks := by
      rw [← drawnBy_singleton, ← drawnBy_append, List.singleton_append]
    rw [drawn]
    exact first.trans others

/-- A walk has read what is found at its end. Each full page is a slice of what is found when it is
read, and as that is what everything found later begins with, a slice of what is found at the end;
the last page is all that remains. -/
theorem Walk.map_flatten (see : Row σ ο φ → α) (positive : 0 < limit)
    (walk : Walk kind scope query limit rows offset asks pages)
    (steps : ∀ rows : Collection σ ο φ, ∀ ask ∈ asks,
      Extends see ask.call.drawn?.toList (rows.found kind scope query)
        ((rows.answer kind ask.scope ask.call).1.found kind scope query)) :
    pages.flatten.map see =
      (((rows.after kind asks).found kind scope query).map see).drop offset := by
  induction walk with
  | @last rows offset short =>
    rw [list_eq, List.length_take] at short
    have all : (rows.found kind scope query).length - offset ≤ limit := by
      rw [List.length_drop] at short
      omega
    simp only [after_nil, List.flatten_cons, List.flatten_nil, List.append_nil, list_eq]
    rw [List.take_of_length_le (by rw [List.length_drop]; exact all), List.map_drop]
  | @further rows offset asks later pages full rest inductionHypothesis =>
    rw [list_eq, List.length_take, List.length_drop] at full
    have others := inductionHypothesis fun rows ask member => steps rows ask (by simp [member])
    have begins := (extends_after see steps rows).isPrefix
    have slice : ((((rows.after kind (asks ++ later)).found kind scope query).map see).drop
        offset).take limit = (((rows.found kind scope query).map see).drop offset).take limit :=
      List.take_drop_of_prefix begins (by rw [List.length_map]; omega)
    rw [List.flatten_cons, List.map_append, others, list_eq, List.map_take, List.map_drop, ← slice,
      after_append, ← List.drop_drop, List.take_append_drop]

/-- Calls that draw no identifier that a row has, and none twice, keep the rows apart. -/
theorem DrawnFrom.after {ids : List Uuid} (drawn : rows.DrawnFrom ids)
    (fresh : (ids ++ drawnBy asks).Nodup) :
    (rows.after kind asks).DrawnFrom (ids ++ drawnBy asks) := by
  induction asks using List.reverseRecOn with
  | nil => simpa [drawnBy] using drawn
  | append_singleton asks ask inductionHypothesis =>
    rw [drawnBy_append, ← List.append_assoc, drawnBy_singleton] at fresh ⊢
    obtain ⟨before, -, apart⟩ := List.nodup_append.mp fresh
    rw [after_append, after_cons, after_nil]
    refine (inductionHypothesis before).answer fun id brought earlier => ?_
    exact apart id earlier id (by simp [brought]) rfl

/-- A walk that has read what is found at the end, which is more than was found before, is thorough.
-/
theorem isThorough_of_found {pages : List (List (Row σ ο φ))}
    (fresh : (rows.map (·.id) ++ drawnBy asks).Nodup)
    (read : pages.flatten.map (·.id) =
      ((rows.after kind asks).found kind scope query).map (·.id))
    (extended : Extends (·.id) (drawnBy asks) (rows.found kind scope query)
      ((rows.after kind asks).found kind scope query)) :
    IsThorough (rows.found kind scope query) (drawnBy asks) pages := by
  obtain ⟨new, grown, inOrder⟩ := extended
  have ordered : pages.flatten.map (·.id) =
      (rows.found kind scope query).map (·.id) ++ new.map (·.id) := read.trans grown
  have drawn : rows.DrawnFrom (rows.map (·.id)) :=
    ⟨(List.nodup_append.mp fresh).1, fun row member => List.mem_map_of_mem member⟩
  constructor
  case distinct =>
    rw [read]
    have some : ((rows.after kind asks).found kind scope query).Sublist (rows.after kind asks) :=
      List.filter_sublist.trans List.filter_sublist
    exact (some.map _).nodup (drawn.after fresh).distinct
  case complete =>
    intro row member
    rw [ordered]
    exact List.mem_append_left _ (List.mem_map_of_mem member)
  case ordered => exact ⟨new.map (·.id), ordered, inOrder⟩

/-- Without others a walk has one way to go: its pages are the slices of what is found. -/
theorem walk_alone_iff (positive : 0 < limit) :
    Walk kind scope query limit rows offset [] pages ↔
      pages = slices limit offset (rows.found kind scope query) := by
  constructor
  · intro walk
    generalize none : ([] : List (Ask σ ο φ)) = asks at walk
    induction walk with
    | last short =>
      rw [list_eq, List.length_take, List.length_drop] at short
      rw [list_eq, slices_of_short (by omega)]
    | further full rest inductionHypothesis =>
      obtain ⟨rfl, rfl⟩ := List.append_eq_nil_iff.mp none.symm
      rw [list_eq, List.length_take, List.length_drop] at full
      rw [list_eq, slices_of_full positive (by omega), inductionHypothesis rfl, after_nil]
  · rintro rfl
    -- As many full pages are still to be read as the limit goes into what is left.
    generalize left : ((rows.found kind scope query).length - offset) / limit = reads
    induction reads generalizing offset with
    | zero =>
      have short : (rows.found kind scope query).length - offset < limit := by
        rcases Nat.div_eq_zero_iff.mp left with none | short
        · omega
        · exact short
      rw [slices_of_short short, ← list_eq]
      refine .last ?_
      rw [list_eq, List.length_take, List.length_drop]
      omega
    | succ reads inductionHypothesis =>
      have full : limit ≤ (rows.found kind scope query).length - offset := by
        by_contra short
        rw [Nat.div_eq_of_lt (by omega)] at left
        cases left
      have fewer : ((rows.found kind scope query).length - (offset + limit)) / limit = reads := by
        rw [Nat.div_eq_sub_div positive full, Nat.sub_sub] at left
        omega
      rw [slices_of_full positive full, ← list_eq]
      change Walk kind scope query limit rows offset ([] ++ []) _
      refine .further ?_ (inductionHypothesis fewer)
      rw [list_eq, List.length_take, List.length_drop]
      omega

/-- Walks over pages neither lose nor repeat rows. Whatever calls others make between the pages, a
walk that looks for no text reads every row of the scope that was there before it, each row once and
in the order of creation; one that looks for a text does so with the rows that match, if the calls
change no row. If there are no such calls, its pages are the slices of the rows that match. And no
list request has a limit of nothing, with which walks would not end. -/
theorem walks_thorough (kind : Kind φ) (scope : σ) (rows : Collection σ ο φ) (limit : Nat)
    (positive : 0 < limit) :
    (∀ asks pages, Walk kind scope "" limit rows 0 asks pages →
      (rows.map (·.id) ++ drawnBy asks).Nodup →
        IsThorough (rows.owned scope) (drawnBy asks) pages ∧
          pages.flatten.map (·.id) = ((rows.after kind asks).owned scope).map (·.id)) ∧
    (∀ query asks pages, Walk kind scope query limit rows 0 asks pages →
      (∀ ask ∈ asks, ask.call.isUpdate = false) → (rows.map (·.id) ++ drawnBy asks).Nodup →
        IsThorough (rows.found kind scope query) (drawnBy asks) pages ∧
          pages.flatten = (rows.after kind asks).found kind scope query) ∧
    (∀ query pages, Walk kind scope query limit rows 0 [] pages ↔
      pages = slices limit 0 (rows.found kind scope query)) ∧
    (∀ query, (slices limit 0 (rows.found kind scope query)).flatten =
      rows.found kind scope query) ∧
    ∀ query limit offset, 0 < (Listing.ofParts query limit offset).limit := by
  have exactly {query : String} {asks : List (Ask σ ο φ)} {pages : List (List (Row σ ο φ))}
      (walk : Walk kind scope query limit rows 0 asks pages)
      (unchanging : ∀ ask ∈ asks, ask.call.isUpdate = false) :
      pages.flatten = (rows.after kind asks).found kind scope query := by
    simpa using walk.map_flatten (fun row => row) positive fun rows ask member =>
      rows.extends_found_answer kind scope query (unchanging ask member)
  refine ⟨?_, ?_, fun query pages => walk_alone_iff positive, ?_, Listing.limit_ofParts_pos⟩
  · intro asks pages walk fresh
    have steps : ∀ rows : Collection σ ο φ, ∀ ask ∈ asks,
        Extends (·.id) ask.call.drawn?.toList (rows.found kind scope "")
          ((rows.answer kind ask.scope ask.call).1.found kind scope "") := fun rows ask _ => by
      rw [found_empty, found_empty]
      exact rows.extends_owned_answer kind ask
    have read := walk.map_flatten (·.id) positive steps
    have thorough := isThorough_of_found fresh read (extends_after (·.id) steps rows)
    rw [found_empty] at read thorough
    exact ⟨thorough, read⟩
  · intro query asks pages walk unchanging fresh
    have read := exactly walk unchanging
    refine ⟨isThorough_of_found fresh (by rw [read]) ?_, read⟩
    obtain ⟨new, grown, inOrder⟩ := extends_after (fun row => row)
      (fun rows ask member => rows.extends_found_answer kind scope query (unchanging ask member))
      rows
    refine ⟨new, ?_, inOrder⟩
    rw [List.map_id', List.map_id', List.map_id'] at grown
    rw [grown, List.map_append]
  · intro query
    exact exactly ((walk_alone_iff positive).mpr rfl) (by simp)

section Browsing

/-- Three projects of two customers. -/
def browsed : Collection Uuid Unit Profile := [
  .made (numbered 8) () (named "a") (numbered 1) ⟨1, 0⟩,
  .made (numbered 9) () (named "a") (numbered 2) ⟨2, 0⟩,
  .made (numbered 8) () (named "ab") (numbered 3) ⟨3, 0⟩]

/-- A project is created for each of the customers. -/
def additions : List (Ask Uuid Unit Profile) := [
  ⟨numbered 9, .create () (named "b") (numbered 4) ⟨4, 0⟩⟩,
  ⟨numbered 8, .create () (named "ba") (numbered 5) ⟨5, 0⟩⟩]

/-- Besides, one gets another name. -/
def alterations : List (Ask Uuid Unit Profile) :=
  ⟨numbered 8, .update (numbered 1) (named "z") ⟨6, 0⟩⟩ :: additions

/-- The projects of a customer are read two by two. The one that is created behind the first page is
read as well, and the one with another name is not read again. So it is when those are read that
have a certain letter in their names. -/
theorem browsed_thorough :
    (∃ pages, Walk projectKind (numbered 8) "" 2 browsed 0 alterations pages ∧
      pages.map (·.map (·.id)) = [[numbered 1, numbered 3], [numbered 5]] ∧
        IsThorough (browsed.owned (numbered 8)) [numbered 4, numbered 5] pages) ∧
    ∃ pages, Walk projectKind (numbered 8) "A" 2 browsed 0 additions pages ∧
      pages.map (·.map (·.id)) = [[numbered 1, numbered 3], [numbered 5]] ∧
        IsThorough (browsed.found projectKind (numbered 8) "A") [numbered 4, numbered 5] pages := by
  obtain ⟨all, matching, -⟩ :=
    walks_thorough projectKind (numbered 8) browsed 2 (by decide)
  have walk : Walk projectKind (numbered 8) "" 2 browsed 0 (alterations ++ []) _ :=
    .further (by decide +kernel) (.last (by decide +kernel))
  have search : Walk projectKind (numbered 8) "A" 2 browsed 0 (additions ++ []) _ :=
    .further (by decide +kernel) (.last (by decide +kernel))
  rw [List.append_nil] at walk search
  exact ⟨⟨_, walk, by decide +kernel, (all _ _ walk (by decide +kernel)).1⟩,
    ⟨_, search, by decide +kernel, (matching _ _ _ search (by decide +kernel)
      (by decide +kernel)).1⟩⟩

end Browsing

end Collection

end Store

end IssueTracker

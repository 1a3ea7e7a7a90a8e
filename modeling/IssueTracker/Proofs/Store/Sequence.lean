import IssueTracker.Proofs.Store.Effect
import IssueTracker.Store.Records
import Mathlib.Data.List.Induction

/-!
# Calls one after another

Calls on one collection, and calls on the stores, made one after another. What is kept of them is
the rows at the end, and a log of the calls with their answers. Each store sees only the calls on
itself, so what calls on all the stores leave in one of them is what the calls on that one leave
there.
-/

/-- What one more item gives comes last. -/
theorem List.filterMap_concat {α β : Type} (give : α → Option β) (items : List α) (item : α) :
    (items ++ [item]).filterMap give = items.filterMap give ++ (give item).toList := by
  cases given : give item <;> simp [given]

namespace IssueTracker.Store

variable {σ ο φ : Type}

/-- A call on a collection, with the scope in which it is made. -/
structure Ask (σ ο φ : Type) where
  scope : σ
  call : Call ο φ
deriving DecidableEq

/-- A call that was made on a collection, with its answer. -/
structure Entry (σ ο φ : Type) where
  ask : Ask σ ο φ
  answer : Except StoreError (Reply (Row σ ο φ))

/-- The identifier with a number. -/
def numbered (n : Nat) : Uuid := ⟨BitVec.ofNat 128 n⟩

/-- The identifiers that calls bring along for new rows. -/
def drawnBy (asks : List (Ask σ ο φ)) : List Uuid := asks.filterMap (·.call.drawn?)

@[simp] theorem drawnBy_append (first second : List (Ask σ ο φ)) :
    drawnBy (first ++ second) = drawnBy first ++ drawnBy second :=
  List.filterMap_append

@[simp] theorem drawnBy_singleton (ask : Ask σ ο φ) : drawnBy [ask] = ask.call.drawn?.toList := by
  cases drawn : ask.call.drawn? <;> simp [drawnBy, drawn]

/-- If no identifier is drawn twice, the last call draws one that was not drawn before. -/
theorem fresh_of_concat {asks : List (Ask σ ο φ)} {ask : Ask σ ο φ}
    (fresh : (drawnBy (asks ++ [ask])).Nodup) :
    (drawnBy asks).Nodup ∧ ∀ id, ask.call.drawn? = some id → id ∉ drawnBy asks := by
  simp only [drawnBy_append, drawnBy_singleton] at fresh
  refine ⟨(List.nodup_append.mp fresh).1, fun id drawn earlier => ?_⟩
  exact (List.nodup_append.mp fresh).2.2 id earlier id (by simp [drawn]) rfl

namespace Collection

variable [DecidableEq σ]

/-- The collection when calls are made. -/
def after (rows : Collection σ ο φ) (kind : Kind φ) (asks : List (Ask σ ο φ)) : Collection σ ο φ :=
  asks.foldl (fun rows ask => (rows.answer kind ask.scope ask.call).1) rows

/-- The calls with their answers. -/
def log (rows : Collection σ ο φ) (kind : Kind φ) : List (Ask σ ο φ) → List (Entry σ ο φ)
  | [] => []
  | ask :: asks =>
    let (next, answer) := rows.answer kind ask.scope ask.call
    ⟨ask, answer⟩ :: next.log kind asks

variable {rows : Collection σ ο φ} {kind : Kind φ}

@[simp] theorem after_nil : rows.after kind [] = rows := rfl

@[simp] theorem after_cons (ask : Ask σ ο φ) (asks : List (Ask σ ο φ)) :
    rows.after kind (ask :: asks) =
      ((rows.answer kind ask.scope ask.call).1).after kind asks := rfl

@[simp] theorem after_append (first second : List (Ask σ ο φ)) :
    rows.after kind (first ++ second) = (rows.after kind first).after kind second :=
  List.foldl_append

@[simp] theorem log_nil : rows.log kind [] = [] := rfl

@[simp] theorem log_cons (ask : Ask σ ο φ) (asks : List (Ask σ ο φ)) :
    rows.log kind (ask :: asks) =
      ⟨ask, (rows.answer kind ask.scope ask.call).2⟩ ::
        ((rows.answer kind ask.scope ask.call).1).log kind asks := rfl

/-- The log of more calls is that of the first ones, continued where they end. -/
theorem log_append (first second : List (Ask σ ο φ)) :
    rows.log kind (first ++ second) =
      rows.log kind first ++ (rows.after kind first).log kind second := by
  induction first generalizing rows with
  | nil => rfl
  | cons ask first inductionHypothesis => simp [inductionHypothesis]

/-- The log has all calls, in order. -/
theorem map_ask_log (asks : List (Ask σ ο φ)) : (rows.log kind asks).map (·.ask) = asks := by
  induction asks generalizing rows with
  | nil => rfl
  | cons ask asks inductionHypothesis => simp [inductionHypothesis]

/-- Each call in the log is answered by the collection as the calls before it leave it. -/
theorem exists_of_log_eq {asks : List (Ask σ ο φ)} {earlier later : List (Entry σ ο φ)}
    {entry : Entry σ ο φ} (shape : rows.log kind asks = earlier ++ entry :: later) :
    ∃ before rest, asks = before ++ entry.ask :: rest ∧ rows.log kind before = earlier ∧
      entry.answer = ((rows.after kind before).answer kind entry.ask.scope entry.ask.call).2 := by
  induction earlier generalizing rows asks with
  | nil =>
    cases asks with
    | nil => cases shape
    | cons ask asks =>
      cases shape
      exact ⟨[], asks, rfl, rfl, rfl⟩
  | cons first earlier inductionHypothesis =>
    cases asks with
    | nil => cases shape
    | cons ask asks =>
      simp only [log_cons, List.cons_append, List.cons.injEq] at shape
      obtain ⟨rfl, others⟩ := shape
      obtain ⟨before, rest, rfl, logged, answered⟩ := inductionHypothesis others
      exact ⟨ask :: before, rest, rfl, by rw [log_cons, logged], answered⟩

/-- A call that is refused might as well not be made: all others are answered as without it. -/
theorem log_eraseIdx {asks : List (Ask σ ο φ)} {i : Nat} {entry : Entry σ ο φ}
    {refusal : StoreError} (there : (rows.log kind asks)[i]? = some entry)
    (refused : entry.answer = .error refusal) :
    rows.log kind (asks.eraseIdx i) = (rows.log kind asks).eraseIdx i := by
  induction asks generalizing rows i with
  | nil => cases there
  | cons ask asks inductionHypothesis =>
    cases i with
    | zero =>
      simp only [log_cons, List.getElem?_cons_zero, Option.some.injEq] at there
      subst there
      simp [answer_of_refused refused]
    | succ i =>
      simp only [log_cons, List.getElem?_cons_succ] at there
      simp [inductionHypothesis there]

/-- Calls that draw no identifier twice leave rows with different identifiers, all of them drawn. -/
theorem drawnFrom_after (kind : Kind φ) {asks : List (Ask σ ο φ)} (fresh : (drawnBy asks).Nodup) :
    (after [] kind asks).DrawnFrom (drawnBy asks) := by
  induction asks using List.reverseRecOn with
  | nil => exact drawnFrom_nil
  | append_singleton asks ask inductionHypothesis =>
    obtain ⟨before, last⟩ := fresh_of_concat fresh
    simpa using (inductionHypothesis before).answer last

end Collection

/-- The identifier that a call on the stores brings along for a new row. -/
def StoreCall.drawn? : StoreCall → Option Uuid
  | .customers call => call.drawn?
  | .projects _ call => call.drawn?
  | .issues _ call => call.drawn?
  | .comments _ call => call.drawn?

/-- The call on the customers that a call on the stores is, if it is one. -/
def StoreCall.onCustomers? : StoreCall → Option (Ask Unit Unit Profile)
  | .customers call => some ⟨(), call⟩
  | _ => none

/-- The call on the projects that a call on the stores is, if it is one. -/
def StoreCall.onProjects? : StoreCall → Option (Ask Uuid Unit Profile)
  | .projects customer call => some ⟨customer, call⟩
  | _ => none

namespace Stores

/-- The stores when calls are made. -/
def after (stores : Stores) (calls : List StoreCall) : Stores :=
  calls.foldl (fun stores call => (stores.answer call).1) stores

/-- The calls with their answers. -/
def log (stores : Stores) : List StoreCall → List (StoreCall × Except StoreError Shown)
  | [] => []
  | call :: calls =>
    let (next, answer) := stores.answer call
    (call, answer) :: next.log calls

@[simp] theorem log_cons (stores : Stores) (call : StoreCall) (calls : List StoreCall) :
    stores.log (call :: calls) =
      (call, (stores.answer call).2) :: ((stores.answer call).1).log calls := rfl

/-- If a store is changed by the calls on it only, then what calls leave in it is what those of them
that are on it leave there. -/
theorem after_part [DecidableEq σ] (kind : Kind φ) (part : Stores → Collection σ ο φ)
    (own? : StoreCall → Option (Ask σ ο φ))
    (acts : ∀ stores call,
      part (stores.answer call).1 = (part stores).after kind (own? call).toList)
    (stores : Stores) (calls : List StoreCall) :
    part (stores.after calls) = (part stores).after kind (calls.filterMap own?) := by
  induction calls generalizing stores with
  | nil => rfl
  | cons call calls inductionHypothesis =>
    have later : part (stores.after (call :: calls)) =
        (part (stores.answer call).1).after kind (calls.filterMap own?) :=
      inductionHypothesis (stores.answer call).1
    rw [later, acts]
    cases own : own? call with
    | none => simp [own]
    | some ask => simp [own]

/-- The identifiers that are drawn for one store are among those drawn for all of them, in order. -/
theorem drawnBy_sublist (own? : StoreCall → Option (Ask σ ο φ))
    (brings : ∀ call ask, own? call = some ask → ask.call.drawn? = call.drawn?)
    (calls : List StoreCall) :
    (drawnBy (calls.filterMap own?)).Sublist (calls.filterMap StoreCall.drawn?) := by
  induction calls with
  | nil => exact List.Sublist.refl _
  | cons call calls inductionHypothesis =>
    have split : (call :: calls).filterMap StoreCall.drawn? =
        call.drawn?.toList ++ calls.filterMap StoreCall.drawn? := by
      cases drawn : call.drawn? <;> simp [drawn]
    rw [split]
    cases own : own? call with
    | none =>
      rw [List.filterMap_cons_none own]
      exact inductionHypothesis.trans (List.sublist_append_right _ _)
    | some ask =>
      have first : drawnBy (ask :: calls.filterMap own?) =
          call.drawn?.toList ++ drawnBy (calls.filterMap own?) := by
        rw [← brings call ask own, ← drawnBy_singleton, ← drawnBy_append, List.singleton_append]
      rw [List.filterMap_cons_some own, first]
      exact List.Sublist.append (List.Sublist.refl _) inductionHypothesis

/-- The customers after calls. -/
theorem customers_after (stores : Stores) (calls : List StoreCall) :
    (stores.after calls).customers =
      stores.customers.after customerKind (calls.filterMap StoreCall.onCustomers?) :=
  after_part customerKind Stores.customers StoreCall.onCustomers?
    (fun _ call => by cases call <;> rfl) stores calls

/-- The projects after calls. -/
theorem projects_after (stores : Stores) (calls : List StoreCall) :
    (stores.after calls).projects =
      stores.projects.after projectKind (calls.filterMap StoreCall.onProjects?) :=
  after_part projectKind Stores.projects StoreCall.onProjects?
    (fun _ call => by cases call <;> rfl) stores calls

end Stores

end IssueTracker.Store

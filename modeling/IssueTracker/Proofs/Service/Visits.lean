import IssueTracker.Proofs.Service.Admission

/-!
# Requests one after another

What requests leave in the stores when they are handled whole, one after another. All that a request
does to the stores is to run its errand, if it has one; and that is the errand of an operation for
the customer whose projects are served.
-/

namespace IssueTracker

open Api Auth Http Store

/-- A request with what the outside world supplies for it. -/
structure Visit where
  arrival : Arrival
  request : Request

namespace Service

/-- The stores when requests are handled one after another. -/
def storesAfter (service : Service) (stores : Stores) (visits : List Visit) : Stores :=
  visits.foldl
    (fun stores visit => (service.handle stores visit.arrival visit.request).stores) stores

/-- What a request has the stores do, if it gets as far as that. -/
def errand? (service : Service) (visit : Visit) : Option Errand :=
  match (service.receive visit.arrival visit.request).reception with
  | .settled _ => none
  | .errand errand => some errand

variable {service : Service} {stores : Stores} {visit : Visit} {errand : Errand}

@[simp] theorem storesAfter_concat (visits : List Visit) :
    service.storesAfter stores (visits ++ [visit]) =
      (service.handle (service.storesAfter stores visits) visit.arrival visit.request).stores := by
  simp [storesAfter]

/-- All that is done to the stores is to run the errand. -/
theorem stores_handle (service : Service) (stores : Stores) (visit : Visit) :
    (service.handle stores visit.arrival visit.request).stores =
      match service.errand? visit with
      | none => stores
      | some errand => (stores.run errand).1 := by
  cases received : (service.receive visit.arrival visit.request).reception with
  | settled outcome => simp only [handle, errand?, received]
  | errand errand => simp only [handle, errand?, received]

/-- The errand of a request is what the reception comes to. -/
theorem errand?_eq_some_iff :
    service.errand? visit = some errand ↔
      (service.receive visit.arrival visit.request).reception = .errand errand := by
  unfold errand?
  cases (service.receive visit.arrival visit.request).reception <;> simp

end Service

end IssueTracker

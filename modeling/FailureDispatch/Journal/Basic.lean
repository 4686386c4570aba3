import FailureDispatch.Failure.Batch
import FailureDispatch.Journal.Counter
import FailureDispatch.Journal.Notice

/-!
# The journal

The journal is the append-only record of everything that happens to a
service: what it logs and counts, which collaborators it calls, and what
becomes of each batch.  What an observer learns is a view of the journal, so
a statement about a run is a statement about one list.

The entries about batches, about states and about the contact with the queue
are not shown to observers.  They are kept because the visible entries alone do
not say which batch a call was for, nor who called the queue.
-/

namespace FailureDispatch

/-- What passes between a service and its queue: the calls of the service, and
how each of them ends. -/
inductive Contact where
  /-- The service asks for a batch without a limit on the wait. -/
  | waits
  /-- The service asks for a batch within a time. -/
  | waitsWithin (limit : Nat)
  | gives (batch : Batch)
  /-- The time is up, or nothing can arrive any more. -/
  | givesNothing
  | fails (error : FailureError)
  /-- The service has the queue write its statistics. -/
  | reports (tag : String)
  deriving DecidableEq

inductive Occurrence where
  | logged (notice : Notice)
  | counted (counter : Counter) (amount : Nat)
  /-- A handler is asked whether it supports a batch. -/
  | asked (handler : String)
  /-- A handler is asked whether it is enabled. -/
  | checked (handler : String)
  /-- A handler is given the units with these identifiers. -/
  | handled (handler : String) (units : List String)
  | acknowledged (refs : List String)
  /-- A scripted queue is asked for a batch without a limit on the wait. -/
  | fetched
  /-- A scripted queue is asked for a batch within a time. -/
  | fetchedWithin (wait : Nat)
  /-- A scripted queue is asked for its statistics. -/
  | reported (tag : String)
  /-- A batch was accepted by the queue. -/
  | accepted (batch : Batch)
  | refused (batch : Batch)
  /-- A batch was removed from the queue. -/
  | taken (batch : Batch)
  | dispatchBegun (batch : Batch)
  | dispatchEnded (batch : Batch)
  | entered (state : ServiceState)
  | contact (contact : Contact)
  deriving DecidableEq

namespace Occurrence

/-- Whether an observer of the log and of the collaborators sees the entry. -/
def isVisible : Occurrence → Bool
  | logged _ | asked _ | checked _ | handled _ _ | acknowledged _ | fetched | fetchedWithin _
  | reported _ => true
  | counted _ _ | accepted _ | refused _ | taken _ | dispatchBegun _ | dispatchEnded _
  | entered _ | contact _ => false

end Occurrence

abbrev Journal := List Occurrence

namespace Journal

def visible (journal : Journal) : Journal := journal.filter (·.isVisible)

/-- The counters after everything in the journal has been counted. -/
def totals (journal : Journal) : Totals :=
  journal.foldl (fun totals entry =>
    match entry with
    | .counted counter amount => totals.add counter amount
    | _ => totals) []

end Journal
end FailureDispatch

import FailureDispatch.Deployment.Steps

/-!
# Runs and reports

A run takes steps one after the other.  After each step it reports the answer,
what observers saw since the last report, which calls ended since then, and
how the service and its queue stand.
-/

namespace FailureDispatch

/-- The counters of a queue as they are reported. -/
structure QueueReport where
  submitted : Nat
  consumed : Nat
  size : Nat
  isClosed : Bool
  deriving DecidableEq, Repr

structure Report where
  /-- `none` for a report that no step asked for. -/
  reply : Option Reply
  events : Journal
  ended : List (Nat × Outcome)
  state : ServiceState
  /-- Absent when the queue is not the in-memory one. -/
  queue : Option QueueReport

namespace Deployment

def queueReport? (deployment : Deployment) : Option QueueReport :=
  match deployment.source with
  | .scripted _ => none
  | .buffered queue =>
      some ⟨queue.submitted, queue.consumed, queue.size, !queue.isOpen⟩

/-- Report on what is new since an earlier state of the same run. -/
def reportSince (earlier deployment : Deployment) (reply : Option Reply) : Report where
  reply
  events := Journal.visible (deployment.journal.drop earlier.journal.length)
  ended := deployment.outcomes.drop earlier.outcomes.length
  state := deployment.service.state
  queue := deployment.queueReport?

/-- Take steps, the first of which has the given number.  A step that cannot
be understood has nothing to act on. -/
def run (deployment : Deployment) : Nat → List (Option Step) → List Report × Deployment
  | _, [] => ([], deployment)
  | id, step :: rest =>
      let (reply, after) := match step with
        | some step => deployment.take id step
        | none => (.nothingToActOn, deployment)
      let (reports, last) := after.run (id + 1) rest
      (deployment.reportSince after (some reply) :: reports, last)

/-- The calls that are still under way. -/
def pending (deployment : Deployment) : List Nat := deployment.jobs.map (·.1)

end Deployment
end FailureDispatch

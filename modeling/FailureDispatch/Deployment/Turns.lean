import FailureDispatch.Deployment.Callers
import FailureDispatch.Deployment.Work

/-!
# Turns and time

`tick` gives the first in line one turn.  `settle` goes on until nobody is
left in line, with the clock standing still.  `passTime` moves the clock from
one deadline to the next and settles at each of them.

How many turns a deployment can take before it settles is bounded by
`workload`, which is computed from what is still in it: every turn uses up a
place in line, a step of the worker's life, a batch or a call.
-/

namespace FailureDispatch
namespace Deployment

/-- The first in line leaves the line. -/
def stepBack (deployment : Deployment) : Deployment :=
  { deployment with ready := deployment.ready.tail }

/-- One turn of the first in line. -/
def tick (deployment : Deployment) : Deployment :=
  match deployment.ready with
  | [] => deployment
  | .worker :: _ =>
      match deployment.advanceWorker with
      | (.goesOn, after) => after
      | (.rests, after) => after.stepBack
  | .caller id :: _ => (deployment.advanceCaller id).stepBack

/-- Nobody can act before the clock moves or something comes from outside. -/
def Settled (deployment : Deployment) : Prop := deployment.ready = []

instance (deployment : Deployment) : Decidable deployment.Settled :=
  inferInstanceAs (Decidable (deployment.ready = []))

/-! ## A bound on the turns -/

/-- The turns that a worker has left if it gets no further batch, not counting
those in which it only waits on. -/
def workerTurns (handlers : Nat) (stopRequested : Bool) (worker : Worker) : Nat :=
  match worker with
  | .idle | .done _ | .failed _ | .aborted _ => 0
  | .drainFetching _ _ (.delayed _ _) | .fetching (.delayed _ _) => handlers + 12
  | .drainFetching _ _ _ => 1
  | .draining _ => 2
  | .looping => if stopRequested then 5 else 8
  | .parked => 6
  | .fetching _ => 7
  | .fresh => 9
  | .dispatching _ dispatch =>
      dispatch.pending.length + (if dispatch.current.isSome then 1 else 0) + 9

/-- The turns that a call has left, not counting those in which it only waits
on.  Giving the handle away takes a turn of its own. -/
def callTurns (call : Call) : Nat :=
  match call with
  | .join _ _ => 2
  | _ => 1

/-- The batches that are in the queue. -/
def stock (source : Source) : Nat :=
  match source with
  | .buffered queue => queue.buffer.length
  | .scripted queue => queue.waits.length + queue.drains.length

/-- A bound on the turns of the worker that change something, if no further
batch is submitted. -/
def load (deployment : Deployment) : Nat :=
  workerTurns deployment.service.handlers.length deployment.service.stopRequested
      deployment.service.worker
    + (deployment.service.handlers.length + 20) * stock deployment.source

/-- The turns that the calls have left together. -/
def turnsLeft : List (Nat × Job) → Nat
  | [] => 0
  | entry :: rest => callTurns entry.2.call + turnsLeft rest

/-- The turns that all calls have left. -/
def callersTurns (deployment : Deployment) : Nat := turnsLeft deployment.jobs

/-- A bound on the turns that change something.  Every call may turn out to
bring another batch. -/
def effort (deployment : Deployment) : Nat :=
  deployment.load + (deployment.service.handlers.length + 20) * deployment.jobs.length
    + deployment.callersTurns

/-- A bound on the number of turns before the deployment settles.  The factor
exceeds the number of actors that one turn can wake. -/
def workload (deployment : Deployment) : Nat :=
  (4 * deployment.jobs.length + 20) * deployment.effort + deployment.ready.length

/-- Give turns, at most so many, until nobody is in line. -/
def giveTurns : Nat → Deployment → Deployment
  | 0, deployment => deployment
  | turns + 1, deployment =>
      if deployment.ready.isEmpty then deployment else giveTurns turns deployment.tick

/-- Give turns until nobody is in line. -/
def settle (deployment : Deployment) : Deployment := giveTurns deployment.workload deployment

/-! ## The clock -/

/-- The actors whose wait ends by itself, each with the time at which it does. -/
def alarms (deployment : Deployment) : List (Actor × Nat) :=
  (deployment.service.worker.alarm?.toList.map fun time => (Actor.worker, time)) ++
    deployment.jobs.filterMap fun entry =>
      entry.2.call.alarm?.map fun time => (Actor.caller entry.1, time)

/-- The next time after the present at which a wait ends. -/
def nextAlarm? (deployment : Deployment) : Option Nat :=
  ((deployment.alarms.map (·.2)).filter (deployment.now < ·)).min?

/-- Those whose wait ends at the given time. -/
def dueAt (deployment : Deployment) (time : Nat) : List Actor :=
  (deployment.alarms.filter fun alarm => alarm.2 == time).map (·.1)

/-- Move the clock, and wake those whose wait is over. -/
def ring (deployment : Deployment) (time : Nat) : Deployment :=
  { deployment with now := time }.wakeAll (deployment.dueAt time)

/-- Let so much time pass for a settled deployment. -/
def passTime (remaining : Nat) (deployment : Deployment) : Deployment :=
  match deployment.nextAlarm? with
  | none => { deployment with now := deployment.now + remaining }
  | some time =>
      if _due : deployment.now < time ∧ time ≤ deployment.now + remaining then
        passTime (remaining - (time - deployment.now)) (deployment.ring time).settle
      else { deployment with now := deployment.now + remaining }
termination_by remaining
decreasing_by omega

/-- Settle, let time pass, and be settled again. -/
def advance (deployment : Deployment) (duration : Nat) : Deployment :=
  passTime duration deployment.settle

end Deployment
end FailureDispatch

import FailureDispatch.Deployment.Basic
import FailureDispatch.Text.Quoted

/-!
# The callers' turns

A call under way either ends at its turn or waits on.  Being torn down is a
turn of its own: what the call holds is given back then, and not when the
abort was requested.

A handle that is dropped while it is whole stops its service.  A handle that
waits for the worker is no longer whole, and dropping it stops nothing.
-/

namespace FailureDispatch
namespace Deployment

/-- The words for a worker that was torn down by a panic.  The number of the
worker's task is left open. -/
def abortReason (text : String) : String :=
  "task N panicked with message " ++ Text.quoted text

/-- The service reports to a runtime that has been shut down. -/
def leaveRuntime (deployment : Deployment) (id : Nat) (result : Except FailureError Nat) :
    Deployment :=
  let closed := match deployment.source with
    | .buffered queue => deployment.adopt queue.close.1 queue.close.2
    | .scripted _ => deployment
  match result with
  | .ok count =>
      (closed.log (.disassembled count closed.service.state)).finish id (.drained count)
  | .error error => closed.finish id (.failedInApp (.domain error))

/-- Hand the worker's result to the caller who waited for it. -/
def report (deployment : Deployment) (id : Nat) (door : Door)
    (result : Except FailureError Nat) : Deployment :=
  match door, result with
  | .runtime, result => deployment.leaveRuntime id result
  | .service, .ok count => deployment.finish id (.drained count)
  | .service, .error error => deployment.finish id (.failed error)

/-- Wait for the worker to end.  A worker that was torn down has not entered a
final state itself. -/
def advanceJoin (deployment : Deployment) (id : Nat) (door : Door) : Deployment :=
  match deployment.service.worker with
  | .done count => deployment.report id door (.ok count)
  | .failed error => deployment.report id door (.error error)
  | .aborted text =>
      (deployment.enter .failed).2.report id door (.error (.workerAborted (abortReason text)))
  | _ => deployment

/-- Record what became of a submission. -/
def settleSubmission (deployment : Deployment) (id : Nat) (door : Door) (batch : Batch) :
    SubmissionQueue.Submission → Deployment
  | .accepted => (deployment.note (.accepted batch)).finish id .done
  | .refused error =>
      (deployment.note (.refused batch)).finish id
        (match door with
          | .service => .failed error
          | .runtime => .failedInApp (.domain error))
  | .waiting => deployment.setJob id { call := .submit door batch true }

/-- Tear a call down. -/
def dismantle (deployment : Deployment) (id : Nat) (call : Call) : Deployment :=
  let freed := match call, deployment.source with
    | .submit _ _ true, .buffered queue =>
        deployment.adopt (queue.withdraw (.caller id)).1 (queue.withdraw (.caller id)).2
    | .consume _ place, .buffered queue | .consumeWithin _ place, .buffered queue =>
        deployment.adopt (queue.depart (.caller id) place).1 (queue.depart (.caller id) place).2
    | .join _ _, _ => deployment.requestStop
    | _, _ => deployment
  freed.finish id .aborted

/-- The turn of a call that is not doomed. -/
def advanceCall (deployment : Deployment) (id : Nat) (call : Call) : Deployment :=
  match call, deployment.source with
  | .submit door batch begun, .buffered queue =>
      let (submission, woken, after) :=
        if begun then queue.resume (.caller id) batch else queue.submit (.caller id) batch
      (deployment.adopt woken after).settleSubmission id door batch submission
  | .consume token place, .buffered queue =>
      if token ∈ deployment.cancelled then
        let (woken, left) := queue.depart (.caller id) place
        (deployment.adopt woken left).finish id (.failed .cancelled)
      else
        match queue.seek (.caller id) place with
        | (.item batch, woken, after) =>
            ((deployment.adopt woken after).note (.taken batch)).finish id (.took batch)
        | (.exhausted, woken, after) =>
            (deployment.adopt woken after).finish id (.failed .queueClosed)
        | (.waiting place, woken, after) =>
            (deployment.adopt woken after).setJob id { call := .consume token place }
  | .consumeWithin deadline place, .buffered queue =>
      match queue.seek (.caller id) place with
      | (.item batch, woken, after) =>
          ((deployment.adopt woken after).note (.taken batch)).finish id (.took batch)
      | (.exhausted, woken, after) => (deployment.adopt woken after).finish id .nothing
      | (.waiting place, woken, after) =>
          let waiting := deployment.adopt woken after
          if deadline ≤ deployment.now then
            let (freed, left) := after.depart (.caller id) place
            (waiting.adopt freed left).finish id .nothing
          else waiting.setJob id { call := .consumeWithin deadline place }
  | .join door stopFirst, _ =>
      let stopped := if stopFirst then deployment.requestStop else deployment
      (stopped.setJob id { call := .joining door }).advanceJoin id door
  | .joining door, _ => deployment.advanceJoin id door
  | .awaitRunning, _ =>
      match deployment.service.state with
      | .new | .starting => deployment
      | .running => deployment.finish id .done
      | state => deployment.finish id (.failed (.unexpectedState .running state))
  | .awaitTerminated, _ =>
      if deployment.service.state.isTerminal then
        deployment.finish id (.state deployment.service.state)
      else deployment
  | _, .scripted _ => deployment

/-- The turn of a caller.  One whose call has ended has nothing to do. -/
def advanceCaller (deployment : Deployment) (id : Nat) : Deployment :=
  match deployment.job? id with
  | none => deployment
  | some ⟨call, true⟩ => deployment.dismantle id call
  | some ⟨call, false⟩ => deployment.advanceCall id call

end Deployment
end FailureDispatch

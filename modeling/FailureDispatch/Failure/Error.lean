import FailureDispatch.Failure.Basic
import FailureDispatch.Service.State

/-!
# What can go wrong with failures

One type covers the construction of batches, the handlers, the submission
queue and the life of the service.  An error is kept as its cause;
`FailureError.message` is the one place that words it.
-/

namespace FailureDispatch

inductive FailureError where
  | emptyBatch
  | mixedBatch (expected found : FailureType)
  | handler (name reason : String)
  | handlerPanicked (name : String)
  /-- A wait for a batch was given up on request. -/
  | cancelled
  | queueClosed
  | queueFull (capacity : Nat)
  | illegalTransition (state next : ServiceState)
  | unexpectedState (expected actual : ServiceState)
  | workerAborted (reason : String)
  deriving DecidableEq, Repr

namespace FailureError

def message : FailureError → String
  | emptyBatch => "failure batch must contain at least one failure"
  | mixedBatch expected found =>
      "mixed failure batch: expected=" ++ expected.text ++ ", found=" ++ found.text
  | handler name reason => "failure handler error: handler=" ++ name ++ ", reason=" ++ reason
  | handlerPanicked name => "failure handler panicked: handler=" ++ name
  | cancelled => "consume cancelled"
  | queueClosed => "submission queue closed"
  | queueFull capacity => "submission queue full: capacity=" ++ toString capacity
  | illegalTransition state next =>
      "illegal service state transition: from=" ++ state.text ++ ", to=" ++ next.text
  | unexpectedState expected actual =>
      "unexpected service state: expected=" ++ expected.text ++ ", actual=" ++ actual.text
  | workerAborted reason => "service worker aborted: " ++ reason

end FailureError
end FailureDispatch

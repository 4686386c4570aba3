import FailureDispatch.Failure.Error

/-!
# Log notices

Everything that is written to the log, one constructor per kind of notice.
What a notice says is data; `level`, `text` and `fields` are the only places
that know how it is presented.
-/

namespace FailureDispatch

/-- The counters of a submission queue at one moment. -/
structure QueueStats where
  size : Nat
  capacity : Nat
  submitted : Nat
  consumed : Nat
  rejected : Nat
  deriving DecidableEq, Repr

inductive Notice where
  | registered (handler : String)
  | startingUp (handlers : Nat) (fallback : String)
  | upAndRunning
  /-- The worker's wait for a batch was given up on request. -/
  | interrupted (queueSize : Nat)
  | queueClosed
  | fetchFailed (error : FailureError)
  /-- The worker takes no further batch except to drain the queue. -/
  | loopLeft
  | stopRequested
  | stats (tag : String) (figures : QueueStats)
  | selectionPanicked (handler : String) (type : FailureType)
  | handlerFailed (handler : String) (type : FailureType) (size : Nat) (error : FailureError)
  | discarded (type : FailureType) (size : Nat)
  | drained (count : Nat)
  | drainFailed (error : FailureError) (count : Nat)
  | assembled (capacity shutdownAwait : Nat)
  | disassembled (count : Nat) (state : ServiceState)
  /-- One failure, written by the logging handler. -/
  | failure (record : Failure)
  deriving DecidableEq, Repr

inductive LogLevel where
  | debug
  | info
  | warn
  | error
  deriving DecidableEq, Repr

def LogLevel.text : LogLevel → String
  | debug => "debug"
  | info => "info"
  | warn => "warn"
  | error => "error"

/-- The value of a field of a notice. -/
inductive FieldValue where
  | number (value : Nat)
  | text (value : String)
  deriving DecidableEq, Repr

namespace Notice

def level : Notice → LogLevel
  | registered _ | startingUp _ _ | upAndRunning | loopLeft | stopRequested => .debug
  | interrupted _ | stats _ _ | drained _ | assembled _ _ | disassembled _ _ => .info
  | discarded _ _ | failure _ => .warn
  | queueClosed | fetchFailed _ | selectionPanicked _ _ | handlerFailed _ _ _ _
  | drainFailed _ _ => .error

def text : Notice → String
  | registered _ => "registered failure handler"
  | startingUp _ _ => "starting up the failure handling service"
  | upAndRunning => "the failure handling service is up and running"
  | interrupted _ => "the service's worker has been interrupted"
  | queueClosed => "submission queue closed while the service is running"
  | fetchFailed _ => "error occurred while handling failures"
  | loopLeft => "the failure handling service has been interrupted"
  | stopRequested => "requested to shut down"
  | stats _ _ => "failure submission queue stats"
  | selectionPanicked _ _ => "failure handler panicked while being selected, skipping it"
  | handlerFailed _ _ _ _ => "error occurred while handling failures"
  | discarded _ _ => "no suitable failure handler found, discarding batch"
  | drained _ => "shutting down the service, processed remaining failure batches"
  | drainFailed _ _ => "failed to drain the submission queue"
  | assembled _ _ => "failure handling runtime started"
  | disassembled _ _ => "failure handling runtime stopped"
  | failure record => record.message

def fields : Notice → List (String × FieldValue)
  | registered handler => [("handler", .text handler)]
  | startingUp handlers fallback => [("handlers", .number handlers), ("fallback", .text fallback)]
  | upAndRunning | queueClosed | loopLeft | stopRequested => []
  | interrupted queueSize => [("queue_size", .number queueSize)]
  | fetchFailed error => [("error", .text error.message)]
  | stats tag figures =>
      [("tag", .text tag), ("queue_size", .number figures.size),
        ("capacity", .number figures.capacity), ("submitted", .number figures.submitted),
        ("consumed", .number figures.consumed), ("rejected", .number figures.rejected)]
  | selectionPanicked handler type =>
      [("handler", .text handler), ("failure_type", .text type.text)]
  | handlerFailed handler type size error =>
      [("handler", .text handler), ("failure_type", .text type.text),
        ("batch_size", .number size), ("error", .text error.message)]
  | discarded type size => [("failure_type", .text type.text), ("batch_size", .number size)]
  | drained count => [("drained", .number count)]
  | drainFailed error count => [("error", .text error.message), ("drained", .number count)]
  | assembled capacity shutdownAwait =>
      [("queue_capacity", .number capacity), ("shutdown_await_ms", .number shutdownAwait)]
  | disassembled count state => [("drained", .number count), ("state", .text state.text)]
  | failure record =>
      [("failure_type", .text record.type.text), ("unit_id", .text record.unit.id),
        ("cause", .text record.cause), ("target", .text (record.target.getD "-"))]

end Notice
end FailureDispatch

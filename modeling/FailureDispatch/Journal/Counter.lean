import FailureDispatch.Failure.Basic

/-!
# Counters

The quantities that a service counts.  A counter comes into being at its
first increment, even an increment by nothing, and is listed from then on.
-/

namespace FailureDispatch

inductive Counter where
  | handled (type : FailureType)
  | dropped (type : FailureType)
  | drained
  | handlerFailures (handler : String)
  | unitsAcknowledged
  deriving DecidableEq, Repr

namespace Counter

/-- The name under which a counter is described, without its label. -/
def family : Counter → String
  | handled _ => "failure_handling.batches.handled"
  | dropped _ => "failure_handling.batches.dropped"
  | drained => "failure_handling.batches.drained"
  | handlerFailures _ => "failure_handling.handler.failures"
  | unitsAcknowledged => "failure_handling.units.acknowledged"

/-- The name of the label and its value. -/
def label? : Counter → Option (String × String)
  | handled type | dropped type => some ("failure_type", type.text)
  | handlerFailures handler => some ("handler", handler)
  | drained | unitsAcknowledged => none

def name (counter : Counter) : String :=
  match counter.label? with
  | some (label, value) => counter.family ++ "\x7b" ++ label ++ "=" ++ value ++ "\x7d"
  | none => counter.family

/-- What an assembled service announces about its counters: the family and
what it counts.  All of them are plain counts. -/
def descriptions : List (String × String) :=
  [("failure_handling.batches.handled", "Failure batches consumed and dispatched"),
    ("failure_handling.batches.dropped",
      "Failure batches discarded because no handler supports them"),
    ("failure_handling.batches.drained", "Failure batches processed during shutdown drain"),
    ("failure_handling.handler.failures", "Failure handler invocations that failed"),
    ("failure_handling.units.acknowledged", "Failed units passed to the acknowledger")]

end Counter

/-- The counters that exist, with their values. -/
abbrev Totals := List (Counter × Nat)

namespace Totals

def add (totals : Totals) (counter : Counter) (amount : Nat) : Totals :=
  match totals with
  | [] => [(counter, amount)]
  | (other, value) :: rest =>
      if other = counter then (other, value + amount) :: rest
      else (other, value) :: add rest counter amount

/-- The value of a counter.  One that does not exist stands at zero. -/
def get (totals : Totals) (counter : Counter) : Nat :=
  (totals.lookup counter).getD 0

end Totals
end FailureDispatch

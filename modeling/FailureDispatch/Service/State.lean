/-!
# Life of a service

A service is started once, runs, is asked to stop, and ends.  `canBecome`
is the only rule on transitions: everything that moves a service asks it, so
that an ended service stays ended whoever tries to move it.
-/

namespace FailureDispatch

inductive ServiceState where
  | new
  | starting
  | running
  | stopping
  | terminated
  | failed
  deriving DecidableEq, Repr

namespace ServiceState

def text : ServiceState → String
  | new => "NEW"
  | starting => "STARTING"
  | running => "RUNNING"
  | stopping => "STOPPING"
  | terminated => "TERMINATED"
  | failed => "FAILED"

/-- The two states in which a service has ended. -/
def isTerminal : ServiceState → Bool
  | terminated | failed => true
  | _ => false

/-- The orderly life is one path, which may leave out `running` when the
request to stop comes early.  Failure is possible from wherever the service
has not ended. -/
def canBecome : ServiceState → ServiceState → Bool
  | new, starting => true
  | starting, running => true
  | starting, stopping => true
  | running, stopping => true
  | stopping, terminated => true
  | state, failed => !state.isTerminal
  | _, _ => false

/-- An ended service can become nothing else. -/
theorem canBecome_of_isTerminal {state : ServiceState} (ended : state.isTerminal = true)
    (next : ServiceState) : state.canBecome next = false := by
  cases state <;> cases next <;> first | rfl | cases ended

/-- No state can be entered from itself: every transition is a change. -/
theorem canBecome_self (state : ServiceState) : state.canBecome state = false := by
  cases state <;> rfl

end ServiceState
end FailureDispatch

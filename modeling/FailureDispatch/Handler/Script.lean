import FailureDispatch.Failure.Error

/-!
# Scripted behaviour

What a collaborator does on its successive calls is given as data.  A
schedule has one entry per call and repeats its last entry for ever, so a
finite text describes the behaviour on every run.

An entry of a script is a list of actions.  Only two kinds of action take
time: a sleep, and the wait for a permit of a named gate.
-/

namespace FailureDispatch

/-- One entry per call; the last entry is used for all later calls. -/
structure Schedule (α : Type) where
  entries : List α := []
  deriving DecidableEq, Repr

namespace Schedule

variable {α : Type}

/-- The entry for the next call, and the schedule for the calls after it.  A
schedule without entries answers with `otherwise` every time. -/
def next (otherwise : α) (schedule : Schedule α) : α × Schedule α :=
  match schedule.entries with
  | [] => (otherwise, schedule)
  | [last] => (last, schedule)
  | entry :: rest => (entry, ⟨rest⟩)

end Schedule

/-- One thing that a scripted collaborator does. -/
inductive Action where
  | proceed
  | panic
  /-- Return a handler error in the collaborator's own name. -/
  | fail (reason : String)
  | raise (error : FailureError)
  | sleep (duration : Nat)
  /-- Wait for a permit of the gate, and use it up. -/
  | pass (gate : String)
  deriving DecidableEq, Repr

/-- The actions of each call. -/
abbrev Script := Schedule (List Action)

end FailureDispatch

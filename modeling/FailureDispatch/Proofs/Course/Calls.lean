import FailureDispatch.Deployment.Quiescence

/-!
# Calls under way

Which claims a call has, what it can become while it waits, and how the list
of the calls under way changes when one of them goes on or ends.
-/

namespace FailureDispatch

namespace Call

/-- Where a consuming call waits. -/
def place? : Call → Option SubmissionQueue.Place
  | consume _ place | consumeWithin _ place => some place
  | _ => none

/-- The same consuming call, waiting elsewhere. -/
def waitingAt (place : SubmissionQueue.Place) : Call → Call
  | consume token _ => consume token place
  | consumeWithin deadline _ => consumeWithin deadline place
  | call => call

/-- Whether the call wants the worker's result. -/
def isJoin : Call → Bool
  | join _ _ | joining _ => true
  | _ => false

/-- The interface by which the call was given the handle. -/
def door? : Call → Option Door
  | join door _ | joining door => some door
  | _ => none

/-- Whether the call has not acted yet. -/
def isNew : Call → Bool
  | submit _ _ begun => !begun
  | consume _ place | consumeWithin _ place => place == .line
  | join _ _ | awaitRunning | awaitTerminated => true
  | joining _ => false

/-- Whether the call has neither a claim on the queue nor the handle. -/
def holdsNothing : Call → Bool
  | submit _ _ begun => !begun
  | joining _ | awaitRunning | awaitTerminated => true
  | _ => false

/-- What a call can become without ending. -/
inductive Follows : Call → Call → Prop where
  | submit {door batch begun} : Follows (.submit door batch begun) (.submit door batch true)
  | consume {call : Call} {place} (reached : SubmissionQueue.Place)
      (consumes : call.place? = some place) : Follows call (call.waitingAt reached)
  | join {door stopFirst} : Follows (.join door stopFirst) (.joining door)

/-- A call goes on wanting what it wanted. -/
theorem Follows.isJoin_eq {earlier later : Call} (follows : earlier.Follows later) :
    later.isJoin = earlier.isJoin := by
  cases follows with
  | submit | join => rfl
  | consume reached consumes => cases earlier <;> rfl

theorem Follows.door?_eq {earlier later : Call} (follows : earlier.Follows later) :
    later.door? = earlier.door? := by
  cases follows with
  | submit | join => rfl
  | consume reached consumes => cases earlier <;> rfl

theorem isJoin_eq_isSome (call : Call) : call.isJoin = call.door?.isSome := by
  cases call <;> rfl

theorem isJoin_of_place? {call : Call} {place : SubmissionQueue.Place}
    (consumes : call.place? = some place) : call.isJoin = false := by
  cases call <;> first | rfl | cases consumes

theorem isJoin_of_observesState {call : Call} (observes : call.observesState = true) :
    call.isJoin = false := by
  cases call <;> first | rfl | cases observes

end Call

namespace Outcome

/-- Whether the outcome carries the count of a drain. -/
def isDrained : Outcome → Bool
  | drained _ => true
  | _ => false

end Outcome

namespace Deployment

theorem mem_finish {deployment : Deployment} {id : Nat} {outcome : Outcome}
    {entry : Nat × Job} :
    entry ∈ (deployment.finish id outcome).jobs ↔ entry ∈ deployment.jobs ∧ entry.1 ≠ id := by
  rw [finish, List.mem_filter, bne_iff_ne]

theorem mem_setJob {deployment : Deployment} {id : Nat} {job : Job} {entry : Nat × Job}
    (member : entry ∈ (deployment.setJob id job).jobs) :
    (entry ∈ deployment.jobs ∧ entry.1 ≠ id) ∨ entry = (id, job) := by
  rcases List.mem_map.mp member with ⟨old, present, same⟩
  by_cases asked : old.1 = id
  · rw [if_pos asked] at same
    exact Or.inr same.symm
  · rw [if_neg asked] at same
    rw [← same]
    exact Or.inl ⟨present, asked⟩

/-- Setting a job leaves the others alone. -/
theorem mem_setJob_of_ne {deployment : Deployment} {id : Nat} {entry : Nat × Job}
    (member : entry ∈ deployment.jobs) (other : entry.1 ≠ id) (job : Job) :
    entry ∈ (deployment.setJob id job).jobs :=
  List.mem_map.mpr ⟨entry, member, if_neg other⟩

end Deployment

end FailureDispatch

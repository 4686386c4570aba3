import FailureDispatch.Proofs.Isolation.Lockstep
import FailureDispatch.Proofs.Isolation.Reordering

/-!
# The fallback stands in

Where no registered handler takes a batch, the fallback is called.  It may wait, and
time may pass and other things may happen until it goes on.  Deployments whose staffs
are reordered have the same fallback and the same acknowledger, and the same gates, so
with such a batch in hand they take the same turns and remain kindred.

With a registered handler called this would not be so: the handlers stand in different
places, and between two calls the staffs are not reordered.  Therefore the worker is
compared only where the fallback alone is being called, or nobody.
-/

namespace FailureDispatch

/-- If a batch is in hand, nobody but the fallback is left to be called. -/
def Worker.OnFallback : Worker → Prop
  | dispatching _ dispatch =>
      (∀ ref ∈ dispatch.pending, ref = .fallback) ∧
        ∀ invocation, dispatch.current = some invocation → invocation.ref = .fallback
  | _ => True

theorem Worker.onFallback_of_isFree (worker : Worker) (free : worker.isFree = true) :
    worker.OnFallback := by
  cases worker with
  | dispatching phase dispatch => cases free
  | _ => trivial

/-- The handlers are registered in another order, and the journals are woven from the
same threads. -/
def Likeness.reordered : Likeness where
  staffs := Staff.Reordered
  journals := Journal.SameThreads
  workers := Worker.OnFallback
  length_eq := fun reordered => reordered.handlers.length_eq.symm
  name_eq := fun reordered => congrArg Handler.name reordered.fallback
  refl := Journal.SameThreads.refl
  append := fun same goesOn => same.append goesOn
  free := Worker.onFallback_of_isFree

namespace Deployment

namespace Kindred

/-! ## Actions -/

section Actions

variable {likeness : Likeness} {left right : Deployment} (kindred : Kindred likeness left right)
include kindred

theorem passGate (name : String) :
    Paired likeness (left.passGate name) (right.passGate name) := by
  unfold Deployment.passGate Deployment.gate
  rw [kindred.gates]
  exact ⟨rfl, kindred.setGate name _⟩

theorem pauseOver (pause : Pause) :
    Paired likeness (left.pauseOver pause) (right.pauseOver pause) := by
  cases pause with
  | alarm time =>
      simp only [Deployment.pauseOver, kindred.now]
      exact ⟨rfl, kindred⟩
  | gate name => exact kindred.passGate name

omit kindred in
/-- The gates decide how far actions come, and they are the same. -/
theorem perform (name : String) (actions : List Action) {left right : Deployment}
    (kindred : Kindred likeness left right) :
    Paired likeness (left.perform name actions) (right.perform name actions) := by
  induction actions generalizing left right with
  | nil => exact ⟨rfl, kindred⟩
  | cons action rest inductionHypothesis =>
      cases action with
      | proceed => exact inductionHypothesis kindred
      | panic | fail reason | raise error => exact ⟨rfl, kindred⟩
      | sleep duration =>
          simp only [Deployment.perform, kindred.now]
          split
          · exact inductionHypothesis kindred
          · exact ⟨rfl, kindred⟩
      | pass gate =>
          have passed := kindred.passGate gate
          unfold Deployment.perform
          revert passed
          rcases left.passGate gate with ⟨permitted, after⟩
          rcases right.passGate gate with ⟨_, other⟩
          rintro ⟨same, later⟩
          cases same
          cases permitted with
          | true => exact inductionHypothesis later
          | false => exact ⟨rfl, later⟩

theorem fault (name : String) (batch : Batch) (error : FailureError) :
    Kindred likeness (left.fault name batch error) (right.fault name batch error) :=
  (kindred.log _).count _ 1

end Actions

/-! ## Calls of the fallback -/

/-- A call of the fallback has come equally far in both. -/
structure Attended (left right : Option Invocation × Deployment) : Prop where
  paired : Paired .reordered left right
  own : ∀ invocation, left.1 = some invocation → invocation.ref = .fallback

/-- Go on alike from what is the same. -/
theorem Attended.of_paired {α : Type} {left right : α × Deployment}
    (paired : Paired .reordered left right)
    {next : α → Deployment → Option Invocation × Deployment}
    (goesOn : ∀ value {before other : Deployment}, Kindred .reordered before other →
      Attended (next value before) (next value other)) :
    Attended (next left.1 left.2) (next right.1 right.2) := by
  rw [paired.same]
  exact goesOn right.1 paired.kindred

section Calls

variable {left right : Deployment} (kindred : Kindred .reordered left right)
include kindred

theorem attended : Attended (none, left) (none, right) :=
  ⟨⟨rfl, kindred⟩, nofun⟩

theorem waiting (stage : Stage) (pause : Pause) (rest : List Action) :
    Attended (some ⟨.fallback, stage, pause, rest⟩, left)
      (some ⟨.fallback, stage, pause, rest⟩, right) := by
  refine ⟨⟨rfl, kindred⟩, ?_⟩
  intro invocation same
  cases same
  rfl

theorem afterAcknowledging (batch : Batch) (name : String) (performance : Performance) :
    Attended (left.afterAcknowledging batch .fallback name performance)
      (right.afterAcknowledging batch .fallback name performance) := by
  cases performance with
  | finished conclusion =>
      cases conclusion with
      | panic => exact (kindred.fault name batch _).attended
      | success | failure error => exact kindred.attended
  | waits pause rest => exact kindred.waiting .acknowledging pause rest

theorem acknowledge (batch : Batch) (name : String) :
    Attended (left.acknowledge batch .fallback name) (right.acknowledge batch .fallback name) := by
  unfold Deployment.acknowledge
  cases batch.ackRefs with
  | none => exact (kindred.fault name batch _).attended
  | some refs =>
      have counted := (kindred.count .unitsAcknowledged refs.length).note (.acknowledged refs)
      have reordered : left.service.staff.Reordered right.service.staff := kindred.staffs
      have same : right.service.acknowledger = left.service.acknowledger := reordered.acknowledger
      have called := counted.restaff
        (show Staff.Reordered
          { left.service.staff with acknowledger := (left.service.acknowledger.next []).2 }
          { right.service.staff with acknowledger := (left.service.acknowledger.next []).2 } from
          { reordered with acknowledger := rfl, calm := reordered.calm.next })
      have performed := called.perform name (left.service.acknowledger.next []).1
      simp only [Deployment.count, Deployment.note, same]
      exact .of_paired performed fun performance _ _ later =>
        later.afterAcknowledging batch name performance

theorem afterHandling (batch : Batch) (name : String) (performance : Performance) :
    Attended (left.afterHandling batch .fallback name performance)
      (right.afterHandling batch .fallback name performance) := by
  cases performance with
  | finished conclusion =>
      cases conclusion with
      | success => exact kindred.acknowledge batch name
      | panic | failure error => exact (kindred.fault name batch _).attended
  | waits pause rest => exact kindred.waiting .handling pause rest

theorem callHandler (batch : Batch) :
    Attended (left.callHandler batch .fallback) (right.callHandler batch .fallback) := by
  have reordered : left.service.staff.Reordered right.service.staff := kindred.staffs
  have same : right.service.fallback = left.service.fallback := reordered.fallback
  have called := (kindred.restaff
    (show Staff.Reordered
      { left.service.staff with fallback := left.service.fallback.begin.2 }
      { right.service.staff with fallback := left.service.fallback.begin.2 } from
      { reordered with fallback := rfl })).noteAll (handleTrace left.service.fallback batch)
  have performed := called.perform left.service.fallback.name left.service.fallback.begin.1
  simp only [Deployment.callHandler, Service.handler?, same]
  exact .of_paired performed fun performance _ _ later =>
    later.afterHandling batch left.service.fallback.name performance

theorem continueCall (batch : Batch) {invocation : Invocation}
    (own : invocation.ref = .fallback) :
    Attended (left.continueCall batch invocation) (right.continueCall batch invocation) := by
  have reordered : left.service.staff.Reordered right.service.staff := kindred.staffs
  have same : right.service.fallback = left.service.fallback := reordered.fallback
  have performed := kindred.perform left.service.fallback.name invocation.rest
  simp only [Deployment.continueCall, own, Service.handler?, same]
  cases invocation.stage with
  | handling =>
      exact .of_paired performed fun performance _ _ later =>
        later.afterHandling batch left.service.fallback.name performance
  | acknowledging =>
      exact .of_paired performed fun performance _ _ later =>
        later.afterAcknowledging batch left.service.fallback.name performance

end Calls

/-! ## Turns -/

theorem Attended.keepDispatching {left right : Option Invocation × Deployment}
    (attended : Attended left right) (phase : Phase) {dispatch : Dispatch}
    (pending : ∀ ref ∈ dispatch.pending, ref = .fallback) :
    Paired .reordered (left.2.keepDispatching phase dispatch left.1)
      (right.2.keepDispatching phase dispatch right.1) := by
  unfold Deployment.keepDispatching
  rw [← attended.paired.same]
  exact ⟨rfl, attended.paired.kindred.setWorker ⟨pending, attended.own⟩⟩

/-- With a batch in hand that nobody but the fallback takes, the same turn is taken. -/
theorem advance_reordered {left right : Deployment} (kindred : Kindred .reordered left right)
    {phase : Phase} {dispatch : Dispatch} (own : (Worker.dispatching phase dispatch).OnFallback) :
    Paired .reordered (left.advanceDispatch phase dispatch)
      (right.advanceDispatch phase dispatch) := by
  rcases own with ⟨pending, current⟩
  unfold Deployment.advanceDispatch
  cases waiting : dispatch.current with
  | some invocation =>
      have passes := kindred.pauseOver invocation.pause
      dsimp only
      revert passes
      rcases left.pauseOver invocation.pause with ⟨passed, after⟩
      rcases right.pauseOver invocation.pause with ⟨_, other⟩
      rintro ⟨same, later⟩
      cases same
      cases passed with
      | false => exact ⟨rfl, later⟩
      | true =>
          exact (later.continueCall dispatch.batch (current invocation waiting)).keepDispatching
            phase pending
  | none =>
      cases line : dispatch.pending with
      | nil => exact ⟨rfl, (kindred.note _).free phase.isFree_resume⟩
      | cons ref rest =>
          rw [line] at pending
          rcases List.forall_mem_cons.mp pending with ⟨fallback, others⟩
          rw [fallback]
          exact (kindred.callHandler dispatch.batch).keepDispatching phase others

end Kindred
end Deployment
end FailureDispatch

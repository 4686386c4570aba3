import FailureDispatch.Proofs.Dispatch.Order
import FailureDispatch.Proofs.Tally.Reckoning

/-!
# What has ended so far

The endings of all dispatches that have begun are known from their scripts.
Those that are still to come belong to the dispatch in hand: the outlook.  A turn
with a batch in hand only shortens it from the front, and a batch taken in hand
adds to both, so what has ended so far is always a first part of the whole.
-/

namespace FailureDispatch

namespace Deployment

/-- The ends of questions and calls that are still to come of the dispatch in
hand. -/
def outlook (deployment : Deployment) : List Ending :=
  match deployment.service.worker with
  | .dispatching _ dispatch => deployment.service.staff.completeEndings dispatch
  | _ => []

theorem outlook_of_free {deployment : Deployment}
    (free : deployment.service.worker.isFree = true) : deployment.outlook = [] := by
  unfold outlook
  split
  · next here =>
      rw [here] at free
      cases free
  · rfl

/-! ## Stretches of a call -/

/-- What is still to come of a call after a stretch of it ends a list of
endings. -/
def Nears (batch : Batch) (result : Option Invocation × Deployment) (endings : List Ending) :
    Prop :=
  result.2.service.staff.resumeEndings batch result.1 <:+ endings

theorem Nears.of_over {batch : Batch} {after : Deployment} {endings : List Ending} :
    Nears batch (none, after) endings :=
  List.nil_suffix

section Named

variable {deployment : Deployment} {ref : HandlerRef} {handler : Handler}
  (known : deployment.service.staff.handler? ref = some handler) (batch : Batch)
include known

theorem afterAcknowledging_nears (performance : Performance) :
    Nears batch (deployment.afterAcknowledging batch ref handler.name performance)
      [.acknowledged handler.name batch (performance.conclude handler.name)] := by
  cases performance with
  | finished conclusion => cases conclusion <;> exact .of_over
  | waits pause rest =>
      simp only [Nears, afterAcknowledging, Staff.resumeEndings, known]
      exact List.suffix_rfl

theorem acknowledge_nears :
    Nears batch (deployment.acknowledge batch ref handler.name)
      (deployment.service.staff.handlingEndings batch handler.name .success) := by
  cases collected : batch.ackRefs with
  | none =>
      simp only [acknowledge, collected]
      exact .of_over
  | some refs =>
      simp only [acknowledge, Staff.handlingEndings, collected]
      generalize started : ({ (deployment.count .unitsAcknowledged refs.length).note
        (.acknowledged refs) with service := _ } : Deployment) = called
      rcases perform_conforms called handler.name
        (deployment.service.acknowledger.next []).1 with ⟨concluded, gates, changed⟩
      have present : (called.perform handler.name
          (deployment.service.acknowledger.next []).1).2.service.staff.handler? ref =
            some handler := by
        rw [changed, ← started]
        cases ref <;> exact known
      have nears := afterAcknowledging_nears present batch
        (called.perform handler.name (deployment.service.acknowledger.next []).1).1
      rw [concluded] at nears
      exact nears.trans (List.suffix_cons _ _)

theorem afterHandling_nears (performance : Performance) :
    Nears batch (deployment.afterHandling batch ref handler.name performance)
      (deployment.service.staff.handlingEndings batch handler.name
        (performance.conclude handler.name)) := by
  cases performance with
  | finished conclusion =>
      cases conclusion with
      | success => exact acknowledge_nears known batch
      | failure _ | panic => exact .of_over
  | waits pause rest =>
      simp only [Nears, afterHandling, Staff.resumeEndings, known]
      exact List.suffix_rfl

end Named

theorem callHandler_nears (deployment : Deployment) (batch : Batch) (ref : HandlerRef) :
    Nears batch (deployment.callHandler batch ref)
      (deployment.service.staff.callEndings batch ref) := by
  cases known : deployment.service.handler? ref with
  | none =>
      simp only [callHandler, known]
      exact .of_over
  | some handler =>
      have present : deployment.service.staff.handler? ref = some handler :=
        (deployment.service.handler?_staff ref).trans known
      rcases callHandler_eq present batch with ⟨performance, after, same, concluded, staff, _⟩
      have later := Staff.handler?_setHandler present handler.begin.2
      rw [← staff] at later
      have nears := afterHandling_nears later batch performance
      rw [handler.name_begin, concluded, staff] at nears
      simp only [same, Staff.callEndings, present]
      cases ref <;> exact nears

theorem continueCall_nears (deployment : Deployment) (batch : Batch) (invocation : Invocation) :
    Nears batch (deployment.continueCall batch invocation)
      (deployment.service.staff.resumeEndings batch (some invocation)) := by
  cases known : deployment.service.handler? invocation.ref with
  | none =>
      simp only [continueCall, known]
      exact .of_over
  | some handler =>
      have present : deployment.service.staff.handler? invocation.ref = some handler :=
        (deployment.service.handler?_staff _).trans known
      rcases perform_conforms deployment handler.name invocation.rest with
        ⟨concluded, gates, changed⟩
      have staff : (deployment.perform handler.name invocation.rest).2.service.staff =
          deployment.service.staff := by
        rw [changed]
      have later := present
      rw [← staff] at later
      simp only [continueCall, Staff.resumeEndings, known, present]
      cases invocation.stage with
      | handling =>
          have nears := afterHandling_nears later batch
            (deployment.perform handler.name invocation.rest).1
          rw [concluded, staff] at nears
          exact nears
      | acknowledging =>
          have nears := afterAcknowledging_nears later batch
            (deployment.perform handler.name invocation.rest).1
          rw [concluded] at nears
          exact nears

/-! ## Moves -/

/-- A stretch of a call leaves the staff that the whole call leaves. -/
theorem Conforms.staff_eq {before : Deployment} {batch : Batch}
    {result : Option Invocation × Deployment} {account : Account}
    (conforms : Conforms before batch result account) :
    (result.2.service.staff.resume batch result.1).staff = account.staff := by
  rcases conforms with ⟨stretch, gates, _, same, total⟩
  rw [← total, same]
  rfl

/-- A dispatch goes on with a call that has come nearer to its end. -/
theorem Nears.keepDispatching {dispatch : Dispatch} {result : Option Invocation × Deployment}
    {endings : List Ending} {staff : Staff} (nears : Nears dispatch.batch result endings)
    (left : (result.2.service.staff.resume dispatch.batch result.1).staff = staff) (phase : Phase)
    (pending : List HandlerRef) :
    (result.2.keepDispatching phase { dispatch with pending } result.1).2.outlook <:+
      endings ++ staff.callsEndings dispatch.batch pending := by
  rcases nears with ⟨first, whole⟩
  refine ⟨first, ?_⟩
  rw [← whole, ← left, List.append_assoc]
  rfl

section Moves

variable {staff : Staff} {before after : Deployment}

/-- A turn with a batch in hand shortens the outlook from the front. -/
theorem outlook_advanceDispatch {phase : Phase} {dispatch : Dispatch}
    (here : before.service.worker = .dispatching phase dispatch) :
    (before.advanceDispatch phase dispatch).2.outlook <:+ before.outlook := by
  have outlook : before.outlook = before.service.staff.completeEndings dispatch := by
    simp only [Deployment.outlook, here]
  rw [outlook]
  unfold advanceDispatch Staff.completeEndings
  cases current : dispatch.current with
  | some invocation =>
      rcases pauseOver_conforms before invocation.pause with ⟨gates, same⟩
      rcases waited : before.pauseOver invocation.pause with ⟨_ | _, resumed⟩
      · rw [waited] at same
        simp only [waited, same, Deployment.outlook, here, Staff.completeEndings, current]
        exact List.suffix_rfl
      · have opened : resumed = { before with gates } := by
          rw [waited] at same
          exact same
        have nears := continueCall_nears { before with gates } dispatch.batch invocation
        have conforms := continueCall_conforms { before with gates } dispatch.batch invocation
        simp only [waited, opened]
        exact nears.keepDispatching conforms.staff_eq phase dispatch.pending
  | none =>
      cases pending : dispatch.pending with
      | nil =>
          have spent : ((before.note (.dispatchEnded dispatch.batch)).setWorker
              phase.resume).outlook = [] := outlook_of_free phase.isFree_resume
          rw [spent]
          exact List.nil_suffix
      | cons ref rest =>
          have nears := callHandler_nears before dispatch.batch ref
          have conforms := callHandler_conforms before dispatch.batch ref
          exact nears.keepDispatching conforms.staff_eq phase rest

/-- What is still to come of a batch that is taken in hand. -/
theorem outlook_beginDispatch (before : Deployment) (phase : Phase) (batch : Batch) :
    (before.beginDispatch phase batch).outlook <:+ before.service.staff.serveEndings batch := by
  generalize choice : Selection.choose before.service.handlers before.service.fallback batch =
    selection
  by_cases nobody : selection.chosen = []
  · rw [beginDispatch_of_nobody choice nobody phase]
    rw [outlook_of_free phase.isFree_resume]
    exact List.nil_suffix
  · rw [beginDispatch_of_chosen choice nobody phase]
    simp only [Staff.serveEndings, Service.staff, choice]
    exact List.suffix_append _ _

/-- The outlook is the last part of what the staff lets expect of the batches
whose dispatch has begun. -/
def Foretold (staff : Staff) (deployment : Deployment) : Prop :=
  deployment.outlook <:+ staff.serveAllEndings deployment.journal.begun

theorem Foretold.unseen (foretold : before.Foretold staff) (unseen : Unseen before after) :
    after.Foretold staff := by
  unfold Foretold at foretold ⊢
  rw [unseen.begun]
  rcases unseen.worker with still | ⟨_, free⟩
  · have same : after.outlook = before.outlook := by
      unfold outlook
      rw [still, unseen.staff]
    rw [same]
    exact foretold
  · rw [outlook_of_free free]
    exact List.nil_suffix

theorem Foretold.serves (foretold : before.Foretold staff) (inOrder : before.InOrder staff)
    (serves : Serves before after) : after.Foretold staff := by
  cases serves with
  | unseen unseen _ => exact foretold.unseen unseen
  | @opens middle phase batch unseen free _ =>
      have left : middle.service.staff = (staff.serveAll middle.journal.begun).staff :=
        congrArg Account.staff (Standing.account_eq (inOrder.unseen unseen) free)
      rcases beginDispatch_opens middle phase batch with ⟨stretch, worker, same, _, _, begun⟩
      have begunLater : (middle.beginDispatch phase batch).journal.begun =
          middle.journal.begun ++ [batch] := by
        rw [same, Journal.begun_append, begun]
      have outlook := outlook_beginDispatch middle phase batch
      unfold Foretold
      rw [begunLater, Staff.serveAllEndings_concat, ← left]
      exact outlook.trans (List.suffix_append _ _)
  | @advances rest phase dispatch _ here =>
      have shorter := outlook_advanceDispatch here
      have begun := begun_advanceDispatch here
      generalize before.advanceDispatch phase dispatch = result at shorter begun ⊢
      rcases result with ⟨progress, reached⟩
      have further : reached.Foretold staff := by
        unfold Foretold
        rw [begun]
        exact shorter.trans foretold
      cases progress <;> exact further

/-- In every run, the outlook is the last part of what is to be expected. -/
theorem reaches_foretold {others : Bool} {origin reached : Deployment}
    (unstarted : origin.Unstarted) (reaches : Reaches others origin reached) :
    reached.Foretold origin.service.staff := by
  induction reaches with
  | refl =>
      have free : origin.service.worker.isFree = true := by
        rw [unstarted.worker]
        rfl
      unfold Foretold
      rw [outlook_of_free free]
      exact List.nil_suffix
  | tail earlier move foretold =>
      have sound := unstarted.onCourse.reaches earlier
      exact foretold.serves (reaches_inOrder unstarted earlier) (move.serves sound)

end Moves

end Deployment
end FailureDispatch

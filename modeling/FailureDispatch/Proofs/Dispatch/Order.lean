import FailureDispatch.Proofs.Dispatch.Serving
import FailureDispatch.Proofs.Ledger.SoleConsumer

/-!
# Dispatches in order

A service dispatches the batches of its queue one after the other, in the
order of their acceptance, and each of them once.

The reference says what the dispatches of a list of batches come to.
`Standing` compares a service with it: between two dispatches it has come to
exactly that, and within one it lacks the rest of the batch in hand and
nothing else.  No move interrupts a dispatch, a request to stop included,
because only the turns of the worker touch the batch in hand and each of them
takes a stretch from its front.
-/

namespace FailureDispatch

/-- How far the dispatches of the batches have come, with what they have left
in the journal and the staff as it stands. -/
inductive Standing (staff : Staff) : List Batch → Account → Worker → Prop where
  | between {batches : List Batch} {worker : Worker} (free : worker.isFree = true) :
      Standing staff batches (staff.serveAll batches) worker
  | within {earlier : List Batch} {part : Account} {phase : Phase} {dispatch : Dispatch}
      (total : part.andThen (fun staff => staff.complete dispatch) =
        (staff.serveAll earlier).staff.serve dispatch.batch) :
      Standing staff (earlier ++ [dispatch.batch])
        ((staff.serveAll earlier).andThen fun _ => part) (.dispatching phase dispatch)

namespace Standing

variable {staff : Staff} {batches : List Batch} {account : Account} {worker : Worker}

/-- A worker without a batch in hand may go elsewhere. -/
theorem moves (standing : Standing staff batches account worker) (free : worker.isFree = true)
    {later : Worker} (freeLater : later.isFree = true) :
    Standing staff batches account later := by
  cases standing with
  | between _ => exact .between freeLater
  | within _ => cases free

/-- A batch is taken in hand when the dispatch before it is over. -/
theorem opens (standing : Standing staff batches account worker) (free : worker.isFree = true)
    {batch : Batch} {phase : Phase} {stretch : Account} {later : Worker}
    (opening : Opens account.staff batch phase stretch later) :
    Standing staff (batches ++ [batch]) (account.andThen fun _ => stretch) later := by
  cases standing with
  | within _ => cases free
  | between _ =>
      cases opening with
      | discards =>
          have whole : (staff.serveAll batches).andThen
              (fun _ => (staff.serveAll batches).staff.serve batch) =
              staff.serveAll (batches ++ [batch]) :=
            (Staff.serveAll_concat batches batch staff).symm
          rw [whole]
          exact .between phase.isFree_resume
      | calls same total =>
          subst same
          exact .within total

/-- A stretch of the dispatch in hand. -/
theorem continues {phase : Phase} {dispatch later : Dispatch}
    (standing : Standing staff batches account (.dispatching phase dispatch))
    (same : later.batch = dispatch.batch) {stretch : Account}
    (total : stretch.andThen (fun staff => staff.complete later) =
      account.staff.complete dispatch) :
    Standing staff batches (account.andThen fun _ => stretch) (.dispatching phase later) := by
  cases standing with
  | between free => cases free
  | @within earlier part _ _ whole =>
      have further : (part.andThen fun _ => stretch).andThen (fun staff => staff.complete later) =
          (staff.serveAll earlier).staff.serve later.batch := by
        rw [same, ← whole, Account.andThen_assoc]
        exact congrArg (fun rest => part.andThen fun _ => rest) total
      rw [Account.andThen_assoc, ← same]
      exact .within further

/-- The end of the dispatch in hand. -/
theorem finishes {phase : Phase} {dispatch : Dispatch}
    (standing : Standing staff batches account (.dispatching phase dispatch)) {last : Account}
    (total : account.staff.complete dispatch = last) {later : Worker}
    (free : later.isFree = true) :
    Standing staff batches (account.andThen fun _ => last) later := by
  cases standing with
  | between impossible => cases impossible
  | @within earlier part _ _ whole =>
      have served : ((staff.serveAll earlier).andThen fun _ => part).andThen (fun _ => last) =
          staff.serveAll (earlier ++ [dispatch.batch]) := by
        rw [Account.andThen_assoc, Staff.serveAll_concat, ← total]
        exact congrArg (fun rest => (staff.serveAll earlier).andThen fun _ => rest) whole
      rw [served]
      exact .between free

/-- Between two dispatches, all that have begun are complete. -/
theorem account_eq (standing : Standing staff batches account worker)
    (free : worker.isFree = true) : account = staff.serveAll batches := by
  cases standing with
  | between _ => rfl
  | within _ => cases free

/-- With the rest of the one in hand, all that have begun are complete. -/
theorem total {phase : Phase} {dispatch : Dispatch}
    (standing : Standing staff batches account (.dispatching phase dispatch)) :
    (account.andThen fun staff => staff.complete dispatch) = staff.serveAll batches := by
  cases standing with
  | between free => cases free
  | @within earlier part _ _ whole =>
      rw [Account.andThen_assoc, Staff.serveAll_concat]
      exact congrArg (fun rest => (staff.serveAll earlier).andThen fun _ => rest) whole

/-- All dispatches but the last are complete, the last has begun, and it is
complete unless its batch is in hand. -/
theorem bounds (standing : Standing staff batches account worker) :
    (staff.serveAll batches.dropLast).trace <+: account.trace ∧
      account.trace <+: (staff.serveAll batches).trace ∧
      (worker.isFree = true → account.trace = (staff.serveAll batches).trace) := by
  cases standing with
  | between free =>
      have shorter := Staff.serveAll_prefix batches.dropLast_prefix staff
      exact ⟨shorter, List.prefix_rfl, fun _ => rfl⟩
  | @within earlier part phase dispatch total =>
      have begun : part.trace <+: ((staff.serveAll earlier).staff.serve dispatch.batch).trace := by
        rw [← total]
        exact List.prefix_append _ _
      refine ⟨?_, ?_, ?_⟩
      · rw [List.dropLast_concat]
        exact List.prefix_append _ _
      · rw [Staff.serveAll_concat]
        exact (List.prefix_append_right_inj _).mpr begun
      · intro free
        cases free

end Standing

namespace Deployment

/-- The dispatches of a service that began with the given staff have come as
far as its worker says. -/
def InOrder (staff : Staff) (deployment : Deployment) : Prop :=
  Standing staff deployment.journal.begun
    ⟨deployment.journal.dispatches, deployment.service.staff⟩ deployment.service.worker

/-- The same of the dispatches that have been added to those that the journal showed
when the staff was the given one. -/
def InOrderSince (staff : Staff) (earlier : List Batch) (trace : Journal)
    (deployment : Deployment) : Prop :=
  ∃ batches later, deployment.journal.begun = earlier ++ batches ∧
    deployment.journal.dispatches = trace ++ later ∧
    Standing staff batches ⟨later, deployment.service.staff⟩ deployment.service.worker

/-- In the beginning the journal shows no dispatch. -/
theorem inOrderSince_nil {staff : Staff} {deployment : Deployment} :
    deployment.InOrderSince staff [] [] ↔ deployment.InOrder staff := by
  constructor
  · rintro ⟨batches, later, begun, dispatches, standing⟩
    rw [List.nil_append] at begun dispatches
    rw [InOrder, begun, dispatches]
    exact standing
  · intro standing
    exact ⟨_, _, rfl, rfl, standing⟩

theorem inOrderSince_self {deployment : Deployment}
    (free : deployment.service.worker.isFree = true) :
    deployment.InOrderSince deployment.service.staff deployment.journal.begun
      deployment.journal.dispatches :=
  ⟨[], [], (List.append_nil _).symm, (List.append_nil _).symm, .between free⟩

section Moves

variable {staff : Staff} {earlier : List Batch} {trace : Journal} {before after : Deployment}

theorem InOrderSince.unseen (inOrder : before.InOrderSince staff earlier trace)
    (unseen : Unseen before after) : after.InOrderSince staff earlier trace := by
  rcases inOrder with ⟨batches, later, begun, dispatches, standing⟩
  refine ⟨batches, later, unseen.begun.trans begun, unseen.dispatches.trans dispatches, ?_⟩
  rw [unseen.staff]
  rcases unseen.worker with still | ⟨free, freeLater⟩
  · rw [still]
    exact standing
  · exact standing.moves free freeLater

theorem InOrderSince.opens (inOrder : before.InOrderSince staff earlier trace)
    (free : before.service.worker.isFree = true) (phase : Phase) (batch : Batch) :
    (before.beginDispatch phase batch).InOrderSince staff earlier trace := by
  rcases inOrder with ⟨batches, later, begunBefore, dispatches, standing⟩
  rcases beginDispatch_opens before phase batch with
    ⟨stretch, worker, same, opens, ofDispatch, begun⟩
  refine ⟨batches ++ [batch], later ++ stretch.trace, ?_, ?_, ?_⟩
  · rw [same, Journal.begun_append, begun, begunBefore, List.append_assoc]
  · rw [same, Journal.dispatches_append, ofDispatch.dispatches_eq, dispatches,
      List.append_assoc]
  · rw [same]
    exact standing.opens free opens

theorem InOrderSince.advances (inOrder : before.InOrderSince staff earlier trace) {phase : Phase}
    {dispatch : Dispatch} (here : before.service.worker = .dispatching phase dispatch) :
    InOrderSince staff earlier trace (before.advanceDispatch phase dispatch).2 := by
  rcases inOrder with ⟨batches, written, begunBefore, dispatches, standing⟩
  rw [here] at standing
  by_cases finished : dispatch.current = none ∧ dispatch.pending = []
  · rcases finished with ⟨called, all⟩
    have ended := standing.finishes (complete_of_finished called all) phase.isFree_resume
    have begun : Journal.begun [.dispatchEnded dispatch.batch] = [] := rfl
    have traced : Journal.dispatches [.dispatchEnded dispatch.batch] =
        [.dispatchEnded dispatch.batch] := rfl
    simp only [advanceDispatch, called, all, note, setWorker, InOrderSince, Journal.begun_append,
      Journal.dispatches_append, begun, traced, List.append_nil]
    exact ⟨_, _, begunBefore, by rw [dispatches, List.append_assoc], ended⟩
  · have continues := advanceDispatch_continues here (by
      intro called all
      exact finished ⟨called, all⟩)
    rcases continues with ⟨stretch, gates, later, reached, same, inner, total⟩
    have further := standing.continues same total
    rw [reached]
    simp only [InOrderSince, served, setWorker, Journal.begun_append, Journal.dispatches_append,
      inner.begun_eq, inner.ofDispatch.dispatches_eq, List.append_nil]
    exact ⟨_, _, begunBefore, by rw [dispatches, List.append_assoc], further⟩

/-- Every move keeps the order. -/
theorem InOrderSince.serves (inOrder : before.InOrderSince staff earlier trace)
    (serves : Serves before after) : after.InOrderSince staff earlier trace := by
  cases serves with
  | unseen unseen _ => exact inOrder.unseen unseen
  | opens phase batch unseen free _ => exact (inOrder.unseen unseen).opens free phase batch
  | @advances rest phase dispatch _ here =>
      have advanced := inOrder.advances here
      generalize before.advanceDispatch phase dispatch = result at advanced ⊢
      rcases result with ⟨progress, after⟩
      cases progress <;> exact advanced

theorem InOrder.unseen (inOrder : before.InOrder staff) (unseen : Unseen before after) :
    after.InOrder staff :=
  inOrderSince_nil.mp ((inOrderSince_nil.mpr inOrder).unseen unseen)

end Moves

/-- Whatever is made of a service by moves, its dispatches stay in order. -/
theorem InOrderSince.reaches {others : Bool} {staff : Staff} {earlier : List Batch}
    {trace : Journal} {before after : Deployment}
    (inOrder : before.InOrderSince staff earlier trace) (sound : before.OnCourse)
    (reaches : Reaches others before after) : after.InOrderSince staff earlier trace := by
  apply reaches.keeps _ sound inOrder
  intro before after sound move inOrder
  exact inOrder.serves (move.serves sound)

theorem InOrder.reaches {others : Bool} {staff : Staff} {before after : Deployment}
    (inOrder : before.InOrder staff) (sound : before.OnCourse)
    (reaches : Reaches others before after) : after.InOrder staff :=
  inOrderSince_nil.mp ((inOrderSince_nil.mpr inOrder).reaches sound reaches)

/-- Every run dispatches in order. -/
theorem reaches_inOrder {others : Bool} {origin reached : Deployment}
    (unstarted : origin.Unstarted) (reaches : Reaches others origin reached) :
    reached.InOrder origin.service.staff := by
  have beginning : origin.InOrder origin.service.staff := by
    have clerical := unstarted.journal.clerical
    have free : origin.service.worker.isFree = true := by
      rw [unstarted.worker]
      rfl
    unfold InOrder
    rw [clerical.begun_eq, clerical.dispatches_eq]
    exact .between free
  exact beginning.reaches unstarted.onCourse reaches

/-- A service dispatches one batch after the other, in the order of acceptance.
Whatever is submitted, aborted, closed or stopped meanwhile, and whatever its
handlers and its acknowledger do, the batches whose dispatch has begun followed
by those in the buffer are the accepted ones, and the trace of the dispatches is
that of the reference, which ends one dispatch before it begins the next and
calls every chosen handler in each.  Only the last dispatch may still be going
on, and it is over when the worker has no batch in hand. -/
theorem dispatches_in_order {origin reached : Deployment} (unstarted : origin.Unstarted)
    (reaches : Reaches false origin reached) :
    ∃ queue, reached.source = .buffered queue ∧
      reached.journal.begun ++ queue.buffer = reached.journal.accepted ∧
      (origin.service.staff.serveAll reached.journal.begun.dropLast).trace <+:
        reached.journal.dispatches ∧
      reached.journal.dispatches <+:
        (origin.service.staff.serveAll reached.journal.begun).trace ∧
      (reached.service.worker.isFree = true →
        reached.journal.dispatches =
          (origin.service.staff.serveAll reached.journal.begun).trace) := by
  rcases reaches_conserves unstarted reaches with ⟨queue, buffered, conserved⟩
  refine ⟨queue, buffered, ?_, Standing.bounds (reaches_inOrder unstarted reaches)⟩
  rw [reaches_begun_eq_taken unstarted reaches]
  exact conserved.batches

/-- The request to stop arrives in the middle of the first of two dispatches. -/
def interrupted : Deployment :=
  (gated.run 0 [some .start, some (.trySubmit .single), some (.trySubmit .single), some .settle,
    some .stop, some .settle]).2

/-- One dispatch has begun and is not over, and the second batch waits. -/
theorem dispatches_in_order_interrupted :
    ∃ queue, interrupted.source = .buffered queue ∧
      interrupted.journal.begun ++ queue.buffer = interrupted.journal.accepted ∧
      interrupted.journal.begun.length = 1 ∧ queue.buffer.length = 1 ∧
      interrupted.service.state = .stopping ∧
      interrupted.journal.dispatches <+:
        (gated.service.staff.serveAll interrupted.journal.begun).trace := by
  have reaches : Reaches false gated interrupted :=
    reaches_run unstarted_gated.onCourse unstarted_gated.numbered _ (by simp [Step.consumes])
  rcases dispatches_in_order unstarted_gated reaches with
    ⟨queue, source, batches, _, within, _⟩
  have filled : stock interrupted.source = 1 := by decide +kernel
  rw [source] at filled
  have begun : interrupted.journal.begun.length = 1 := by decide +kernel
  have state : interrupted.service.state = .stopping := by decide +kernel
  exact ⟨queue, source, batches, begun, filled, state, within⟩

end Deployment
end FailureDispatch

import FailureDispatch.Proofs.Dispatch.Opening
import FailureDispatch.Proofs.Isolation.Containment
import FailureDispatch.Proofs.Isolation.StandIn

/-!
# The order of registration

While registered handlers are being called, reordered staffs are out of step: each has
called others than its counterpart.  But none of these calls waits, so the worker keeps
the turn until the batch is done with, and nobody else notices anything before
(`Busy.settle`).  What the batch comes to as a whole is said by `Staff.serve`, and in
that the staffs agree (`Staff.Reordered.serve`).  So deployments that differ in the
order of registration settle to deployments that differ in nothing else.
-/

namespace FailureDispatch

/-- A call of a registered handler uses up entries of scripts, so what is prompt remains
prompt. -/
theorem Staff.prompt_call (staff : Staff) (handlers : ∀ handler ∈ staff.handlers, handler.Prompt)
    (acknowledger : staff.acknowledger.Prompt) (batch : Batch) (place : Nat) :
    (∀ handler ∈ (staff.call batch (.registered place)).staff.handlers, handler.Prompt) ∧
      (staff.call batch (.registered place)).staff.acknowledger.Prompt := by
  cases known : staff.handler? (.registered place) with
  | none =>
      simp only [Staff.call, known]
      exact ⟨handlers, acknowledger⟩
  | some called =>
      have prompt := handlers called (List.mem_of_getElem? known)
      rw [call_eq known]
      refine ⟨?_, ?_⟩
      · intro handler member
        rcases List.mem_or_eq_of_mem_set member with old | new
        · exact handlers handler old
        · rw [new]
          exact prompt.begin.1
      · dsimp only
        split
        · exact acknowledger.next
        · exact acknowledger

namespace Deployment

/-- The deployment after the batch in hand has been served to the end. -/
def finished (deployment : Deployment) : Deployment :=
  match deployment.service.worker with
  | .dispatching phase dispatch =>
      (deployment.served (deployment.service.staff.complete dispatch)
        deployment.gates).setWorker phase.resume
  | _ => deployment

/-- The worker has the turn and a batch in hand.  So many handlers are left to be called,
all of them registered, and no call of them waits. -/
structure Busy (deployment : Deployment) (calls : Nat) : Prop where
  turn : deployment.IsWorkersTurn
  here : ∃ phase batch pending,
    deployment.service.worker = .dispatching phase ⟨batch, pending, none⟩ ∧
    pending.length = calls ∧ ∀ ref ∈ pending, ref ≠ .fallback
  handlers : ∀ handler ∈ deployment.service.handlers, handler.Prompt
  acknowledger : deployment.service.acknowledger.Prompt

namespace Busy

variable {deployment : Deployment} {calls : Nat}

/-- When everybody has been called, the next turn is the last. -/
theorem tick_of_done (busy : deployment.Busy 0) : deployment.tick = deployment.finished := by
  rcases busy.turn with ⟨rest, line⟩
  rcases busy.here with ⟨phase, batch, pending, here, none, _⟩
  rw [List.length_eq_zero_iff.mp none] at here
  rw [tick_of_worker line, advanceWorker_of_dispatching here, finished, here]
  dsimp only
  rw [complete_of_finished rfl rfl]
  rfl

/-- A call is over in its turn, and brings the batch one handler nearer to its end. -/
theorem tick (busy : deployment.Busy (calls + 1)) :
    deployment.tick.Busy calls ∧ deployment.tick.finished = deployment.finished := by
  rcases busy.turn with ⟨rest, line⟩
  rcases busy.here with ⟨phase, batch, pending, here, counted, registered⟩
  cases pending with
  | nil => cases counted
  | cons ref others =>
      cases ref with
      | fallback => exact absurd rfl (registered _ List.mem_cons_self)
      | registered place =>
          have own (handler : Handler)
              (known : deployment.service.staff.handler? (.registered place) = some handler) :
              handler.Prompt :=
            busy.handlers handler (List.mem_of_getElem? known)
          have called := callHandler_of_prompt busy.acknowledger own batch
          have turned : deployment.tick =
              (deployment.served (deployment.service.staff.call batch (.registered place))
                deployment.gates).setWorker (.dispatching phase ⟨batch, others, none⟩) := by
            rw [tick_of_worker line, advanceWorker_of_dispatching here]
            simp only [advanceDispatch, called, keepDispatching, Option.isSome_none,
              Bool.false_eq_true, if_false]
            rfl
          have total :
              (deployment.service.staff.call batch (.registered place)).andThen
                  (fun staff => staff.complete ⟨batch, others, none⟩) =
                deployment.service.staff.complete ⟨batch, .registered place :: others, none⟩ := by
            simp only [Staff.complete, Staff.resume, Account.idle_andThen, Staff.callRest,
              Staff.callAll, Account.andThen_assoc]
          rcases Staff.prompt_call deployment.service.staff busy.handlers
            busy.acknowledger batch place with
            ⟨handlers, acknowledger⟩
          rw [turned]
          refine ⟨⟨⟨rest, line⟩, ⟨phase, batch, others, rfl, Nat.succ.inj counted,
            fun ref member => registered ref (List.mem_cons_of_mem _ member)⟩, handlers,
            acknowledger⟩, ?_⟩
          have whole := deployment.served_served
            (deployment.service.staff.call batch (.registered place))
            fun staff => staff.complete ⟨batch, others, none⟩
          rw [total] at whole
          simp only [finished, here]
          rw [← whole]
          rfl

theorem waits (busy : deployment.Busy calls) : ¬ deployment.Settled := by
  rcases busy.turn with ⟨rest, line⟩
  rw [Settled, line]
  exact List.cons_ne_nil _ _

/-- Nobody notices anything before the batch is done with. -/
theorem settle (busy : deployment.Busy calls) :
    deployment.settle = deployment.finished.settle ∧
      deployment.finished.workload ≤ deployment.workload := by
  induction calls generalizing deployment with
  | zero =>
      rw [← busy.tick_of_done, settle_tick]
      exact ⟨rfl, (workload_tick_lt deployment busy.waits).le⟩
  | succ calls inductionHypothesis =>
      rcases busy.tick with ⟨later, same⟩
      rcases inductionHypothesis later with ⟨settles, less⟩
      rw [same] at settles less
      rw [← settle_tick]
      exact ⟨settles, less.trans (workload_tick_lt deployment busy.waits).le⟩

end Busy

/-! ## Taking a batch in hand -/

/-- A batch is served as the reference says. -/
theorem finished_beginDispatch (deployment : Deployment) (phase : Phase) (batch : Batch) :
    (deployment.beginDispatch phase batch).finished =
      (deployment.served (deployment.service.staff.serve batch) deployment.gates).setWorker
        phase.resume := by
  rcases deployment.beginDispatch_opens phase batch with ⟨stretch, worker, same, opens, _⟩
  rw [same]
  cases opens with
  | discards => cases phase <;> rfl
  | @calls _ dispatch _ total =>
      have whole := deployment.served_served stretch fun staff => staff.complete dispatch
      rw [total] at whole
      rw [← whole]
      rfl

/-- A worker that takes a batch for registered handlers that do not wait is busy. -/
theorem busy_beginDispatch (deployment : Deployment) {batch : Batch}
    (turn : deployment.IsWorkersTurn)
    (handlers : ∀ handler ∈ deployment.service.handlers, handler.Prompt)
    (acknowledger : deployment.service.acknowledger.Prompt)
    (somebody : deployment.service.staff.primary batch ≠ []) (phase : Phase) :
    ∃ calls, (deployment.beginDispatch phase batch).Busy calls := by
  rcases deployment.service.staff.chosen_of_somebody batch somebody with ⟨chosen, registered⟩
  rw [beginDispatch_of_chosen rfl chosen]
  refine ⟨_, turn, ⟨phase, batch, _, rfl, rfl, registered⟩, ?_, acknowledger⟩
  intro handler member
  rw [Selection.handlers_choose] at member
  rcases List.mem_map.mp member with ⟨before, known, same⟩
  rw [← same]
  exact (handlers before known).poll batch

/-- Reordered staffs keep deployments kindred. -/
theorem serves_reordered : Likeness.reordered.Serves where
  goesOn := by
    intro left right kindred phase dispatch here
    have own : left.service.worker.OnFallback := kindred.stands
    rw [here] at own
    exact kindred.advance_reordered own
  takes := by
    intro left right earlier turn phase batch
    have kindred := earlier.noteAll [.contact (.gives batch), .taken batch]
    have reordered : left.service.staff.Reordered right.service.staff := kindred.staffs
    by_cases nobody : left.service.staff.primary batch = []
    · rcases reordered.choose batch with ⟨asked, later⟩
      rcases reordered.chosen_of_nobody batch nobody with ⟨chosen, fallback⟩
      exact ⟨_, _, kindred.beginDispatch phase rfl rfl chosen later asked ⟨fallback, nofun⟩,
        rfl, rfl, Nat.le_refl _⟩
    · have somebodyToo : right.service.staff.primary batch ≠ [] :=
        fun none => nobody ((reordered.primary_eq_nil batch).mpr none)
      have turnToo : right.IsWorkersTurn := by
        rw [IsWorkersTurn, earlier.ready]
        exact turn
      rcases (left.noteAll _).busy_beginDispatch turn reordered.prompt reordered.calm.prompt
        nobody phase with ⟨_, busy⟩
      rcases (right.noteAll _).busy_beginDispatch turnToo reordered.symm.prompt
        reordered.symm.calm.prompt somebodyToo phase with ⟨_, busyToo⟩
      rcases reordered.serve batch with ⟨threads, later⟩
      have served := (kindred.served _ _ later threads).free phase.isFree_resume
      refine ⟨_, _, ?_, busy.settle.1, busyToo.settle.1, busy.settle.2⟩
      rw [finished_beginDispatch, finished_beginDispatch]
      exact served

/-! ## The result -/

/-- The deployment with other handlers registered, or the same in another order. -/
def registering (deployment : Deployment) (handlers : List Handler) : Deployment :=
  { deployment with service := { deployment.service with handlers } }

/-- Whatever may be asked about two deployments has one answer for both, except in which
order different handlers were asked and called. -/
structure Interchangeable (left right : Deployment) : Prop where
  state : right.service.state = left.service.state
  /-- Where the worker is, with the batch in hand and the number of those drained. -/
  worker : right.service.worker = left.service.worker
  /-- The queue, with its buffer and its counters. -/
  source : right.source = left.source
  pending : right.pending = left.pending
  outcomes : right.outcomes = left.outcomes
  /-- What each handler was asked and given, in order. -/
  inquiries : ∀ name, right.journal.inquiriesOf name = left.journal.inquiriesOf name
  acknowledgements : right.journal.acknowledgements = left.journal.acknowledgements
  totals : ∀ counter, right.journal.totals.get counter = left.journal.totals.get counter
  /-- The journals consist of the same entries, and each collaborator's are in the same
  order. -/
  threads : right.journal.SameThreads left.journal

theorem Kindred.interchangeable {left right : Deployment} (kindred : Kindred .reordered left right) :
    Interchangeable left right := by
  have threads : left.journal.SameThreads right.journal := kindred.journals
  exact
    { state := kindred.state
      worker := kindred.worker
      source := kindred.source
      pending := by rw [pending, pending, kindred.jobs]
      outcomes := kindred.outcomes
      inquiries := fun name => (threads.inquiriesOf_eq name).symm
      acknowledgements := threads.acknowledgements_eq.symm
      totals := fun counter => (threads.totals_eq counter).symm
      threads := threads.symm }

/-- The order in which handlers are registered has no influence on anything but the order
in which they are asked and called, whatever is done to the two deployments.  The handlers
do not wait, and the acknowledger neither waits nor panics; nothing is asked of the
fallback. -/
theorem registration_order_indifferent {deployment : Deployment} {handlers : List Handler}
    (order : deployment.service.handlers.Perm handlers)
    (distinct : (deployment.service.handlers.map (·.name)).Nodup)
    (prompt : ∀ handler ∈ deployment.service.handlers, handler.Prompt)
    (calm : deployment.service.acknowledger.Calm)
    (free : deployment.service.worker.isFree = true) (id : Nat) (steps : List (Option Step)) :
    ((deployment.registering handlers).run id steps).1.map Report.standing =
        (deployment.run id steps).1.map Report.standing ∧
      Interchangeable (deployment.run id steps).2
        ((deployment.registering handlers).run id steps).2 := by
  have reordered : deployment.service.staff.Reordered
      (deployment.registering handlers).service.staff :=
    ⟨order, rfl, rfl, distinct, prompt, calm⟩
  have kindred : Kindred .reordered deployment (deployment.registering handlers) :=
    ⟨rfl, reordered, .refl _, Worker.onFallback_of_isFree _ free⟩
  rcases kindred.run serves_reordered id steps with ⟨reports, last⟩
  exact ⟨reports, last.interchangeable⟩

/-- A handler that panics, one that fails and two that succeed, all for one type of
failure.  The fallback waits at a gate, and the acknowledger fails. -/
def mixed : Deployment where
  source := .buffered (.empty 4)
  service :=
    { handlers :=
        [⟨"panics", .scripted (.ofType .indexing) none ⟨[[.panic]]⟩⟩,
          ⟨"fails", .scripted (.ofType .indexing) none ⟨[[.fail "no"]]⟩⟩,
          ⟨"first", .scripted (.ofType .indexing) (some ⟨[.yes]⟩) ⟨[[.proceed]]⟩⟩,
          ⟨"second", .scripted (.ofType .indexing) none ⟨[[.sleep 0, .proceed]]⟩⟩]
      fallback := ⟨"last", .scripted .all none ⟨[[.pass "gate"]]⟩⟩
      acknowledger := ⟨[[.fail "lost"]]⟩
      drainWait := 0 }

/-- A batch for the registered handlers, then one for the fallback, which waits until the
gate is opened. -/
def twoBatches : List (Option Step) :=
  [some .start,
    some (.trySubmit ⟨.indexing,
      [{ type := .indexing, cause := "c", message := "m", unit := ⟨"u", .ref "q"⟩ }]⟩),
    some (.trySubmit ⟨.processing,
      [{ type := .processing, cause := "c", message := "m", unit := ⟨"v", .ref "r"⟩ }]⟩),
    some .settle, some (.release "gate" 1), some .shutdown]

/-- Registered the other way round, the handlers are asked and called in another order,
and nothing else is different. -/
theorem registration_order_indifferent_reversed :
    (((mixed.registering mixed.service.handlers.reverse).run 0 twoBatches).1.map
          Report.standing = (mixed.run 0 twoBatches).1.map Report.standing ∧
      Interchangeable (mixed.run 0 twoBatches).2
        ((mixed.registering mixed.service.handlers.reverse).run 0 twoBatches).2) ∧
    (mixed.run 0 twoBatches).2.service.state = .terminated ∧
    (mixed.run 0 twoBatches).2.journal.acknowledgements = [["q"], ["q"], ["r"]] ∧
    (mixed.run 0 twoBatches).2.journal.inquiriesOf "first" =
      [.asked "first", .checked "first", .handled "first" ["u"], .asked "first"] ∧
    (mixed.run 0 twoBatches).2.journal.totals.get (.handlerFailures "panics") = 1 ∧
    ((mixed.registering mixed.service.handlers.reverse).run 0 twoBatches).2.journal.inquiries ≠
      (mixed.run 0 twoBatches).2.journal.inquiries := by
  have order : mixed.service.handlers.Perm mixed.service.handlers.reverse :=
    (List.reverse_perm _).symm
  have calm : mixed.service.acknowledger.Calm := ⟨by decide, by decide⟩
  exact ⟨registration_order_indifferent order (by decide) (by decide) calm rfl 0 twoBatches,
    by decide +kernel, by decide +kernel, by decide +kernel, by decide +kernel,
    by decide +kernel⟩

end Deployment
end FailureDispatch

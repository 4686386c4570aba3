import FailureDispatch.Proofs.Dispatch.Conformance

/-!
# Taking a batch in hand, and keeping at it

The dispatch of a batch begins with the choice of its handlers.  If nobody is
chosen, it is over at once; otherwise the worker has the rest of it in hand
and gives each of its turns to a stretch of it.
-/

namespace FailureDispatch

/-- What taking a batch in hand comes to: the dispatch is over at once, or
what is left of it is in hand. -/
inductive Opens (staff : Staff) (batch : Batch) (phase : Phase) : Account → Worker → Prop where
  | discards : Opens staff batch phase (staff.serve batch) phase.resume
  | calls {stretch : Account} {dispatch : Dispatch} (same : dispatch.batch = batch)
      (total : stretch.andThen (fun staff => staff.complete dispatch) = staff.serve batch) :
      Opens staff batch phase stretch (.dispatching phase dispatch)

theorem Opens.not_idle {staff : Staff} {batch : Batch} {phase : Phase} {stretch : Account}
    {worker : Worker} (opens : Opens staff batch phase stretch worker) : worker ≠ .idle := by
  intro idle
  cases opens with
  | discards => cases phase <;> cases idle
  | calls _ _ => cases idle

theorem Phase.isGone_resume (phase : Phase) : phase.resume.isGone = false := by
  cases phase <;> rfl

/-- A worker does not end by taking a batch in hand. -/
theorem Opens.isGone_eq {staff : Staff} {batch : Batch} {phase : Phase} {stretch : Account}
    {worker : Worker} (opens : Opens staff batch phase stretch worker) :
    worker.isGone = false := by
  cases opens with
  | discards => exact phase.isGone_resume
  | calls _ _ => rfl

namespace Deployment

/-! ## The choice of handlers -/

theorem questions_askTrace (handler : Handler) : Journal.Questions handler.askTrace := by
  unfold Handler.askTrace
  split
  · exact .single rfl
  · exact .nil

theorem questions_checkTrace (handler : Handler) : Journal.Questions handler.checkTrace := by
  unfold Handler.checkTrace
  split
  · exact .single rfl
  · exact .nil

theorem questions_conclude {handler : Handler} {trace : Journal} (questions : trace.Questions)
    (batch : Batch) (verdict : Verdict) :
    Journal.Questions (handler.conclude batch verdict trace).trace := by
  cases verdict with
  | yes | no => exact questions
  | panic =>
      have panicked : Journal.Questions (handler.panicTrace batch) :=
        Journal.Questions.append (.single rfl) (.single rfl)
      exact questions.append panicked

theorem questions_poll (handler : Handler) (batch : Batch) :
    Journal.Questions (handler.poll batch).trace := by
  have asks := questions_askTrace handler
  unfold Handler.poll
  split
  · exact questions_conclude (asks.append (questions_checkTrace handler)) batch _
  · exact questions_conclude asks batch _

theorem questions_among (batch : Batch) (index : Nat) (handlers : List Handler) :
    Journal.Questions (Selection.among batch index handlers).trace := by
  induction handlers generalizing index with
  | nil => exact .nil
  | cons handler rest inductionHypothesis =>
      exact (questions_poll handler batch).append (inductionHypothesis (index + 1))

/-- The choice of handlers leaves questions to them, and the panics of some. -/
theorem questions_choose (handlers : List Handler) (fallback : Handler) (batch : Batch) :
    Journal.Questions (Selection.choose handlers fallback batch).trace := by
  have primary := questions_among batch 0 handlers
  unfold Selection.choose
  dsimp only
  split
  · exact primary.append (questions_conclude (questions_askTrace fallback) batch _)
  · exact primary

/-! ## Turns of a dispatch -/

section Choice

variable {deployment : Deployment} {batch : Batch} {selection : Selection}
  (choice : Selection.choose deployment.service.handlers deployment.service.fallback batch =
    selection)
include choice

/-- A batch for which nobody is chosen is discarded. -/
theorem beginDispatch_of_nobody (nobody : selection.chosen = []) (phase : Phase) :
    deployment.beginDispatch phase batch =
      { deployment with
        service := { deployment.service with
          handlers := selection.handlers, worker := phase.resume }
        journal := deployment.journal ++ (.dispatchBegun batch :: (selection.trace ++
          [.logged (.discarded batch.type batch.size), .counted (.dropped batch.type) 1,
            .dispatchEnded batch])) } := by
  simp only [beginDispatch, choice, nobody, List.isEmpty_nil, if_true, noteAll, log, count, note,
    setWorker, List.append_assoc, List.cons_append, List.nil_append]

/-- A batch for which somebody is chosen is taken in hand. -/
theorem beginDispatch_of_chosen (chosen : selection.chosen ≠ []) (phase : Phase) :
    deployment.beginDispatch phase batch =
      { deployment with
        service := { deployment.service with
          handlers := selection.handlers
          worker := .dispatching phase { batch, pending := selection.chosen } }
        journal := deployment.journal ++ (.dispatchBegun batch :: (selection.trace ++
          [.counted (.handled batch.type) 1])) } := by
  simp only [beginDispatch, choice, List.isEmpty_iff, chosen, if_false, noteAll, count, note,
    setWorker, List.append_assoc, List.cons_append, List.nil_append]

end Choice

/-- A batch taken in hand is dispatched as the reference says. -/
theorem beginDispatch_opens (deployment : Deployment) (phase : Phase) (batch : Batch) :
    ∃ (stretch : Account) (worker : Worker),
      deployment.beginDispatch phase batch =
        { deployment with
          service := { deployment.service.withStaff stretch.staff with worker }
          journal := deployment.journal ++ stretch.trace } ∧
      Opens deployment.service.staff batch phase stretch worker ∧
      stretch.trace.OfDispatch ∧ stretch.trace.begun = [batch] := by
  have asked := (questions_choose deployment.service.handlers deployment.service.fallback
    batch).inner
  have opening (rest : Journal) : Journal.begun (.dispatchBegun batch :: rest) = batch :: rest.begun :=
    rfl
  generalize choice : Selection.choose deployment.service.handlers deployment.service.fallback
    batch = selection at asked
  by_cases nobody : selection.chosen = []
  · have served : deployment.service.staff.serve batch =
        ⟨.dispatchBegun batch :: (selection.trace ++
            [.logged (.discarded batch.type batch.size), .counted (.dropped batch.type) 1,
              .dispatchEnded batch]),
          { deployment.service.staff with handlers := selection.handlers }⟩ := by
      simp only [Staff.serve, Service.staff, choice, nobody, List.isEmpty_nil, if_true,
        Account.andThen, List.cons_append]
    refine ⟨deployment.service.staff.serve batch, phase.resume, ?_, .discards, ?_, ?_⟩
    · rw [served]
      exact beginDispatch_of_nobody choice nobody phase
    · rw [served]
      apply Journal.OfDispatch.cons rfl
      apply asked.ofDispatch.append
      exact .cons rfl (.cons rfl (.cons rfl .nil))
    · rw [served, opening, Journal.begun_append, asked.begun_eq]
      rfl
  · refine ⟨⟨.dispatchBegun batch :: (selection.trace ++ [.counted (.handled batch.type) 1]),
        { deployment.service.staff with handlers := selection.handlers }⟩,
      .dispatching phase { batch, pending := selection.chosen }, ?_, .calls rfl ?_, ?_, ?_⟩
    · exact beginDispatch_of_chosen choice nobody phase
    · simp only [Staff.serve, Service.staff, choice, List.isEmpty_iff, nobody, if_false,
        Account.andThen, List.cons_append, List.append_assoc, Staff.complete, Staff.resume,
        Account.idle, List.nil_append]
    · exact .cons rfl (asked.append (.cons rfl .nil)).ofDispatch
    · rw [opening, Journal.begun_append, asked.begun_eq]
      rfl

/-- A stretch of a dispatch: what it leaves in the journal and what is still
to come of the dispatch make up what was to come of it before. -/
def Continues (before after : Deployment) (phase : Phase) (dispatch : Dispatch) : Prop :=
  ∃ (stretch : Account) (gates : List (String × Permits Actor)) (later : Dispatch),
    after = (before.served stretch gates).setWorker (.dispatching phase later) ∧
    later.batch = dispatch.batch ∧ stretch.trace.Inner ∧
    stretch.andThen (fun staff => staff.complete later) = before.service.staff.complete dispatch

/-- A conforming stretch of a call is a stretch of its dispatch. -/
theorem Conforms.continues {before : Deployment} {dispatch : Dispatch}
    {result : Option Invocation × Deployment} {account : Account}
    (conforms : Conforms before dispatch.batch result account) (phase : Phase)
    (pending : List HandlerRef)
    (total : account.andThen (Staff.callRest dispatch.batch pending) =
      before.service.staff.complete dispatch) :
    Continues before
      (result.2.setWorker
        (.dispatching phase { dispatch with pending, current := result.1 })) phase dispatch := by
  rcases conforms with ⟨stretch, gates, inner, same, whole⟩
  refine ⟨stretch, gates, { dispatch with pending, current := result.1 }, ?_, rfl, inner, ?_⟩
  · rw [same]
  · rw [← total, ← whole, Account.andThen_assoc]
    rfl

/-- Every turn of a dispatch that has something left to call is a stretch of it. -/
theorem advanceDispatch_continues {deployment : Deployment} {phase : Phase} {dispatch : Dispatch}
    (here : deployment.service.worker = .dispatching phase dispatch)
    (unfinished : dispatch.current = none → dispatch.pending ≠ []) :
    Continues deployment (deployment.advanceDispatch phase dispatch).2 phase dispatch := by
  unfold advanceDispatch
  cases current : dispatch.current with
  | some invocation =>
      rcases pauseOver_conforms deployment invocation.pause with ⟨gates, same⟩
      cases waited : deployment.pauseOver invocation.pause with
      | mk passed resumed =>
          have opened : resumed = { deployment with gates } := by
            rw [waited] at same
            exact same
          rw [opened] at waited
          simp only [waited]
          cases passed with
          | false =>
              refine ⟨.idle deployment.service.staff, gates, dispatch, ?_, rfl, .nil, rfl⟩
              simp only [served, setWorker, Account.idle, List.append_nil,
                Service.withStaff_staff, ← here]
          | true =>
              have conforms := continueCall_conforms { deployment with gates } dispatch.batch
                invocation
              have continues := conforms.continues phase dispatch.pending
                (by rw [Staff.complete, current])
              rcases continues with ⟨stretch, later, rest, reached, batch, inner, total⟩
              exact ⟨stretch, later, rest, reached, batch, inner, total⟩
  | none =>
      cases pending : dispatch.pending with
      | nil => exact absurd pending (unfinished current)
      | cons ref rest =>
          have conforms := callHandler_conforms deployment dispatch.batch ref
          apply conforms.continues phase rest
          simp only [Staff.complete, current, pending, Staff.resume, Account.idle_andThen,
            Staff.callRest, Staff.callAll, Account.andThen_assoc]
          rfl

/-- When every chosen handler has been called, the dispatch is over. -/
theorem complete_of_finished {staff : Staff} {dispatch : Dispatch}
    (called : dispatch.current = none) (all : dispatch.pending = []) :
    staff.complete dispatch = ⟨[.dispatchEnded dispatch.batch], staff⟩ := by
  simp only [Staff.complete, called, all]
  rfl

end Deployment
end FailureDispatch

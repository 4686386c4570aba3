import FailureDispatch.Proofs.Course.Sound
import FailureDispatch.Proofs.Ledger.Accounts

/-!
# What a move is to the dispatches

Only the turns of the worker touch the batch in hand.  A move either takes a
batch in hand, or is a turn with a batch in hand, or concerns no dispatch at
all: `Serves` says which, and what moves keep about dispatches is proved along
its three cases.

In the third case nothing is said about the line, except that a worker with a
batch in hand does not leave it.  So a worker that rests in the middle of a
dispatch has come to rest at a turn of that dispatch.
-/

namespace FailureDispatch

/-- Whether the worker has no batch in hand. -/
def Worker.isFree : Worker → Bool
  | .dispatching _ _ => false
  | _ => true

theorem Phase.isFree_resume (phase : Phase) : phase.resume.isFree = true := by
  cases phase <;> rfl

theorem Service.Seeks.isFree {service : Service} {phase : Phase} {place : SubmissionQueue.Place}
    (seeks : service.Seeks phase place) : service.worker.isFree = true := by
  cases seeks with
  | main here _ =>
      rw [here]
      rfl
  | drain here =>
      rw [here]
      rfl

namespace Deployment

/-- A change that no dispatch sees. -/
structure Unseen (before after : Deployment) : Prop where
  begun : after.journal.begun = before.journal.begun
  dispatches : after.journal.dispatches = before.journal.dispatches
  staff : after.service.staff = before.service.staff
  worker : after.service.worker = before.service.worker ∨
    (before.service.worker.isFree = true ∧ after.service.worker.isFree = true)

/-- What a move comes to for the dispatches. -/
inductive Serves (before : Deployment) : Deployment → Prop where
  | unseen {after} (unseen : Unseen before after)
      (line : after.service.worker.isFree = true ∨
        (.worker ∈ before.ready → .worker ∈ after.ready)) : Serves before after
  | opens {middle} (phase : Phase) (batch : Batch) (unseen : Unseen before middle)
      (free : middle.service.worker.isFree = true) (line : .worker ∈ middle.ready) :
      Serves before (middle.beginDispatch phase batch)
  | advances {rest phase dispatch} (line : before.ready = .worker :: rest)
      (here : before.service.worker = .dispatching phase dispatch) :
      Serves before
        ((before.advanceDispatch phase dispatch).2.afterTurn
          (before.advanceDispatch phase dispatch).1)

section Moves

variable {before after : Deployment} {queue : SubmissionQueue Actor Batch}

theorem Unseen.of_trace {trace : Journal} (journal : after.journal = before.journal ++ trace)
    (begun : trace.begun = []) (dispatches : trace.dispatches = [])
    (staff : after.service.staff = before.service.staff)
    (worker : after.service.worker = before.service.worker ∨
      (before.service.worker.isFree = true ∧ after.service.worker.isFree = true)) :
    Unseen before after where
  begun := by rw [journal, Journal.begun_append, begun, List.append_nil]
  dispatches := by rw [journal, Journal.dispatches_append, dispatches, List.append_nil]
  staff := staff
  worker := worker

/-- Whoever leaves the line changes nothing else. -/
theorem Unseen.afterTurn (unseen : Unseen before after) (progress : Progress) :
    Unseen before (after.afterTurn progress) := by
  cases progress with
  | goesOn => exact unseen
  | rests => exact ⟨unseen.begun, unseen.dispatches, unseen.staff, unseen.worker⟩

/-- No call touches a dispatch. -/
theorem CallerTurn.unseen {id : Nat} (turn : CallerTurn before queue id after)
    (buffered : before.source = .buffered queue) : Unseen before after := by
  rcases turn.accounts buffered with ⟨trace, accounts, clerical, _⟩
  rcases turn.byCaller buffered with ⟨_, _, _, _, _, _, maybe, _, same⟩
  apply Unseen.of_trace accounts.journal clerical.begun_eq clerical.dispatches_eq
  · rw [same]
    cases maybe <;> rfl
  · rw [same]
    cases maybe <;> exact Or.inl rfl

/-- Nothing from outside touches a dispatch. -/
theorem Outside.unseen (outside : Outside before queue after) (sound : before.OnCourse)
    (buffered : before.source = .buffered queue) : Unseen before after := by
  rcases outside.accounts buffered with ⟨trace, accounts, clerical, _⟩
  apply Unseen.of_trace accounts.journal clerical.begun_eq clerical.dispatches_eq
  · cases outside with
    | aside _ _ _ _ | starts _ => rfl
    | accepts _ | refuses _ | closes => simp only [adopt_eq, note]
    | stops holder _ =>
        rcases requestStop_eq { before with holder } with ⟨_, _, _, _, same⟩
        rw [same]
        rfl
  · cases outside with
    | aside _ _ _ _ => exact Or.inl rfl
    | accepts _ | refuses _ | closes =>
        rw [adopt_eq]
        exact Or.inl rfl
    | starts new =>
        have idle := (sound.course.idle_of_new new).1
        exact Or.inr ⟨by rw [idle]; rfl, rfl⟩
    | stops holder _ =>
        rcases requestStop_eq { before with holder } with ⟨_, _, _, _, same⟩
        rw [same]
        exact Or.inl rfl

/-! ## Turns of the worker -/

/-- A worker that finds a batch takes it in hand. -/
theorem advanceWorker_of_seeks (buffered : before.source = .buffered queue) {phase : Phase}
    {place : SubmissionQueue.Place} {batch : Batch} {woken : List Actor}
    {next : SubmissionQueue Actor Batch} (seeks : before.service.Seeks phase place)
    (looked : queue.seek .worker place = (.item batch, woken, next)) :
    before.advanceWorker = (.goesOn, (before.adopt woken next).takeInHand phase batch) := by
  cases seeks with
  | main here untold =>
      simp only [advanceWorker, here, advanceFetch, buffered, untold, Bool.false_eq_true, if_false,
        looked]
  | drain here => simp only [advanceWorker, here, advanceDrainFetch, buffered, looked]

theorem advanceWorker_of_dispatching {phase : Phase} {dispatch : Dispatch}
    (here : before.service.worker = .dispatching phase dispatch) :
    before.advanceWorker = before.advanceDispatch phase dispatch := by
  simp only [advanceWorker, here]

/-- A turn with a batch in hand begins no dispatch. -/
theorem begun_advanceDispatch {phase : Phase} {dispatch : Dispatch}
    (here : before.service.worker = .dispatching phase dispatch) :
    (before.advanceDispatch phase dispatch).2.journal.begun = before.journal.begun := by
  by_cases finished : dispatch.current = none ∧ dispatch.pending = []
  · rcases finished with ⟨called, all⟩
    have begun : Journal.begun [.dispatchEnded dispatch.batch] = [] := rfl
    simp only [advanceDispatch, called, all, note, setWorker, Journal.begun_append, begun,
      List.append_nil]
  · rcases advanceDispatch_continues here (by
      intro called all
      exact finished ⟨called, all⟩) with ⟨stretch, gates, later, reached, _, inner, _⟩
    rw [reached]
    simp only [served, setWorker, Journal.begun_append, inner.begun_eq, List.append_nil]

theorem tick_of_worker {rest : List Actor} (line : before.ready = .worker :: rest) :
    before.tick = before.advanceWorker.2.afterTurn before.advanceWorker.1 := by
  unfold tick
  rw [line]
  rcases before.advanceWorker with ⟨_ | _, after⟩ <;> rfl

/-- A turn of the worker takes a batch in hand, or is a turn with one, or leaves
him without. -/
theorem serves_worker (buffered : before.source = .buffered queue)
    (course : before.service.OnCourse) {rest : List Actor}
    (line : before.ready = .worker :: rest) : Serves before before.tick := by
  rw [tick_of_worker line]
  rcases advanceWorker_turn buffered course with
    ⟨progress, woken, next, service, gates, trace, same, turn, _⟩
  have silent (begun : trace.begun = []) (dispatches : trace.dispatches = [])
      (staff : service.staff = before.service.staff) (free : before.service.worker.isFree = true)
      (freeLater : service.worker.isFree = true) :
      Serves before (before.advanceWorker.2.afterTurn before.advanceWorker.1) := by
    rw [same]
    have unseen : Unseen before (before.worked woken next service gates trace) :=
      .of_trace rfl begun dispatches staff (Or.inr ⟨free, freeLater⟩)
    refine .unseen (unseen.afterTurn progress) (Or.inl ?_)
    cases progress <;> exact freeLater
  cases turn with
  | rests still =>
      have free : before.service.worker.isFree = true := by
        rcases still with here | ⟨_, here⟩ | ⟨here, _⟩ <;> (rw [here]; rfl)
      exact silent rfl rfl rfl free free
  | startsUp here _ | startsLate here _ | turnsToQueue here _ _ | leavesLoop here _
  | interrupted here _ | unparks here _ | drainWaits here _ _ | turnsToDrain here
  | completes here _ => exact silent rfl rfl rfl (by rw [here]; rfl) rfl
  | shutOut seeks _ | waits seeks _ => exact silent rfl rfl rfl seeks.isFree rfl
  | @takes phase place batch _ _ _ _ seeks looked _ _ _ =>
      rw [advanceWorker_of_seeks buffered seeks looked]
      have journal : ((before.adopt woken next).noteAll
          [.contact (.gives batch), .taken batch]).journal =
            before.journal ++ [.contact (.gives batch), .taken batch] := by
        rw [adopt_eq]
        rfl
      apply Serves.opens
      · apply Unseen.of_trace journal rfl rfl
        · rw [adopt_eq]
          rfl
        · rw [adopt_eq]
          exact Or.inl rfl
      · rw [adopt_eq]
        exact seeks.isFree
      · rw [adopt_eq]
        apply mem_lineUpAll.mpr
        rw [line]
        exact Or.inl (List.mem_cons_self ..)
  | dispatches here _ _ _ | finishes here _ =>
      rw [advanceWorker_of_dispatching here]
      exact .advances line here

/-! ## All moves -/

/-- Every move is of one of the three kinds. -/
theorem Move.serves {others : Bool} (move : Move others before after) (sound : before.OnCourse) :
    Serves before after := by
  rcases sound.buffered with ⟨queue, buffered⟩
  have still : Unseen before before := ⟨rfl, rfl, rfl, Or.inl rfl⟩
  cases move with
  | turn =>
      cases line : before.ready with
      | nil =>
          have same : before.tick = before := by
            simp only [tick, line]
          rw [same]
          exact .unseen still (Or.inr id)
      | cons head rest =>
          cases head with
          | worker => exact serves_worker buffered sound.course line
          | caller id =>
              have same : before.tick = (before.advanceCaller id).stepBack := by
                simp only [tick, line]
              have turn : CallerTurn before queue id (before.advanceCaller id) :=
                advanceCaller_turn buffered sound.course
              rw [same]
              refine .unseen ((turn.unseen buffered).afterTurn .rests) (Or.inr ?_)
              intro stands
              rw [line] at stands
              rcases turn.line buffered with ⟨woken, grown⟩
              have others : .worker ∈ rest := by
                cases stands with
                | tail _ member => exact member
              simp only [stepBack, grown, line]
              exact (mem_tail_lineUpAll (by simp)).mpr (Or.inl others)
  | begins _ _ | abort _ =>
      rw [wake_eq]
      refine .unseen ⟨rfl, rfl, rfl, Or.inl rfl⟩ (Or.inr ?_)
      intro stands
      exact mem_lineUp.mpr (Or.inl stands)
  | act act =>
      have outside := act.outside buffered
      exact .unseen (outside.unseen sound buffered) (Or.inr (outside.grows .worker))

end Moves

end Deployment
end FailureDispatch

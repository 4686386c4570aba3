import FailureDispatch.Proofs.Life.Ending
import FailureDispatch.Proofs.Life.Heralds

/-!
# What an event makes known of the state

A change of the state comes about by a turn of the worker, by a start, or by
somebody who owns the handle.  In each case whoever waits for a state stands in
line afterwards.  The marks of a stop are left by a request which finds that the
service can still be stopped, and by that one only.

`Proclaims` says so of every event but one.  The exception is a look of a
subscriber, which changes nothing but what he has seen.
-/

namespace FailureDispatch

namespace Journal

theorem stopMarks_stopTrace (present : Deployment) :
    stopMarks (stopTrace (present.figures Deployment.stopTag)) = firstStop := by
  have parts : stopTrace (present.figures Deployment.stopTag) =
      firstStop ++ [present.figures Deployment.stopTag] := rfl
  have unmarked : stopMarks [present.figures Deployment.stopTag] = [] := by
    simp [stopMarks, Deployment.unmarked_figures]
  have marks : stopMarks firstStop = firstStop := by decide
  rw [parts, stopMarks_append_of_nil unmarked, marks]

end Journal

namespace Deployment

/-- A stop has been requested.  It leaves its marks if the service could be stopped. -/
def Asks (before after : Deployment) : Prop :=
  after.service.stopRequested = true ∧
    after.journal.stopMarks = before.journal.stopMarks ++
      if before.service.state.canBecome .stopping then Journal.firstStop else []

/-- If the state has changed, every call that waits for a state stands in line. -/
structure Proclaims (before after : Deployment) : Prop where
  state : after.service.state = before.service.state ∨
    ∀ id job, before.job? id = some job → job.call.observesState = true →
      .caller id ∈ after.ready
  watches : after.watches = before.watches
  stops : (after.service.stopRequested = before.service.stopRequested ∧
    after.journal.stopMarks = before.journal.stopMarks) ∨ Asks before after

section Relations

variable {first next last : Deployment}

theorem mem_observers {deployment : Deployment} {id : Nat} {job : Job}
    (known : deployment.job? id = some job) (observes : job.call.observesState = true) :
    .caller id ∈ deployment.observers :=
  List.mem_map.mpr ⟨(id, job), List.mem_filter.mpr ⟨mem_of_job? known, observes⟩, rfl⟩

theorem Heralds.proclaims (heralds : Heralds first last) : Proclaims first last where
  state := heralds.state.imp_right fun woken _ _ known observes =>
    woken (mem_observers known observes)
  watches := heralds.watches
  stops := Or.inl ⟨heralds.told, heralds.marks⟩

theorem Quiet.proclaims (quiet : Quiet first last) : Proclaims first last :=
  quiet.heralds.proclaims

/-- Whatever the worker can do follows, and those who wait for a state go on waiting. -/
theorem Proclaims.andThen (proclaims : Proclaims first next) (heralds : Heralds next last)
    (wait : ∀ id job, first.job? id = some job → job.call.observesState = true →
      next.job? id = some job)
    (grows : next.ready ⊆ last.ready) : Proclaims first last where
  state := by
    rcases proclaims.state with earlier | woken
    · rcases heralds.state with later | awoken
      · exact Or.inl (later.trans earlier)
      · exact Or.inr fun id job known observes =>
          awoken (mem_observers (wait id job known observes) observes)
    · exact Or.inr fun id job known observes => grows (woken id job known observes)
  watches := heralds.watches.trans proclaims.watches
  stops := by
    rcases proclaims.stops with ⟨told, marks⟩ | asks
    · exact Or.inl ⟨heralds.told.trans told, heralds.marks.trans marks⟩
    · exact Or.inr ⟨heralds.told.trans asks.1, heralds.marks.trans asks.2⟩

end Relations

section Callers

variable (deployment : Deployment) (id : Nat)

/-! ## Requests and reports -/

theorem proclaims_requestStop : Proclaims deployment deployment.requestStop := by
  cases can : deployment.service.state.canBecome .stopping with
  | true =>
      rcases requestStop_moves can with ⟨woken, observers, present, same⟩
      rw [same]
      refine ⟨Or.inr ?_, rfl, Or.inr ⟨rfl, ?_⟩⟩
      · intro other job known observes
        exact mem_lineUpAll.mpr (Or.inr (observers (mem_observers known observes)))
      · rw [if_pos can]
        exact (Journal.stopMarks_append _ _).trans
          (congrArg _ (Journal.stopMarks_stopTrace present))
  | false =>
      rcases requestStop_of_cannot can with ⟨woken, same⟩
      rw [same]
      refine ⟨Or.inl rfl, rfl, Or.inr ⟨rfl, ?_⟩⟩
      rw [can, if_neg Bool.false_ne_true, List.append_nil]

theorem quiet_report (door : Door) (result : Except FailureError Nat) :
    Quiet deployment (deployment.report id door result) := by
  cases door with
  | service => cases result <;> exact .refl deployment
  | runtime =>
      have told (closed : Deployment) (quiet : Quiet deployment closed) (count : Nat) :
          Quiet deployment
            ((closed.log (.disassembled count closed.service.state)).finish id (.drained count)) :=
        quiet.trans (Quiet.of_eq rfl rfl rfl (Journal.stopMarks_append_of_nil rfl))
      unfold report leaveRuntime
      cases deployment.source with
      | scripted queue =>
          cases result with
          | error error => exact .refl deployment
          | ok count => exact told deployment (.refl deployment) count
      | buffered queue =>
          have closed := quiet_adopt deployment queue.close.1 queue.close.2
          cases result with
          | error error => exact closed
          | ok count => exact told _ closed count

theorem subset_report (door : Door) (result : Except FailureError Nat) :
    deployment.ready ⊆ (deployment.report id door result).ready := by
  rcases report_eq_finish deployment id door result with ⟨closed, works, _, same⟩
  rcases works.line with ⟨woken, grown⟩
  rw [same]
  intro actor stands
  rw [show (closed.finish id (door.outcome result)).ready = _ from grown]
  exact mem_lineUpAll.mpr (Or.inl stands)

/-- Whoever joins may find that the worker was torn down, and tell everybody. -/
theorem heralds_advanceJoin (door : Door) :
    Heralds deployment (deployment.advanceJoin id door) ∧
      deployment.ready ⊆ (deployment.advanceJoin id door).ready := by
  unfold advanceJoin
  split
  · exact ⟨(quiet_report deployment id door _).heralds, subset_report deployment id door _⟩
  · exact ⟨(quiet_report deployment id door _).heralds, subset_report deployment id door _⟩
  · have entered := heralds_enter deployment (show ServiceState.failed ≠ .stopping by decide)
    have grows := subset_report (deployment.enter .failed).2 id door
    refine ⟨entered.andThen (quiet_report _ id door _) (grows _), ?_⟩
    refine List.Subset.trans ?_ (grows _)
    cases can : deployment.service.state.canBecome .failed with
    | true =>
        rw [enter_of_canBecome can]
        exact fun _ stands => mem_lineUpAll.mpr (Or.inl stands)
    | false =>
        rw [enter_of_cannot can]
        exact List.Subset.refl _
  · exact ⟨(Quiet.refl deployment).heralds, List.Subset.refl _⟩

/-! ## Turns -/

theorem quiet_settleSubmission (door : Door) (batch : Batch)
    (submission : SubmissionQueue.Submission) :
    Quiet deployment (deployment.settleSubmission id door batch submission) := by
  cases submission with
  | accepted => exact quiet_note deployment rfl
  | refused error => exact quiet_note deployment rfl
  | waiting => exact .refl deployment

/-- A call that does not own the handle changes nothing about the state. -/
theorem quiet_advanceCall (call : Call) (apart : call.isJoin = false) :
    Quiet deployment (deployment.advanceCall id call) := by
  have adopts (woken : List Actor) (queue : SubmissionQueue Actor Batch) :=
    quiet_adopt deployment woken queue
  have taken (woken : List Actor) (queue : SubmissionQueue Actor Batch) (batch : Batch) :=
    (adopts woken queue).trans (quiet_note _ (show Journal.stopMarks [.taken batch] = [] from rfl))
  unfold advanceCall
  split
  · exact (adopts _ _).trans (quiet_settleSubmission _ id _ _ _)
  · split
    · exact adopts _ _
    · split
      · exact taken _ _ _
      · exact adopts _ _
      · exact adopts _ _
  · split
    · exact taken _ _ _
    · exact adopts _ _
    · split
      · exact (adopts _ _).trans (quiet_adopt _ _ _)
      · exact adopts _ _
  · cases apart
  · cases apart
  · split <;> exact .refl deployment
  · split <;> exact .refl deployment
  · exact .refl deployment

theorem quiet_dismantle (call : Call) (apart : call.isJoin = false) :
    Quiet deployment (deployment.dismantle id call) := by
  unfold dismantle
  dsimp only
  split
  · exact quiet_adopt deployment _ _
  · exact quiet_adopt deployment _ _
  · exact quiet_adopt deployment _ _
  · cases apart
  · exact .refl deployment

/-- The turn of a call that owns the handle. -/
theorem proclaims_join {call : Call} {doomed : Bool}
    (known : deployment.job? id = some ⟨call, doomed⟩) (joins : call.isJoin = true) :
    Proclaims deployment (deployment.advanceCaller id) := by
  -- Whoever waits for a state is somebody else.
  have others {other : Nat} {job : Job} (waits : deployment.job? other = some job)
      (observes : job.call.observesState = true) : other ≠ id := by
    intro same
    rw [same, known] at waits
    cases waits
    rw [Call.isJoin_of_observesState observes] at joins
    cases joins
  unfold advanceCaller
  rw [known]
  cases call with
  | joining door =>
      cases doomed with
      | true =>
          apply Quiet.proclaims
          exact .refl deployment
      | false => exact (heralds_advanceJoin deployment id door).1.proclaims
  | join door stopFirst =>
      cases doomed with
      | true =>
          have asks := proclaims_requestStop deployment
          exact ⟨asks.state, asks.watches, asks.stops⟩
      | false =>
          have told : Proclaims deployment (deployment.toldBy stopFirst) := by
            cases stopFirst with
            | true => exact proclaims_requestStop deployment
            | false => exact (Quiet.refl deployment).proclaims
          have waiting : Proclaims deployment
              ((deployment.toldBy stopFirst).setJob id { call := .joining door }) :=
            ⟨told.state, told.watches, told.stops⟩
          have joined := heralds_advanceJoin
            ((deployment.toldBy stopFirst).setJob id { call := .joining door }) id door
          refine waiting.andThen joined.1 ?_ joined.2
          intro other job waits observes
          rcases toldBy_eq deployment stopFirst with ⟨_, _, _, _, _, same⟩
          rw [job?_setJob_of_ne (others waits observes), same]
          exact waits
  | _ => cases joins

/-- The turn of a call that does not own the handle. -/
theorem quiet_advanceCaller {job : Job} (known : deployment.job? id = some job)
    (apart : job.call.isJoin = false) : Quiet deployment (deployment.advanceCaller id) := by
  unfold advanceCaller
  rw [known]
  rcases job with ⟨call, doomed | doomed⟩
  · exact quiet_advanceCall deployment id call apart
  · exact quiet_dismantle deployment id call apart

theorem proclaims_advanceCaller : Proclaims deployment (deployment.advanceCaller id) := by
  cases known : deployment.job? id with
  | none =>
      unfold advanceCaller
      rw [known]
      exact (Quiet.refl deployment).proclaims
  | some job =>
      cases joins : job.call.isJoin with
      | true => exact proclaims_join deployment id known joins
      | false => exact (quiet_advanceCaller deployment id known joins).proclaims

end Callers

/-! ## Acts -/

section Acts

variable {before after : Deployment}

theorem quiet_submitNow (door : Door) (draft : Draft) :
    Quiet before (before.submitNow door draft).2 := by
  rcases submitNow_cases before door draft with
    same | ⟨queue, woken, next, batch, entry, _, rfl | rfl, same⟩ <;> rw [same]
  · exact .refl before
  · exact (quiet_adopt before woken next).trans (quiet_note _ rfl)
  · exact (quiet_adopt before woken next).trans (quiet_note _ rfl)

theorem proclaims_start : Proclaims before before.start.2 := by
  have entered := heralds_enter before (show ServiceState.starting ≠ .stopping by decide)
  unfold start
  split
  · next started same =>
    rw [same] at entered
    have wakes := subset_wakeAll ({ started with holder := .handle }.setWorker .fresh) [.worker]
    exact (entered.andThen (quiet_wakeAll
      ({ started with holder := .handle }.setWorker .fresh) [.worker]) wakes).proclaims
  · next same =>
    rw [same] at entered
    exact entered.proclaims

theorem proclaims_dropHolder : Proclaims before before.dropHolder := by
  unfold dropHolder
  split
  · exact (Quiet.refl before).proclaims
  all_goals
    have asks := proclaims_requestStop ({ before with holder := .nobody } : Deployment)
    exact ⟨asks.state, asks.watches, asks.stops⟩

/-- An act other than a look of a subscriber. -/
theorem Act.proclaims (act : Act before after) :
    Proclaims before after ∨ ∃ watches, after = { before with watches } := by
  cases act with
  | clock time actors _ =>
      refine Or.inl (Quiet.proclaims ?_)
      exact quiet_wakeAll ({ before with now := time } : Deployment) actors
  | release gate count =>
      refine Or.inl (Quiet.proclaims ?_)
      exact quiet_wakeAll (before.setGate gate _) _
  | cancel token =>
      refine Or.inl (Quiet.proclaims ?_)
      exact quiet_wakeAll ({ before with cancelled := token :: before.cancelled } : Deployment) _
  | submitNow door draft => exact Or.inl (quiet_submitNow door draft).proclaims
  | close buffered => exact Or.inl (quiet_adopt before _ _).proclaims
  | logStats tag => exact Or.inl (quiet_logStats before tag).proclaims
  | start => exact Or.inl proclaims_start
  | stop held => exact Or.inl (proclaims_requestStop before)
  | drop => exact Or.inl proclaims_dropHolder
  | handOver holder held =>
      refine Or.inl (Quiet.proclaims ?_)
      exact .refl before
  | announce settings held =>
      refine Or.inl (Quiet.proclaims ?_)
      unfold Deployment.announce
      dsimp only
      split
      · exact quiet_note before (show Journal.stopMarks [.logged _] = [] from rfl)
      · exact .refl before
  | watch watches => exact Or.inr ⟨watches, rfl⟩

end Acts

/-! ## Events -/

section Events

variable {before after : Deployment}

/-- Whoever has had the turn leaves the line, and he did not wait for a state if another
one was entered. -/
theorem Regular.proclaims_tick (regular : before.Regular) : Proclaims before before.tick := by
  unfold tick
  cases line : before.ready with
  | nil => exact (Quiet.refl before).proclaims
  | cons head rest =>
      cases head with
      | worker =>
          have proclaims := (heralds_advanceWorker before).proclaims
          have works := works_advanceWorker regular.lawful
          dsimp only
          split
          · next after goesOn =>
            rw [goesOn] at proclaims
            exact proclaims
          · next after rests =>
            rw [rests] at proclaims works
            refine ⟨proclaims.state.imp_right fun woken => ?_, proclaims.watches, proclaims.stops⟩
            intro id job known observes
            apply works.toUnfolds.mem_stepBack line _ (woken id job known observes)
            intro impossible
            cases impossible
      | caller id =>
          have proclaims := proclaims_advanceCaller before id
          have visits : Visits before id (before.advanceCaller id) :=
            visits_advanceCaller regular.lawful regular.joins
          refine ⟨?_, proclaims.watches, proclaims.stops⟩
          rcases proclaims.state with same | woken
          · exact Or.inl same
          · by_cases own : ∃ job, before.job? id = some job ∧ job.call.observesState = true
            · rcases own with ⟨job, known, observes⟩
              exact Or.inl (quiet_advanceCaller before id known
                (Call.isJoin_of_observesState observes)).state
            · refine Or.inr fun other job known observes => ?_
              apply visits.toUnfolds.mem_stepBack line _ (woken other job known observes)
              intro same
              cases same
              exact own ⟨job, known, observes⟩

theorem Whim.quiet (whim : Whim before after) : Quiet before after := by
  cases whim with
  | answers later scripted => exact .refl before
  | main later _ here => exact quiet_wakeAll (before.setWorker _) [.worker]
  | drain later _ here => exact quiet_wakeAll (before.setWorker _) [.worker]

/-- Every event but a look of a subscriber makes known what has become of the state. -/
theorem Regular.proclaims (regular : before.Regular) (event : Event before after) :
    Proclaims before after ∨ ∃ watches, after = { before with watches } := by
  cases event with
  | turn => exact Or.inl regular.proclaims_tick
  | begins id call _ =>
      refine Or.inl (Quiet.proclaims ?_)
      exact quiet_wakeAll (before.addJob id call) [.caller id]
  | @abort id job known =>
      refine Or.inl (Quiet.proclaims ?_)
      exact quiet_wakeAll (before.setJob id { job with doomed := true }) [.caller id]
  | act act => exact act.proclaims
  | whim whim => exact Or.inl whim.quiet.proclaims

end Events

end Deployment
end FailureDispatch

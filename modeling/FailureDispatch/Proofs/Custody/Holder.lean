import FailureDispatch.Proofs.Course.Visit

/-!
# Who can stop the service

A handle changes hands by steps from outside only.  No turn, whether of the
worker or of a caller, gives it to anybody or takes it away.  Nor does the worker
ask itself to stop: among the turns it is only those of a call that owns the
handle that do.

This holds whatever the queue is, so it is said of the parts of a turn one by
one.
-/

namespace FailureDispatch
namespace Deployment

/-- Who holds the handle, and whether the worker has been told to stop. -/
def custody (deployment : Deployment) : Holder × Bool :=
  (deployment.holder, deployment.service.stopRequested)

section Custody

variable (deployment : Deployment)

/-! ## Records and wake-ups -/

@[simp] theorem custody_note (entry : Occurrence) :
    (deployment.note entry).custody = deployment.custody := rfl

@[simp] theorem custody_noteAll (trace : Journal) :
    (deployment.noteAll trace).custody = deployment.custody := rfl

@[simp] theorem custody_log (notice : Notice) :
    (deployment.log notice).custody = deployment.custody := rfl

@[simp] theorem custody_count (counter : Counter) (amount : Nat) :
    (deployment.count counter amount).custody = deployment.custody := rfl

@[simp] theorem custody_wakeAll (actors : List Actor) :
    (deployment.wakeAll actors).custody = deployment.custody := by
  rw [wakeAll_eq]
  rfl

@[simp] theorem custody_wake (actor : Actor) :
    (deployment.wake actor).custody = deployment.custody :=
  custody_wakeAll deployment [actor]

@[simp] theorem custody_stepBack : deployment.stepBack.custody = deployment.custody := rfl

@[simp] theorem custody_setWorker (worker : Worker) :
    (deployment.setWorker worker).custody = deployment.custody := rfl

@[simp] theorem custody_setJob (id : Nat) (job : Job) :
    (deployment.setJob id job).custody = deployment.custody := rfl

@[simp] theorem custody_addJob (id : Nat) (call : Call) :
    (deployment.addJob id call).custody = deployment.custody := rfl

@[simp] theorem custody_finish (id : Nat) (outcome : Outcome) :
    (deployment.finish id outcome).custody = deployment.custody := rfl

@[simp] theorem custody_setGate (name : String) (permits : Permits Actor) :
    (deployment.setGate name permits).custody = deployment.custody := rfl

@[simp] theorem custody_adopt (woken : List Actor) (queue : SubmissionQueue Actor Batch) :
    (deployment.adopt woken queue).custody = deployment.custody := by
  rw [adopt_eq]
  rfl

@[simp] theorem custody_logStats (tag : String) :
    (deployment.logStats tag).custody = deployment.custody := by
  unfold logStats
  split <;> rfl

@[simp] theorem custody_requestStats (tag : String) :
    (deployment.requestStats tag).custody = deployment.custody :=
  custody_logStats (deployment.note (.contact (.reports tag))) tag

@[simp] theorem custody_enter (next : ServiceState) :
    (deployment.enter next).2.custody = deployment.custody := by
  unfold enter
  split
  · exact custody_wakeAll _ _
  · rfl

/-! ## Dispatch -/

@[simp] theorem custody_passGate (name : String) :
    (deployment.passGate name).2.custody = deployment.custody := rfl

@[simp] theorem custody_perform (name : String) (actions : List Action) :
    (deployment.perform name actions).2.custody = deployment.custody := by
  fun_induction perform deployment name actions with
  | case1 | case3 | case4 | case5 | case7 => rfl
  | case2 _ _ inductionHypothesis | case6 _ _ inductionHypothesis => exact inductionHypothesis
  | case8 deployment gate rest passed passes inductionHypothesis =>
      have through := deployment.custody_passGate gate
      rw [passes] at through
      exact inductionHypothesis.trans through
  | case9 deployment gate rest waiting waits =>
      have through := deployment.custody_passGate gate
      rwa [waits] at through

@[simp] theorem custody_pauseOver (pause : Pause) :
    (deployment.pauseOver pause).2.custody = deployment.custody := by
  cases pause <;> rfl

@[simp] theorem custody_fault (name : String) (batch : Batch) (error : FailureError) :
    (deployment.fault name batch error).custody = deployment.custody := rfl

@[simp] theorem custody_afterAcknowledging (batch : Batch) (ref : HandlerRef) (name : String)
    (performance : Performance) :
    (deployment.afterAcknowledging batch ref name performance).2.custody = deployment.custody := by
  unfold afterAcknowledging
  split <;> rfl

@[simp] theorem custody_acknowledge (batch : Batch) (ref : HandlerRef) (name : String) :
    (deployment.acknowledge batch ref name).2.custody = deployment.custody := by
  unfold acknowledge
  split
  · rfl
  · simp only [custody_afterAcknowledging, custody_perform]
    rfl

@[simp] theorem custody_afterHandling (batch : Batch) (ref : HandlerRef) (name : String)
    (performance : Performance) :
    (deployment.afterHandling batch ref name performance).2.custody = deployment.custody := by
  unfold afterHandling
  split
  · exact custody_acknowledge deployment batch ref name
  all_goals rfl

@[simp] theorem custody_callHandler (batch : Batch) (ref : HandlerRef) :
    (deployment.callHandler batch ref).2.custody = deployment.custody := by
  unfold callHandler
  split
  · rfl
  · simp only [custody_afterHandling, custody_perform, custody_noteAll]
    cases ref <;> rfl

@[simp] theorem custody_continueCall (batch : Batch) (invocation : Invocation) :
    (deployment.continueCall batch invocation).2.custody = deployment.custody := by
  unfold continueCall
  split
  · rfl
  · dsimp only
    split <;> simp only [custody_afterHandling, custody_afterAcknowledging, custody_perform]

@[simp] theorem custody_beginDispatch (phase : Phase) (batch : Batch) :
    (deployment.beginDispatch phase batch).custody = deployment.custody := by
  unfold beginDispatch
  dsimp only
  split <;> rfl

theorem custody_advanceDispatch (phase : Phase) (dispatch : Dispatch) :
    (deployment.advanceDispatch phase dispatch).2.custody = deployment.custody := by
  unfold advanceDispatch
  split
  · next invocation _ =>
    have waited := deployment.custody_pauseOver invocation.pause
    split
    · next waiting paused =>
      rwa [paused] at waited
    · next resumed paused =>
      rw [paused] at waited
      exact (resumed.custody_continueCall dispatch.batch invocation).trans waited
  · split
    · next ref _ _ => exact deployment.custody_callHandler dispatch.batch ref
    · rfl

/-! ## The worker -/

@[simp] theorem custody_startUp : deployment.startUp.custody = deployment.custody := by
  have entered := custody_enter (deployment.log
    (.startingUp deployment.service.handlers.length deployment.service.fallback.name)) .running
  unfold startUp
  dsimp only
  split <;> next same =>
    rw [same] at entered
    exact entered

@[simp] theorem custody_takeInHand (phase : Phase) (batch : Batch) :
    (deployment.takeInHand phase batch).custody = deployment.custody :=
  custody_beginDispatch _ phase batch

@[simp] theorem custody_missed (error : FailureError) :
    (deployment.missed error).custody = deployment.custody := by
  unfold missed
  split <;> rfl

@[simp] theorem custody_tearDown (text : String) :
    (deployment.tearDown text).custody = deployment.custody :=
  custody_wakeAll _ _

@[simp] theorem custody_answerMain (answer : QueueAnswer) :
    (deployment.answerMain answer).custody = deployment.custody := by
  cases answer <;> simp only [answerMain, custody_takeInHand, custody_missed, custody_tearDown,
    custody_setWorker]

theorem custody_beginFetch : deployment.beginFetch.2.custody = deployment.custody := by
  unfold beginFetch
  dsimp only
  split
  · rfl
  · split
    · rfl
    · split
      · exact custody_answerMain _ _
      · rfl

theorem custody_advanceFetch (fetch : Fetch) :
    (deployment.advanceFetch fetch).2.custody = deployment.custody := by
  unfold advanceFetch
  cases fetch with
  | queued place =>
      dsimp only
      split
      · rfl
      · split
        · simp only [custody_missed, custody_adopt]
        · split <;> simp only [custody_takeInHand, custody_missed, custody_setWorker, custody_adopt]
  | delayed time answer =>
      dsimp only
      split
      · exact custody_answerMain deployment answer
      · rfl
  | forStop =>
      dsimp only
      split
      · exact custody_missed deployment _
      · rfl

@[simp] theorem custody_retire (worker : Worker) :
    (deployment.retire worker).custody = deployment.custody :=
  custody_wakeAll _ _

@[simp] theorem custody_closeAccounts (count : Nat) :
    (deployment.closeAccounts count).custody = deployment.custody :=
  custody_requestStats _ _

@[simp] theorem custody_completeDrain (count : Nat) :
    (deployment.completeDrain count).custody = deployment.custody := by
  have entered := custody_enter
    (((deployment.note (.contact .givesNothing)).closeAccounts count).log (.drained count))
    .terminated
  rw [custody_log, custody_closeAccounts, custody_note] at entered
  unfold completeDrain
  dsimp only
  split <;> next same =>
    rw [same] at entered
    rw [custody_retire]
    exact entered

@[simp] theorem custody_abandonDrain (count : Nat) (error : FailureError) :
    (deployment.abandonDrain count error).custody = deployment.custody := by
  simp only [abandonDrain, custody_retire, custody_enter, custody_log, custody_closeAccounts,
    custody_note]

@[simp] theorem custody_answerDrain (count : Nat) (answer : QueueAnswer) :
    (deployment.answerDrain count answer).custody = deployment.custody := by
  cases answer <;> simp only [answerDrain, custody_takeInHand, custody_abandonDrain,
    custody_tearDown, custody_completeDrain]

theorem custody_beginDrainFetch (count : Nat) :
    (deployment.beginDrainFetch count).2.custody = deployment.custody := by
  unfold beginDrainFetch
  dsimp only
  split
  · rfl
  · split
    · exact custody_completeDrain _ count
    · split
      · exact custody_answerDrain _ count _
      · rfl

theorem custody_advanceDrainFetch (count deadline : Nat) (fetch : Fetch) :
    (deployment.advanceDrainFetch count deadline fetch).2.custody = deployment.custody := by
  unfold advanceDrainFetch
  cases fetch with
  | queued place =>
      dsimp only
      split
      · rfl
      · split
        · simp only [custody_takeInHand, custody_adopt]
        · simp only [custody_completeDrain, custody_adopt]
        · split <;> simp only [custody_completeDrain, custody_setWorker, custody_adopt]
  | delayed time answer =>
      dsimp only
      split
      · exact custody_answerDrain deployment count answer
      · rfl
  | forStop => rfl

/-- The worker neither touches the handle nor tells itself to stop. -/
theorem custody_advanceWorker : deployment.advanceWorker.2.custody = deployment.custody := by
  unfold advanceWorker
  cases deployment.service.worker with
  | idle | done _ | failed _ | aborted _ => rfl
  | fresh => exact custody_startUp deployment
  | looping =>
      dsimp only
      split
      · exact custody_beginFetch deployment
      · rfl
  | fetching fetch => exact custody_advanceFetch deployment fetch
  | parked =>
      dsimp only
      split <;> rfl
  | dispatching phase dispatch => exact custody_advanceDispatch deployment phase dispatch
  | draining count => exact custody_beginDrainFetch deployment count
  | drainFetching count deadline fetch =>
      exact custody_advanceDrainFetch deployment count deadline fetch

/-! ## Callers -/

theorem custody_report (id : Nat) (door : Door) (result : Except FailureError Nat) :
    (deployment.report id door result).custody = deployment.custody := by
  unfold report leaveRuntime
  cases door <;> cases result <;> dsimp only
  · rfl
  · rfl
  all_goals
    cases deployment.source with
    | buffered queue => simp only [custody_finish, custody_log, custody_adopt]
    | scripted queue => rfl

theorem custody_advanceJoin (id : Nat) (door : Door) :
    (deployment.advanceJoin id door).custody = deployment.custody := by
  unfold advanceJoin
  split
  · exact custody_report deployment id door _
  · exact custody_report deployment id door _
  · exact (custody_report _ id door _).trans (custody_enter deployment _)
  · rfl

theorem custody_settleSubmission (id : Nat) (door : Door) (batch : Batch)
    (submission : SubmissionQueue.Submission) :
    (deployment.settleSubmission id door batch submission).custody = deployment.custody := by
  cases submission <;> rfl

/-- A call that does not own the handle does nothing about it. -/
theorem custody_advanceCall (id : Nat) (call : Call) (apart : call.isJoin = false) :
    (deployment.advanceCall id call).custody = deployment.custody := by
  unfold advanceCall
  split
  · exact (custody_settleSubmission _ id _ _ _).trans (custody_adopt _ _ _)
  · split
    · simp only [custody_finish, custody_adopt]
    · split <;> simp only [custody_finish, custody_setJob, custody_note, custody_adopt]
  · split
    · simp only [custody_finish, custody_note, custody_adopt]
    · simp only [custody_finish, custody_adopt]
    · split <;> simp only [custody_finish, custody_setJob, custody_adopt]
  · cases apart
  · cases apart
  · split <;> rfl
  · split <;> rfl
  · rfl

theorem custody_dismantle (id : Nat) (call : Call) (apart : call.isJoin = false) :
    (deployment.dismantle id call).custody = deployment.custody := by
  unfold dismantle
  dsimp only
  split
  · simp only [custody_finish, custody_adopt]
  · simp only [custody_finish, custody_adopt]
  · simp only [custody_finish, custody_adopt]
  · cases apart
  · rfl

end Custody

/-! ## The holder -/

section Holder

variable (deployment : Deployment)

theorem holder_of_custody {before after : Deployment} (same : after.custody = before.custody) :
    after.holder = before.holder :=
  congrArg Prod.fst same

theorem told_of_custody {before after : Deployment} (same : after.custody = before.custody) :
    after.service.stopRequested = before.service.stopRequested :=
  congrArg Prod.snd same

/-- After a request the worker has been told, and the handle is where it was. -/
theorem custody_requestStop : deployment.requestStop.custody = (deployment.holder, true) := by
  cases can : deployment.service.state.canBecome .stopping with
  | true =>
      rcases requestStop_of_can can with ⟨_, _, _, same⟩
      rw [same]
      rfl
  | false =>
      rcases requestStop_of_cannot can with ⟨_, same⟩
      rw [same]
      rfl

theorem told_requestStop : deployment.requestStop.service.stopRequested = true :=
  congrArg Prod.snd deployment.custody_requestStop

/-- Only a call that owns the handle, or has owned it, tells the worker to stop. -/
theorem custody_advanceCaller (id : Nat) :
    (deployment.advanceCaller id).custody = deployment.custody ∨
      ((deployment.advanceCaller id).custody = (deployment.holder, true) ∧
        ∃ job, deployment.job? id = some job ∧ job.call.isJoin = true) := by
  unfold advanceCaller
  rcases known : deployment.job? id with _ | ⟨call, doomed⟩
  · exact Or.inl rfl
  cases apart : call.isJoin with
  | false =>
      cases doomed with
      | true => exact Or.inl (deployment.custody_dismantle id call apart)
      | false => exact Or.inl (deployment.custody_advanceCall id call apart)
  | true =>
      cases call with
      | join door stopFirst =>
          cases doomed with
          | true => exact Or.inr ⟨deployment.custody_requestStop, _, rfl, apart⟩
          | false =>
              have waits := custody_advanceJoin
                ((deployment.toldBy stopFirst).setJob id { call := .joining door }) id door
              cases stopFirst with
              | true =>
                  exact Or.inr ⟨waits.trans deployment.custody_requestStop, _, rfl, apart⟩
              | false => exact Or.inl waits
      | joining door =>
          cases doomed with
          | true => exact Or.inl rfl
          | false => exact Or.inl (deployment.custody_advanceJoin id door)
      | _ => cases apart

theorem holder_advanceCaller (id : Nat) :
    (deployment.advanceCaller id).holder = deployment.holder := by
  rcases deployment.custody_advanceCaller id with same | ⟨stopped, _⟩
  · exact holder_of_custody same
  · exact congrArg Prod.fst stopped

/-- A request to stop is not taken back. -/
theorem told_advanceCaller (id : Nat) (told : deployment.service.stopRequested = true) :
    (deployment.advanceCaller id).service.stopRequested = true := by
  rcases deployment.custody_advanceCaller id with same | ⟨stopped, _⟩
  · exact (told_of_custody same).trans told
  · exact congrArg Prod.snd stopped

/-- No turn moves the handle. -/
theorem holder_tick : deployment.tick.holder = deployment.holder := by
  apply tick_keeps fun later => later.holder = deployment.holder
  · exact fun _ _ same => same
  · exact holder_of_custody deployment.custody_advanceWorker
  · exact deployment.holder_advanceCaller
  · rfl

theorem holder_settle : deployment.settle.holder = deployment.holder := by
  have keeps (later : Deployment) (same : later.holder = deployment.holder) :
      later.tick.holder = deployment.holder :=
    (holder_tick later).trans same
  exact settle_keeps keeps rfl

end Holder

end Deployment
end FailureDispatch

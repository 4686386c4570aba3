import FailureDispatch.Deployment.Easing.Worker

/-!
# The callers' turns ease the effort

The turn of a caller ends its call, moves it on by one turn, or leaves it
waiting as it was.  A call that ends may have brought a batch; it is paid for
by the call itself, which is counted as one batch from the beginning.

The main statement is `answers_advanceCaller`.
-/

namespace FailureDispatch

theorem mem_of_lookup {α β : Type} [BEq α] [LawfulBEq α] {entries : List (α × β)} {key : α}
    {value : β} (found : entries.lookup key = some value) : (key, value) ∈ entries := by
  obtain ⟨_, _, split, _⟩ := List.lookup_eq_some_iff.mp found
  simp [split]

namespace Deployment

/-- What the turn of a caller comes to, if it wakes so many at most. -/
inductive Answers (woken : Nat) (before after : Deployment) : Prop where
  | waits (jobs : after.jobs.length = before.jobs.length) (effort : after.effort ≤ before.effort)
      (ready : after.ready.length ≤ before.ready.length)
  | moves (jobs : after.jobs.length = before.jobs.length) (effort : after.effort < before.effort)
      (ready : after.ready.length ≤ before.ready.length + woken)
  | ends (jobs : after.jobs.length < before.jobs.length) (effort : after.effort ≤ before.effort)
      (ready : after.ready.length ≤ before.ready.length + woken)

namespace Answers

variable {m n : Nat} {a b c : Deployment}

theorem refl (deployment : Deployment) : Answers n deployment deployment :=
  .waits rfl (Nat.le_refl _) (Nat.le_refl _)

theorem weaken (answers : Answers m a b) (le : m ≤ n) : Answers n a b := by
  cases answers with
  | waits jobs effort ready => exact .waits jobs effort ready
  | moves jobs effort ready => exact .moves jobs effort (by omega)
  | ends jobs effort ready => exact .ends jobs effort (by omega)

/-- A call that has moved on may go on in the same turn. -/
theorem after_move (jobs : b.jobs.length = a.jobs.length) (effort : b.effort < a.effort)
    (ready : b.ready.length ≤ a.ready.length + m) (answers : Answers n b c) :
    Answers (m + n) a c := by
  cases answers with
  | waits jobs effort ready => exact .moves (by omega) (by omega) (by omega)
  | moves jobs effort ready => exact .moves (by omega) (by omega) (by omega)
  | ends jobs effort ready => exact .ends (by omega) (by omega) (by omega)

end Answers

/-! ## The list of calls -/

theorem one_le_callTurns (call : Call) : 1 ≤ callTurns call := by
  cases call <;> simp [callTurns]

theorem turnsLeft_append (front rest : List (Nat × Job)) :
    turnsLeft (front ++ rest) = turnsLeft front + turnsLeft rest := by
  induction front with
  | nil => exact (Nat.zero_add _).symm
  | cons entry front ih => simp only [List.cons_append, turnsLeft, ih, Nat.add_assoc]

theorem callersTurns_finish_le (deployment : Deployment) (id : Nat) (outcome : Outcome) :
    (deployment.finish id outcome).callersTurns ≤ deployment.callersTurns := by
  unfold callersTurns finish
  dsimp only
  induction deployment.jobs with
  | nil => exact Nat.le_refl _
  | cons entry rest ih =>
      simp only [List.filter_cons]
      split <;> simp only [turnsLeft] <;> omega

theorem mem_of_job? {deployment : Deployment} {id : Nat} {job : Job}
    (present : deployment.job? id = some job) : (id, job) ∈ deployment.jobs :=
  mem_of_lookup present

theorem length_finish_lt {deployment : Deployment} {id : Nat} {job : Job}
    (present : deployment.job? id = some job) (outcome : Outcome) :
    (deployment.finish id outcome).jobs.length < deployment.jobs.length := by
  unfold finish
  dsimp only
  rw [List.length_filter_lt_length_iff_exists]
  exact ⟨_, mem_of_job? present, by simp⟩

theorem length_setJob (deployment : Deployment) (id : Nat) (job : Job) :
    (deployment.setJob id job).jobs.length = deployment.jobs.length := by
  simp [setJob]

theorem job?_setJob {deployment : Deployment} {id : Nat} {old : Job}
    (present : deployment.job? id = some old) (job : Job) :
    (deployment.setJob id job).job? id = some job := by
  obtain ⟨front, rest, split, others⟩ := List.lookup_eq_some_iff.mp present
  unfold job? setJob
  dsimp only
  refine List.lookup_eq_some_iff.mpr
    ⟨front.map fun entry => if entry.1 = id then (id, job) else entry,
      rest.map fun entry => if entry.1 = id then (id, job) else entry, by simp [split], ?_⟩
  intro entry member
  obtain ⟨source, inFront, same⟩ := List.mem_map.mp member
  have other := others source inFront
  have apart : ¬ source.1 = id := fun equal => by simp [equal] at other
  rw [if_neg apart] at same
  rwa [← same]

/-- A call that is replaced by one with a single turn left does not add turns. -/
theorem turnsLeft_replace_le (jobs : List (Nat × Job)) (id : Nat) {job : Job}
    (single : callTurns job.call = 1) :
    turnsLeft (jobs.map fun entry => if entry.1 = id then (id, job) else entry)
      ≤ turnsLeft jobs := by
  induction jobs with
  | nil => exact Nat.le_refl _
  | cons entry rest ih =>
      have := one_le_callTurns entry.2.call
      simp only [List.map_cons, turnsLeft]
      split
      · dsimp only
        omega
      · omega

theorem callersTurns_setJob_le (deployment : Deployment) (id : Nat) {job : Job}
    (single : callTurns job.call = 1) :
    (deployment.setJob id job).callersTurns ≤ deployment.callersTurns :=
  turnsLeft_replace_le deployment.jobs id single

theorem callersTurns_setJob_lt {deployment : Deployment} {id : Nat} {old job : Job}
    (present : deployment.job? id = some old) (double : callTurns old.call = 2)
    (single : callTurns job.call = 1) :
    (deployment.setJob id job).callersTurns < deployment.callersTurns := by
  obtain ⟨front, rest, split, _⟩ := List.lookup_eq_some_iff.mp present
  have before := turnsLeft_replace_le front id single
  have after := turnsLeft_replace_le rest id single
  unfold callersTurns setJob
  rw [split]
  simp only [List.map_append, List.map_cons, turnsLeft_append, turnsLeft, ↓reduceIte, single,
    double]
  omega

/-! ## Ways to end a turn -/

/-- A call ends: it may have cost as much as a batch in the queue. -/
theorem answers_finish {before after : Deployment} {id woken : Nat} {job : Job}
    (present : before.job? id = some job) (jobs : after.jobs = before.jobs)
    (handlers : after.service.handlers.length = before.service.handlers.length)
    (load : after.load ≤ before.load + (before.service.handlers.length + 20))
    (ready : after.ready.length ≤ before.ready.length + woken)
    (outcome : Outcome) : Answers woken before (after.finish id outcome) := by
  have remains : after.job? id = some job := by
    unfold job? at *
    rwa [jobs]
  have fewer := length_finish_lt remains outcome
  have turns := callersTurns_finish_le after id outcome
  have sameTurns : after.callersTurns = before.callersTurns := by
    unfold callersTurns
    rw [jobs]
  rw [jobs] at fewer
  refine .ends fewer ?_ ready
  have product := Nat.mul_le_mul_left (before.service.handlers.length + 20) fewer
  rw [Nat.mul_succ] at product
  have sameLoad : (after.finish id outcome).load = after.load := rfl
  unfold effort
  rw [sameLoad]
  rw [show (after.finish id outcome).service.handlers.length
    = before.service.handlers.length from handlers]
  omega

theorem Eases.answers_finish {before after : Deployment} {id woken gain : Nat} {job : Job}
    (eases : Eases woken gain before after) (present : before.job? id = some job)
    (outcome : Outcome) : Answers woken before (after.finish id outcome) := by
  have := eases.load
  exact Deployment.answers_finish present eases.jobs eases.handlers (by omega) eases.ready outcome

/-- The load of a deployment whose queue has been exchanged. -/
theorem load_adopt_le {deployment : Deployment} {queue after : SubmissionQueue Actor Batch}
    (buffered : deployment.source = .buffered queue) (woken : List Actor) (extra : Nat)
    (le : after.buffer.length ≤ queue.buffer.length + extra) :
    (deployment.adopt woken after).load
      ≤ deployment.load + (deployment.service.handlers.length + 20) * extra := by
  have adopted := frame_adopt deployment woken after
  have product := Nat.mul_le_mul_left (deployment.service.handlers.length + 20) le
  rw [Nat.mul_add] at product
  unfold load
  rw [adopted.handlers, adopted.stop, adopted.worker, adopted.source, buffered]
  dsimp only [stock]
  omega

/-- Exchanging the queue for one that holds no more. -/
theorem eases_adopt {deployment : Deployment} {queue after : SubmissionQueue Actor Batch}
    (buffered : deployment.source = .buffered queue) (woken : List Actor)
    (le : after.buffer.length ≤ queue.buffer.length) :
    Eases woken.length 0 deployment (deployment.adopt woken after) where
  jobs := (frame_adopt deployment woken after).jobs
  handlers := (frame_adopt deployment woken after).handlers
  load := by simpa using load_adopt_le buffered woken 0 le
  ready := (frame_adopt deployment woken after).ready

theorem Eases.trans {m n : Nat} {a b c : Deployment} (first : Eases m 0 a b)
    (second : Eases n 0 b c) : Eases (m + n) 0 a c where
  jobs := second.jobs.trans first.jobs
  handlers := second.handlers.trans first.handlers
  load := Nat.le_trans second.load first.load
  ready := by
    have := first.ready
    have := second.ready
    omega

/-- A call waits on, with the queue exchanged for one that holds as much. -/
theorem answers_setJob {deployment : Deployment} {queue after : SubmissionQueue Actor Batch}
    (buffered : deployment.source = .buffered queue) (same : after.buffer = queue.buffer)
    (id : Nat) {job : Job} (single : callTurns job.call = 1) :
    Answers 0 deployment ((deployment.adopt [] after).setJob id job) := by
  have turns := callersTurns_setJob_le (deployment.adopt [] after) id single
  have load := load_adopt_le buffered [] 0 (Nat.le_of_eq (by rw [same]; rfl))
  have product := length_setJob (deployment.adopt [] after) id job
  refine .waits product ?_ (Nat.le_refl _)
  unfold effort
  rw [product]
  have lighter : (deployment.adopt [] after).load ≤ deployment.load := by simpa using load
  exact Nat.add_le_add (Nat.add_le_add lighter (Nat.le_refl _)) turns

/-! ## The turns of calls -/

theorem eases_requestStop (deployment : Deployment) :
    Eases (deployment.jobs.length + 1) 0 deployment deployment.requestStop := by
  have entered := frame_enter deployment .stopping
  have cancelled (other : Deployment) : Eases 1 0 other other.cancelWorker := by
    have told : Eases 0 0 other
        { other with service := { other.service with stopRequested := true } } := by
      refine ⟨rfl, rfl, ?_, Nat.le_refl _⟩
      unfold load
      dsimp only
      cases other.service.worker with
      | looping => cases other.service.stopRequested <;> simp [workerTurns]
      | fetching fetch => cases fetch <;> simp [workerTurns]
      | drainFetching _ _ fetch => cases fetch <;> simp [workerTurns]
      | _ => simp [workerTurns]
    unfold cancelWorker
    dsimp only
    split
    · exact told.trans (frame_wake _ _).eases
    · exact told.weaken (Nat.zero_le 1)
  unfold requestStop
  split
  · next moved enters =>
    rw [enters] at entered
    exact (entered.eases.trans (cancelled moved)).trans
      ((frame_log _ .stopRequested).trans (frame_requestStats _ stopTag)).eases
  · next error same refuses =>
    rw [refuses] at entered
    exact entered.eases.trans (cancelled same)

theorem answers_report {before deployment : Deployment} {id woken gain : Nat} {job : Job}
    (eases : Eases woken gain before deployment) (present : before.job? id = some job)
    (door : Door) (result : Except FailureError Nat) :
    Answers (woken + 1) before (deployment.report id door result) := by
  have lighter : Eases woken 0 before deployment :=
    { eases with load := Nat.le_trans (Nat.le_add_right _ _) eases.load }
  have leaves (closed : Deployment) (closing : Eases (woken + 1) 0 before closed) :
      (∀ count state outcome, Answers (woken + 1) before
        ((closed.log (.disassembled count state)).finish id outcome)) ∧
      ∀ outcome, Answers (woken + 1) before (closed.finish id outcome) :=
    ⟨fun _ _ => (closing.trans (frame_log _ _).eases).answers_finish present,
      closing.answers_finish present⟩
  unfold report
  split
  · unfold leaveRuntime
    cases source : deployment.source with
    | buffered queue =>
        have still := Nat.le_of_eq (congrArg List.length queue.buffer_close)
        have closing := (eases_adopt source _ still).weaken queue.length_close_le
        have both := leaves _ (lighter.trans closing)
        dsimp only
        split
        · exact both.1 _ _ _
        · exact both.2 _
    | scripted queue =>
        have both := leaves deployment (lighter.weaken (Nat.le_succ woken))
        dsimp only
        split
        · exact both.1 _ _ _
        · exact both.2 _
  · exact (lighter.answers_finish present _).weaken (Nat.le_succ woken)
  · exact (lighter.answers_finish present _).weaken (Nat.le_succ woken)

theorem answers_advanceJoin {deployment : Deployment} {id : Nat} {job : Job}
    (present : deployment.job? id = some job) (door : Door) :
    Answers (deployment.jobs.length + 1) deployment (deployment.advanceJoin id door) := by
  unfold advanceJoin
  split
  · exact (answers_report (Frame.refl deployment).eases present door _).weaken (by omega)
  · exact (answers_report (Frame.refl deployment).eases present door _).weaken (by omega)
  · exact answers_report (frame_enter deployment .failed).eases present door _
  · exact Answers.refl deployment

theorem answers_settleSubmission {deployment : Deployment}
    {queue after : SubmissionQueue Actor Batch} {id : Nat} {job : Job} {batch : Batch}
    {woken : List Actor} {submission : SubmissionQueue.Submission}
    (buffered : deployment.source = .buffered queue) (present : deployment.job? id = some job)
    (fits : submission.Fits queue after batch woken) (door : Door) :
    Answers 1 deployment
      ((deployment.adopt woken after).settleSubmission id door batch submission) := by
  have adopted := frame_adopt deployment woken after
  cases submission with
  | accepted =>
      have longer : after.buffer.length ≤ queue.buffer.length + 1 := by simp [fits.1]
      have load := load_adopt_le buffered woken 1 longer
      have few := fits.2
      have ready := adopted.ready
      have noted := frame_note (deployment.adopt woken after) (.accepted batch)
      have same := noted.eases.load
      have still := noted.ready
      exact answers_finish present (noted.jobs.trans adopted.jobs)
        (noted.handlers.trans adopted.handlers) (by omega) (by dsimp only at ready; omega) .done
  | refused error =>
      obtain ⟨same, rfl⟩ := fits
      exact (((eases_adopt buffered [] (Nat.le_of_eq (congrArg List.length same))).trans
        (frame_note _ (.refused batch)).eases).answers_finish present _).weaken (Nat.zero_le 1)
  | waiting =>
      obtain ⟨same, rfl⟩ := fits
      exact (answers_setJob buffered same id rfl).weaken (Nat.zero_le 1)

/-- Leaving a place in the queue ends a call. -/
theorem answers_depart {deployment : Deployment} {queue : SubmissionQueue Actor Batch} {id : Nat}
    {job : Job} (buffered : deployment.source = .buffered queue)
    (present : deployment.job? id = some job) (place : SubmissionQueue.Place) (outcome : Outcome) :
    Answers 1 deployment ((deployment.adopt (queue.depart (.caller id) place).1
      (queue.depart (.caller id) place).2).finish id outcome) :=
  ((eases_adopt buffered _ (Nat.le_of_eq (congrArg List.length
    (queue.buffer_depart _ place)))).answers_finish present outcome).weaken
      (queue.length_depart_le _ place)

theorem answers_dismantle {deployment : Deployment} {id : Nat} {job : Job}
    (present : deployment.job? id = some job) (call : Call) :
    Answers (deployment.jobs.length + 2) deployment (deployment.dismantle id call) := by
  unfold dismantle
  dsimp only
  split
  · next queue buffered =>
    exact ((eases_adopt buffered _ (Nat.le_of_eq (congrArg List.length
      (queue.buffer_withdraw _)))).answers_finish present _).weaken
        (Nat.le_trans (queue.length_withdraw_le _) (by omega))
  · next place queue buffered =>
    exact (answers_depart buffered present place _).weaken (by omega)
  · next place queue buffered =>
    exact (answers_depart buffered present place _).weaken (by omega)
  · exact ((eases_requestStop deployment).answers_finish present _).weaken (by omega)
  · exact ((Frame.refl deployment).eases.answers_finish present _).weaken (by omega)

/-- Giving the handle away moves a call on by a turn. -/
theorem effort_setJob_lt {before after : Deployment} {id woken : Nat} {old : Job} (job : Job)
    (eases : Eases woken 0 before after) (present : before.job? id = some old)
    (double : callTurns old.call = 2) (single : callTurns job.call = 1) :
    (after.setJob id job).effort < before.effort := by
  have remains : after.job? id = some old := by
    unfold job? at *
    rwa [eases.jobs]
  have turns := callersTurns_setJob_lt remains double single
  have sameTurns : after.callersTurns = before.callersTurns := by
    unfold callersTurns
    rw [eases.jobs]
  have load := eases.load
  have sameLoad : (after.setJob id job).load = after.load := rfl
  unfold effort
  rw [sameLoad, length_setJob, eases.jobs]
  rw [show (after.setJob id job).service.handlers.length
    = before.service.handlers.length from eases.handlers]
  omega

theorem answers_advanceCall {deployment : Deployment} {id : Nat} {job : Job}
    (present : deployment.job? id = some job) :
    Answers (2 * deployment.jobs.length + 3) deployment (deployment.advanceCall id job.call) := by
  unfold advanceCall
  split
  · next door batch begun queue called buffered =>
    dsimp only
    refine (answers_settleSubmission buffered present ?_ door).weaken (by omega)
    split
    · exact queue.resume_fits _ batch
    · exact queue.submit_fits _ batch
  · next token place queue called buffered =>
    split
    · exact (answers_depart buffered present place _).weaken (by omega)
    · have fits := queue.seek_fits (.caller id) place
      split
      · next batch woken after found =>
        rw [found] at fits
        dsimp only at fits
        exact (((eases_adopt buffered woken (by simp [fits.1])).trans
          (frame_note _ (.taken batch)).eases).answers_finish present _).weaken
            (Nat.le_trans fits.2 (by omega))
      · next woken after found =>
        rw [found] at fits
        dsimp only at fits
        exact ((eases_adopt buffered woken (by simp [fits.1])).answers_finish present _).weaken
          (Nat.le_trans fits.2 (by omega))
      · next place woken after found =>
        rw [found] at fits
        obtain ⟨same, rfl⟩ := fits
        exact (answers_setJob buffered same id rfl).weaken (Nat.zero_le _)
  · next deadline place queue called buffered =>
    have fits := queue.seek_fits (.caller id) place
    split
    · next batch woken after found =>
      rw [found] at fits
      dsimp only at fits
      exact (((eases_adopt buffered woken (by simp [fits.1])).trans
        (frame_note _ (.taken batch)).eases).answers_finish present _).weaken
          (Nat.le_trans fits.2 (by omega))
    · next woken after found =>
      rw [found] at fits
      dsimp only at fits
      exact ((eases_adopt buffered woken (by simp [fits.1])).answers_finish present _).weaken
        (Nat.le_trans fits.2 (by omega))
    · next place woken after found =>
      rw [found] at fits
      obtain ⟨same, rfl⟩ := fits
      dsimp only at same ⊢
      split
      · have left : Eases _ 0 (deployment.adopt [] after)
            ((deployment.adopt [] after).adopt (after.depart (.caller id) place).1
              (after.depart (.caller id) place).2) :=
          eases_adopt rfl _ (Nat.le_of_eq (congrArg List.length (after.buffer_depart _ place)))
        have few := after.length_depart_le (.caller id) place
        exact (((eases_adopt buffered [] (by simp [same])).trans left).answers_finish present
          _).weaken (by simp only [List.length_nil]; omega)
      · exact (answers_setJob buffered same id rfl).weaken (Nat.zero_le _)
  · next door stopFirst called =>
    have double : callTurns job.call = 2 := by simp [called, callTurns]
    have stopped : Eases (deployment.jobs.length + 1) 0 deployment
        (if stopFirst then deployment.requestStop else deployment) := by
      split
      · exact eases_requestStop deployment
      · exact (Frame.refl deployment).eases.weaken (Nat.zero_le _)
    have remains : (if stopFirst then deployment.requestStop else deployment).job? id
        = some job := by
      unfold job? at *
      rwa [stopped.jobs]
    have lesser := effort_setJob_lt ⟨.joining door, false⟩ stopped present double rfl
    refine (Answers.after_move ?_ lesser stopped.ready
      (answers_advanceJoin (job?_setJob remains _) door)).weaken ?_
    · rw [length_setJob, stopped.jobs]
    · rw [length_setJob, stopped.jobs]
      omega
  · exact (answers_advanceJoin present _).weaken (by omega)
  · split
    · exact Answers.refl deployment
    · exact Answers.refl deployment
    · exact ((Frame.refl deployment).eases.answers_finish present _).weaken (Nat.zero_le _)
    · exact ((Frame.refl deployment).eases.answers_finish present _).weaken (Nat.zero_le _)
  · split
    · exact ((Frame.refl deployment).eases.answers_finish present _).weaken (Nat.zero_le _)
    · exact Answers.refl deployment
  · exact Answers.refl deployment

theorem answers_advanceCaller (deployment : Deployment) (id : Nat) :
    Answers (2 * deployment.jobs.length + 3) deployment (deployment.advanceCaller id) := by
  unfold advanceCaller
  split
  · exact Answers.refl deployment
  · next call present => exact (answers_dismantle present call).weaken (by omega)
  · next call present => exact answers_advanceCall present

end Deployment
end FailureDispatch

import FailureDispatch.Deployment.Frame

/-!
# The worker's turns ease the load

A turn in which the worker keeps the turn lessens the load, and a turn after
which it rests does not add to it.  The one step that adds turns of its own,
taking a batch in hand, is paid for by the batch that leaves the queue.

The main statement is `advances_advanceWorker`.
-/

namespace FailureDispatch
namespace Deployment

/-! ## The worker moves on -/

/-- The worker has moved on and has so many turns left at most. -/
structure Leaves (woken turns : Nat) (before after : Deployment) : Prop where
  jobs : after.jobs = before.jobs
  source : after.source = before.source
  handlers : after.service.handlers.length = before.service.handlers.length
  turns : workerTurns after.service.handlers.length after.service.stopRequested
    after.service.worker ≤ turns
  ready : after.ready.length ≤ before.ready.length + woken

namespace Leaves

variable {m n t u : Nat} {a b c : Deployment}

theorem after_frame (frame : Frame m a b) (leaves : Leaves n t b c) : Leaves (m + n) t a c where
  jobs := leaves.jobs.trans frame.jobs
  source := leaves.source.trans frame.source
  handlers := leaves.handlers.trans frame.handlers
  turns := leaves.turns
  ready := by
    have := frame.ready
    have := leaves.ready
    omega

theorem before_frame (leaves : Leaves m t a b) (frame : Frame n b c) : Leaves (m + n) t a c where
  jobs := frame.jobs.trans leaves.jobs
  source := frame.source.trans leaves.source
  handlers := frame.handlers.trans leaves.handlers
  turns := by
    rw [frame.handlers, frame.stop, frame.worker]
    exact leaves.turns
  ready := by
    have := frame.ready
    have := leaves.ready
    omega

theorem weaken (leaves : Leaves m t a b) (woken : m ≤ n) (turns : t ≤ u) : Leaves n u a b :=
  { leaves with
    turns := Nat.le_trans leaves.turns turns
    ready := Nat.le_trans leaves.ready (Nat.add_le_add_left woken _) }

end Leaves

theorem leaves_setWorker (deployment : Deployment) (worker : Worker) {turns : Nat}
    (le : workerTurns deployment.service.handlers.length deployment.service.stopRequested
      worker ≤ turns) : Leaves 0 turns deployment (deployment.setWorker worker) :=
  ⟨rfl, rfl, rfl, le, Nat.le_refl _⟩

theorem workerTurns_looping_le (handlers : Nat) (stopRequested : Bool) :
    workerTurns handlers stopRequested .looping ≤ 8 := by
  cases stopRequested <;> simp [workerTurns]

theorem workerTurns_resume_le (handlers : Nat) (stopRequested : Bool) (phase : Phase) :
    workerTurns handlers stopRequested phase.resume ≤ 8 := by
  cases phase with
  | main => exact workerTurns_looping_le handlers stopRequested
  | drain => exact (by decide : 2 ≤ 8)

/-! ## Selection -/

theorem length_among_handlers (batch : Batch) (index : Nat) (handlers : List Handler) :
    (Selection.among batch index handlers).handlers.length = handlers.length := by
  induction handlers generalizing index with
  | nil => rfl
  | cons handler rest ih => simp [Selection.among, ih]

theorem length_among_chosen_le (batch : Batch) (index : Nat) (handlers : List Handler) :
    (Selection.among batch index handlers).chosen.length ≤ handlers.length := by
  induction handlers generalizing index with
  | nil => exact Nat.le_refl 0
  | cons handler rest ih =>
      have := ih (index + 1)
      simp only [Selection.among, List.length_append, List.length_cons]
      split <;> simp <;> omega

theorem length_choose_handlers (handlers : List Handler) (fallback : Handler) (batch : Batch) :
    (Selection.choose handlers fallback batch).handlers.length = handlers.length := by
  unfold Selection.choose
  dsimp only
  split <;> exact length_among_handlers batch 0 handlers

theorem length_choose_chosen_le (handlers : List Handler) (fallback : Handler) (batch : Batch) :
    (Selection.choose handlers fallback batch).chosen.length ≤ handlers.length + 1 := by
  unfold Selection.choose
  dsimp only
  split
  · dsimp only
    split <;> simp
  · have := length_among_chosen_le batch 0 handlers
    omega

/-! ## Parts of the worker's turns -/

theorem leaves_beginDispatch (deployment : Deployment) (phase : Phase) (batch : Batch) :
    Leaves 0 (deployment.service.handlers.length + 10) deployment
      (deployment.beginDispatch phase batch) := by
  have same := length_choose_handlers deployment.service.handlers deployment.service.fallback batch
  have few := length_choose_chosen_le deployment.service.handlers deployment.service.fallback batch
  unfold beginDispatch
  dsimp only
  split
  · refine ⟨rfl, rfl, same, ?_, Nat.le_refl _⟩
    exact Nat.le_trans (workerTurns_resume_le _ _ phase) (by omega)
  · refine ⟨rfl, rfl, same, ?_, Nat.le_refl _⟩
    simp only [setWorker, workerTurns, Option.isSome_none, Bool.false_eq_true, ↓reduceIte]
    omega

theorem leaves_takeInHand (deployment : Deployment) (phase : Phase) (batch : Batch) :
    Leaves 0 (deployment.service.handlers.length + 10) deployment
      (deployment.takeInHand phase batch) :=
  (leaves_beginDispatch _ phase batch).after_frame (frame_noteAll deployment _)

theorem leaves_missed (deployment : Deployment) (error : FailureError) :
    Leaves 0 8 deployment (deployment.missed error) := by
  have recorded (notice : Notice) :
      Frame 0 deployment ((deployment.note (.contact (.fails error))).log notice) :=
    (frame_note deployment _).trans (frame_log _ notice)
  unfold missed
  dsimp only
  split
  · exact (leaves_setWorker _ _ (workerTurns_looping_le _ _)).after_frame (recorded _)
  · exact (leaves_setWorker _ _ (by decide : 6 ≤ 8)).after_frame (recorded _)
  · exact (leaves_setWorker _ _ (workerTurns_looping_le _ _)).after_frame (recorded _)

/-- Once a stop is requested, the main loop is left for good. -/
theorem leaves_missed_cancelled {deployment : Deployment}
    (stop : deployment.service.stopRequested = true) :
    Leaves 0 5 deployment (deployment.missed .cancelled) := by
  refine (leaves_setWorker _ _ ?_).after_frame ((frame_note deployment _).trans (frame_log _ _))
  simp [log, note, workerTurns, stop]

theorem leaves_missed_queueClosed (deployment : Deployment) :
    Leaves 0 6 deployment (deployment.missed .queueClosed) :=
  (leaves_setWorker _ _ (Nat.le_refl 6)).after_frame ((frame_note deployment _).trans (frame_log _ _))

theorem leaves_tearDown (deployment : Deployment) (text : String) :
    Leaves deployment.jobs.length 0 deployment (deployment.tearDown text) :=
  ((leaves_setWorker deployment (.aborted text) (Nat.le_refl 0)).before_frame
    (frame_wakeAll _ _)).weaken
      (by have := deployment.length_callersWith_le Call.awaitsWorker; omega) (Nat.le_refl 0)

theorem leaves_answerMain (deployment : Deployment) (answer : QueueAnswer) :
    Leaves deployment.jobs.length (deployment.service.handlers.length + 10) deployment
      (deployment.answerMain answer) := by
  cases answer with
  | batch batch => exact (leaves_takeInHand deployment .main batch).weaken (by omega) (by omega)
  | error error => exact (leaves_missed deployment error).weaken (by omega) (by omega)
  | panic text => exact (leaves_tearDown deployment text).weaken (by omega) (by omega)
  | nothing =>
      exact (leaves_setWorker deployment _ (Nat.le_refl 7)).weaken (by omega) (by omega)

theorem leaves_retire (deployment : Deployment) (worker : Worker)
    (gone : worker.isGone = true) :
    Leaves deployment.jobs.length 0 deployment (deployment.retire worker) := by
  refine ((leaves_setWorker deployment worker ?_).before_frame (frame_wakeAll _ _)).weaken
    (by have := deployment.length_callersWith_le Call.awaitsWorker; omega) (Nat.le_refl 0)
  cases worker <;> first | exact Nat.le_refl 0 | cases gone

theorem frame_closeAccounts (deployment : Deployment) (count : Nat) :
    Frame 0 deployment (deployment.closeAccounts count) :=
  (frame_count _ _ _).trans (frame_requestStats _ _)

theorem leaves_retire_after {deployment entered : Deployment} {woken : Nat}
    (frame : Frame woken deployment entered) (worker : Worker) (gone : worker.isGone = true)
    (few : woken ≤ deployment.jobs.length) :
    Leaves (2 * deployment.jobs.length) 0 deployment (entered.retire worker) := by
  refine ((leaves_retire entered worker gone).after_frame frame).weaken ?_ (Nat.le_refl 0)
  rw [frame.jobs]
  omega

theorem leaves_completeDrain (deployment : Deployment) (count : Nat) :
    Leaves (2 * deployment.jobs.length) 0 deployment (deployment.completeDrain count) := by
  have told := frame_note deployment (.contact .givesNothing)
  have closed := (told.trans (frame_closeAccounts _ count)).trans (frame_log _ (.drained count))
  have entered := closed.trans (frame_enter _ .terminated)
  have few : 0 + 0 + 0 + (((deployment.note (.contact .givesNothing)).closeAccounts count).log
      (.drained count)).jobs.length ≤ deployment.jobs.length := by
    rw [closed.jobs]
    omega
  unfold completeDrain
  dsimp only
  split
  · next terminated moved =>
    rw [moved] at entered
    exact leaves_retire_after entered (.done count) rfl few
  · next error same refused =>
    rw [refused] at entered
    exact leaves_retire_after entered (.failed error) rfl few

theorem leaves_abandonDrain (deployment : Deployment) (count : Nat) (error : FailureError) :
    Leaves (2 * deployment.jobs.length) 0 deployment
      (deployment.abandonDrain count error) := by
  have told := frame_note deployment (.contact (.fails error))
  have closed := (told.trans (frame_closeAccounts _ count)).trans
    (frame_log _ (.drainFailed error count))
  refine leaves_retire_after (closed.trans (frame_enter _ .failed)) (.failed error) rfl ?_
  rw [closed.jobs]
  omega

theorem leaves_answerDrain (deployment : Deployment) (count : Nat) (answer : QueueAnswer) :
    Leaves (2 * deployment.jobs.length) (deployment.service.handlers.length + 10) deployment
      (deployment.answerDrain count answer) := by
  cases answer with
  | batch batch =>
      exact (leaves_takeInHand deployment (.drain count) batch).weaken (by omega) (by omega)
  | error error =>
      exact (leaves_abandonDrain deployment count error).weaken (by omega) (by omega)
  | panic text => exact (leaves_tearDown deployment text).weaken (by omega) (by omega)
  | nothing => exact (leaves_completeDrain deployment count).weaken (by omega) (by omega)

theorem leaves_startUp (deployment : Deployment) :
    Leaves deployment.jobs.length 8 deployment deployment.startUp := by
  have announced := frame_log deployment
    (.startingUp deployment.service.handlers.length deployment.service.fallback.name)
  have entered := announced.trans (frame_enter _ .running)
  unfold startUp
  dsimp only
  split
  · next running moved =>
    rw [moved] at entered
    exact ((leaves_setWorker _ _ (workerTurns_looping_le _ _)).after_frame
      (entered.trans (frame_log running .upAndRunning))).weaken
        (by rw [announced.jobs]; omega) (Nat.le_refl 8)
  · next error same refused =>
    rw [refused] at entered
    exact ((leaves_setWorker same (.draining 0) (Nat.le_refl 2)).after_frame entered).weaken
      (by rw [announced.jobs]; omega) (by omega)

/-! ## A turn of the worker -/

/-- A turn of the worker: the calls stand as before, and the load has become
less by `gain` at least. -/
structure Eases (woken gain : Nat) (before after : Deployment) : Prop where
  jobs : after.jobs = before.jobs
  handlers : after.service.handlers.length = before.service.handlers.length
  load : after.load + gain ≤ before.load
  ready : after.ready.length ≤ before.ready.length + woken

/-- What the worker leaves is easier when its turns, together with what is
still in the queue, are less than before. -/
theorem Leaves.eases {woken turns gain : Nat} {before after : Deployment} (source : Source)
    (leaves : Leaves woken turns { before with source } after)
    (le : turns + (before.service.handlers.length + 20) * stock source + gain ≤ before.load) :
    Eases woken gain before after where
  jobs := leaves.jobs
  handlers := leaves.handlers
  load := by
    have fewer := leaves.turns
    unfold load
    rw [leaves.handlers] at fewer
    rw [leaves.source, leaves.handlers]
    dsimp only [load] at le fewer ⊢
    omega
  ready := leaves.ready

/-- A frame keeps the load. -/
theorem Frame.eases {woken : Nat} {before after : Deployment} (frame : Frame woken before after) :
    Eases woken 0 before after where
  jobs := frame.jobs
  handlers := frame.handlers
  load := by
    unfold load
    rw [frame.source, frame.handlers, frame.stop, frame.worker]
    exact Nat.le_refl _
  ready := frame.ready

/-- What a turn of the worker comes to, by whether the worker keeps the turn. -/
def Advances (before after : Deployment) : Progress → Prop
  | .goesOn => Eases (2 * before.jobs.length + 9) 1 before after
  | .rests => Eases 0 0 before after

theorem Eases.weaken {m n gain : Nat} {a b : Deployment} (eases : Eases m gain a b)
    (le : m ≤ n) : Eases n gain a b :=
  { eases with ready := Nat.le_trans eases.ready (Nat.add_le_add_left le _) }

/-- Exchanging the queue for one with a given stock wakes those listed. -/
theorem frame_adopt (deployment : Deployment) (woken : List Actor)
    (queue : SubmissionQueue Actor Batch) :
    Frame woken.length { deployment with source := .buffered queue }
      (deployment.adopt woken queue) :=
  frame_wakeAll _ woken

theorem leaves_keepDispatching (deployment : Deployment) (phase : Phase)
    (dispatch : Dispatch) (current : Option Invocation) :
    Leaves 0 (dispatch.pending.length + (if current.isSome then 1 else 0) + 9) deployment
      (deployment.keepDispatching phase dispatch current).2 :=
  leaves_setWorker _ _ (Nat.le_refl _)

theorem advances_keepDispatching {before deployment : Deployment} {phase : Phase}
    {dispatch : Dispatch} {current : Option Invocation}
    (frame : Frame 0 before deployment)
    (turns : workerTurns before.service.handlers.length before.service.stopRequested
      before.service.worker = dispatch.pending.length + 10) :
    Advances before (deployment.keepDispatching phase dispatch current).2
      (deployment.keepDispatching phase dispatch current).1 := by
  have leaves := (leaves_keepDispatching deployment phase dispatch current).after_frame frame
  cases current with
  | none =>
      refine (leaves.eases before.source ?_).weaken (by omega)
      unfold load
      rw [turns]
      simp only [Option.isSome_none, Bool.false_eq_true, ↓reduceIte]
      omega
  | some invocation =>
      refine (leaves.eases before.source ?_).weaken (Nat.le_refl 0)
      unfold load
      rw [turns]
      simp only [Option.isSome_some, ↓reduceIte]
      omega

theorem advances_advanceDispatch (deployment : Deployment) (phase : Phase) (dispatch : Dispatch)
    (worker : deployment.service.worker = .dispatching phase dispatch) :
    Advances deployment (deployment.advanceDispatch phase dispatch).2
      (deployment.advanceDispatch phase dispatch).1 := by
  unfold advanceDispatch
  split
  · next invocation current =>
    have paused := frame_pauseOver deployment invocation.pause
    split
    · next waiting passed =>
      rw [passed] at paused
      exact paused.eases
    · next resumed passed =>
      rw [passed] at paused
      refine advances_keepDispatching (paused.trans (frame_continueCall _ _ _)) ?_
      simp [worker, workerTurns, current]
  · next current =>
    split
    · next ref rest pending =>
      refine advances_keepDispatching (frame_callHandler _ _ _) ?_
      simp [worker, workerTurns, current, pending]
    · next pending =>
      refine (((leaves_setWorker _ _ (workerTurns_resume_le _ _ phase)).after_frame
        (frame_note deployment (.dispatchEnded dispatch.batch))).eases
          deployment.source ?_).weaken (by omega)
      unfold load
      simp only [worker, workerTurns, current, pending, List.length_nil, Option.isSome_none,
        Bool.false_eq_true, ↓reduceIte]
      omega

theorem advances_beginFetch (deployment : Deployment)
    (worker : deployment.service.worker = .looping)
    (stop : deployment.service.stopRequested = false) :
    Advances deployment deployment.beginFetch.2 deployment.beginFetch.1 := by
  have load : deployment.load
      = 8 + (deployment.service.handlers.length + 20) * stock deployment.source := by
    simp [Deployment.load, worker, workerTurns, stop]
  have calling (source : Source) := frame_note { deployment with source } (.contact .waits)
  have asked (source : Source) := (calling source).trans (frame_note _ .fetched)
  unfold beginFetch
  dsimp only
  split
  · refine (((leaves_setWorker _ _ (Nat.le_refl 7)).after_frame (calling _)).eases
      deployment.source ?_).weaken (by omega)
    omega
  · next queue scripted =>
    split
    · refine (((leaves_setWorker _ _ (Nat.le_refl 7)).after_frame (asked _)).eases
        deployment.source ?_).weaken (by omega)
      omega
    · next reply rest waits =>
      have shorter : (deployment.service.handlers.length + 20) * stock deployment.source
          = (deployment.service.handlers.length + 20)
              * stock (.scripted { queue with waits := rest })
            + (deployment.service.handlers.length + 20) := by
        rw [scripted, ← Nat.mul_succ]
        simp only [stock, waits, List.length_cons]
        congr 1
        omega
      split
      · have leaves := (leaves_answerMain _ reply.answer).after_frame
          (asked (.scripted { queue with waits := rest }))
        refine (leaves.eases (.scripted { queue with waits := rest }) ?_).weaken ?_
        · dsimp only [note]
          omega
        · dsimp only [note]
          omega
      · have leaves := (leaves_setWorker _
          (.fetching (.delayed (deployment.now + reply.delay) reply.answer))
          (Nat.le_refl _)).after_frame (asked (.scripted { queue with waits := rest }))
        refine (leaves.eases (.scripted { queue with waits := rest }) ?_).weaken (Nat.le_refl 0)
        dsimp only [note, workerTurns]
        omega

/-- A batch that leaves the queue pays for its dispatch. -/
theorem stock_of_item (handlers : Nat) {queue after : SubmissionQueue Actor Batch} {batch : Batch}
    (front : queue.buffer = batch :: after.buffer) :
    (handlers + 20) * stock (.buffered queue)
      = (handlers + 20) * stock (.buffered after) + (handlers + 20) := by
  rw [← Nat.mul_succ]
  simp [stock, front]

theorem stock_of_buffer {queue after : SubmissionQueue Actor Batch}
    (same : after.buffer = queue.buffer) :
    stock (.buffered after) = stock (.buffered queue) := by
  simp [stock, same]

theorem advances_advanceFetch (deployment : Deployment) (fetch : Fetch)
    (worker : deployment.service.worker = .fetching fetch) :
    Advances deployment (deployment.advanceFetch fetch).2 (deployment.advanceFetch fetch).1 := by
  have load : deployment.load = workerTurns deployment.service.handlers.length
      deployment.service.stopRequested (.fetching fetch)
        + (deployment.service.handlers.length + 20) * stock deployment.source := by
    rw [Deployment.load, worker]
  unfold advanceFetch
  split
  · next place =>
    dsimp only [workerTurns] at load
    split
    · exact (Frame.refl deployment).eases
    · next queue buffered =>
      rw [buffered] at load
      split
      · next stop =>
        have same := stock_of_buffer (queue.buffer_depart .worker place)
        have few := queue.length_depart_le .worker place
        have adopted := frame_adopt deployment (queue.depart .worker place).1
          (queue.depart .worker place).2
        refine (((leaves_missed_cancelled (adopted.stop.trans stop)).after_frame
          adopted).eases _ ?_).weaken (by omega)
        rw [same]
        omega
      · have fits := queue.seek_fits .worker place
        split
        · next batch woken after found =>
          rw [found] at fits
          dsimp only at fits
          have paid := stock_of_item deployment.service.handlers.length fits.1
          have few := fits.2
          have adopted := frame_adopt deployment woken after
          refine (((leaves_takeInHand _ .main batch).after_frame adopted).eases _ ?_).weaken
            (by omega)
          rw [adopted.handlers]
          dsimp only
          omega
        · next woken after found =>
          rw [found] at fits
          dsimp only at fits
          have same := stock_of_buffer fits.1
          have few := fits.2
          refine (((leaves_missed_queueClosed _).after_frame
            (frame_adopt deployment woken after)).eases _ ?_).weaken (by omega)
          rw [same]
          omega
        · next place woken after found =>
          rw [found] at fits
          dsimp only at fits
          have same := stock_of_buffer fits.1
          have none := fits.2
          subst none
          refine (((leaves_setWorker _ (.fetching (.queued place)) (Nat.le_refl 7)).after_frame
            (frame_adopt deployment [] after)).eases _ ?_).weaken (Nat.le_refl 0)
          rw [same]
          omega
  · next time answer =>
    dsimp only [workerTurns] at load
    split
    · refine ((leaves_answerMain deployment answer).eases deployment.source ?_).weaken (by omega)
      omega
    · exact (Frame.refl deployment).eases
  · dsimp only [workerTurns] at load
    split
    · next stop =>
      refine ((leaves_missed_cancelled stop).eases deployment.source ?_).weaken (by omega)
      omega
    · exact (Frame.refl deployment).eases

theorem advances_beginDrainFetch (deployment : Deployment) (count : Nat)
    (worker : deployment.service.worker = .draining count) :
    Advances deployment (deployment.beginDrainFetch count).2
      (deployment.beginDrainFetch count).1 := by
  have load : deployment.load
      = 2 + (deployment.service.handlers.length + 20) * stock deployment.source := by
    rw [Deployment.load, worker, workerTurns]
  have calling (source : Source) := frame_note { deployment with source }
    (.contact (.waitsWithin deployment.service.drainWait))
  have asked (source : Source) := (calling source).trans
    (frame_note _ (.fetchedWithin deployment.service.drainWait))
  unfold beginDrainFetch
  dsimp only
  split
  · refine (((leaves_setWorker _ _ (Nat.le_refl 1)).after_frame (calling _)).eases
      deployment.source ?_).weaken (by omega)
    omega
  · next queue scripted =>
    split
    · refine (((leaves_completeDrain _ count).after_frame (asked _)).eases
        deployment.source ?_).weaken ?_
      · omega
      · rw [(asked _).jobs]
        dsimp only
        omega
    · next reply rest drains =>
      have shorter : (deployment.service.handlers.length + 20) * stock deployment.source
          = (deployment.service.handlers.length + 20)
              * stock (.scripted { queue with drains := rest })
            + (deployment.service.handlers.length + 20) := by
        rw [scripted, ← Nat.mul_succ]
        simp only [stock, drains, List.length_cons]
        congr 1
      have popped := asked (.scripted { queue with drains := rest })
      split
      · refine (((leaves_answerDrain _ count reply.answer).after_frame popped).eases
          (.scripted { queue with drains := rest }) ?_).weaken ?_
        · dsimp only [note]
          omega
        · dsimp only [note]
          omega
      · refine (((leaves_setWorker _ _ (Nat.le_refl _)).after_frame popped).eases
          (.scripted { queue with drains := rest }) ?_).weaken (Nat.le_refl 0)
        dsimp only [note, workerTurns]
        omega

theorem advances_advanceDrainFetch (deployment : Deployment) (count deadline : Nat)
    (fetch : Fetch) (worker : deployment.service.worker = .drainFetching count deadline fetch) :
    Advances deployment (deployment.advanceDrainFetch count deadline fetch).2
      (deployment.advanceDrainFetch count deadline fetch).1 := by
  have load : deployment.load = workerTurns deployment.service.handlers.length
      deployment.service.stopRequested (.drainFetching count deadline fetch)
        + (deployment.service.handlers.length + 20) * stock deployment.source := by
    rw [Deployment.load, worker]
  unfold advanceDrainFetch
  split
  · next place =>
    dsimp only [workerTurns] at load
    split
    · exact (Frame.refl deployment).eases
    · next queue buffered =>
      rw [buffered] at load
      have fits := queue.seek_fits .worker place
      split
      · next batch woken after found =>
        rw [found] at fits
        dsimp only at fits
        have paid := stock_of_item deployment.service.handlers.length fits.1
        have few := fits.2
        have adopted := frame_adopt deployment woken after
        refine (((leaves_takeInHand _ (.drain count) batch).after_frame adopted).eases
          _ ?_).weaken (by omega)
        rw [adopted.handlers]
        dsimp only
        omega
      · next woken after found =>
        rw [found] at fits
        dsimp only at fits
        have same := stock_of_buffer fits.1
        have few := fits.2
        have adopted := frame_adopt deployment woken after
        refine (((leaves_completeDrain _ count).after_frame adopted).eases _ ?_).weaken ?_
        · rw [same]
          omega
        · rw [adopted.jobs]
          dsimp only
          omega
      · next place woken after found =>
        rw [found] at fits
        dsimp only at fits
        have same := stock_of_buffer fits.1
        have none := fits.2
        subst none
        dsimp only
        split
        · have left := stock_of_buffer (after.buffer_depart .worker place)
          have few := after.length_depart_le .worker place
          have adopted : Frame (after.depart .worker place).1.length
              { deployment with source := .buffered (after.depart .worker place).2 } _ :=
            frame_adopt (deployment.adopt [] after) (after.depart .worker place).1
              (after.depart .worker place).2
          refine (((leaves_completeDrain _ count).after_frame adopted).eases _ ?_).weaken ?_
          · rw [left, same]
            omega
          · rw [adopted.jobs]
            dsimp only
            omega
        · refine (((leaves_setWorker _ (.drainFetching count deadline (.queued place))
            (Nat.le_refl 1)).after_frame (frame_adopt deployment [] after)).eases _ ?_).weaken
              (Nat.le_refl 0)
          rw [same]
          omega
  · next time answer =>
    dsimp only [workerTurns] at load
    split
    · refine ((leaves_answerDrain deployment count answer).eases deployment.source ?_).weaken
        (by omega)
      omega
    · exact (Frame.refl deployment).eases
  · exact (Frame.refl deployment).eases

theorem advances_advanceWorker (deployment : Deployment) :
    Advances deployment deployment.advanceWorker.2 deployment.advanceWorker.1 := by
  unfold advanceWorker
  split
  · exact (Frame.refl deployment).eases
  · exact (Frame.refl deployment).eases
  · exact (Frame.refl deployment).eases
  · exact (Frame.refl deployment).eases
  · next worker =>
    refine ((leaves_startUp deployment).eases deployment.source ?_).weaken (by omega)
    simp only [load, worker, workerTurns]
    omega
  · next worker =>
    split
    · next running => exact advances_beginFetch deployment worker running.2
    · refine (((leaves_setWorker _ (.draining 0) (Nat.le_refl 2)).after_frame
        (frame_log deployment .loopLeft)).eases deployment.source ?_).weaken (by omega)
      simp only [load, worker, workerTurns]
      split <;> omega
  · next fetch worker => exact advances_advanceFetch deployment fetch worker
  · next worker =>
    split
    · next stop =>
      refine ((leaves_setWorker deployment .looping (Nat.le_refl _)).eases
        deployment.source ?_).weaken (by omega)
      simp only [load, worker, workerTurns, stop, ↓reduceIte]
      omega
    · exact (Frame.refl deployment).eases
  · next phase dispatch worker => exact advances_advanceDispatch deployment phase dispatch worker
  · next count worker => exact advances_beginDrainFetch deployment count worker
  · next count deadline fetch worker =>
    exact advances_advanceDrainFetch deployment count deadline fetch worker

end Deployment
end FailureDispatch

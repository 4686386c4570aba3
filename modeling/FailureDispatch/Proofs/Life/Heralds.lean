import FailureDispatch.Proofs.Course.Evolution

/-!
# What becomes known of a change of the state

Three things follow the state of a service about.  Whoever waits for a state is woken
when another one is entered; whoever has subscribed is left to find out for himself;
and the first request to stop leaves its marks in the journal.  The deeds of a service
do not mention any of this, so it is said here of the parts of a turn one by one.

Most of them are `Quiet`: they change nothing that an observer could see.  A worker's
turn as a whole `Heralds` a change of the state.  The marks of a stop are left by a
request to stop alone, and a subscription is touched by nobody but the subscriber.
-/

namespace FailureDispatch

/-- Whether the entry is left by a request to stop and by nothing else. -/
def Occurrence.isStopMark : Occurrence → Bool
  | .entered .stopping | .logged .stopRequested => true
  | .contact (.reports tag) => tag == Deployment.stopTag
  | _ => false

theorem Occurrence.isStopMark_of_isOfDispatch {entry : Occurrence}
    (inside : entry.isOfDispatch = true) : entry.isStopMark = false := by
  cases entry with
  | logged notice => cases notice <;> first | rfl | cases inside
  | contact _ | entered _ => cases inside
  | _ => rfl

namespace Journal

/-- The marks of requests to stop. -/
def stopMarks (journal : Journal) : Journal := journal.filter Occurrence.isStopMark

/-- The marks of the first request: the state, the line in the log, and the statistics
that the queue is told to write. -/
def firstStop : Journal :=
  [.entered .stopping, .logged .stopRequested, .contact (.reports Deployment.stopTag)]

theorem stopMarks_append (journal trace : Journal) :
    stopMarks (journal ++ trace) = journal.stopMarks ++ trace.stopMarks :=
  List.filter_append ..

theorem stopMarks_append_of_nil {journal trace : Journal} (unmarked : trace.stopMarks = []) :
    stopMarks (journal ++ trace) = journal.stopMarks := by
  rw [stopMarks_append, unmarked, List.append_nil]

theorem OfDispatch.stopMarks_eq {trace : Journal} (ofDispatch : trace.OfDispatch) :
    trace.stopMarks = [] := by
  apply List.filter_eq_nil_iff.mpr
  intro entry member
  rw [Occurrence.isStopMark_of_isOfDispatch (ofDispatch entry member)]
  exact Bool.false_ne_true

end Journal

namespace Deployment

/-- Those who wait for a state. -/
def observers (deployment : Deployment) : List Actor := deployment.callersWith Call.observesState

/-- What can become known of the state: the state itself, which version of it every
subscriber has seen, and the marks of the requests to stop. -/
structure Prospect where
  state : ServiceState
  watches : List (String × Nat)
  told : Bool
  marks : Journal

/-- What can be known of the state of the service. -/
def prospect (deployment : Deployment) : Prospect where
  state := deployment.service.state
  watches := deployment.watches
  told := deployment.service.stopRequested
  marks := deployment.journal.stopMarks

/-- Nothing has become known about the state, because nothing has become of it. -/
def Quiet (before after : Deployment) : Prop := after.prospect = before.prospect

/-- If the state has changed, whoever waits for a state stands in line. -/
structure Heralds (before after : Deployment) : Prop where
  state : after.service.state = before.service.state ∨ before.observers ⊆ after.ready
  watches : after.watches = before.watches
  told : after.service.stopRequested = before.service.stopRequested
  marks : after.journal.stopMarks = before.journal.stopMarks

section Relations

variable {first next last : Deployment}

theorem Quiet.refl (deployment : Deployment) : Quiet deployment deployment := rfl

theorem Quiet.trans (earlier : Quiet first next) (later : Quiet next last) : Quiet first last :=
  Eq.trans later earlier

theorem Quiet.state (quiet : Quiet first next) : next.service.state = first.service.state :=
  congrArg Prospect.state quiet

theorem Quiet.watches (quiet : Quiet first next) : next.watches = first.watches :=
  congrArg Prospect.watches quiet

theorem Quiet.told (quiet : Quiet first next) :
    next.service.stopRequested = first.service.stopRequested :=
  congrArg Prospect.told quiet

theorem Quiet.marks (quiet : Quiet first next) :
    next.journal.stopMarks = first.journal.stopMarks :=
  congrArg Prospect.marks quiet

theorem Quiet.of_eq (state : next.service.state = first.service.state)
    (watches : next.watches = first.watches)
    (told : next.service.stopRequested = first.service.stopRequested)
    (marks : next.journal.stopMarks = first.journal.stopMarks) : Quiet first next := by
  unfold Quiet prospect
  rw [state, watches, told, marks]

theorem Quiet.heralds (quiet : Quiet first last) : Heralds first last :=
  ⟨Or.inl quiet.state, quiet.watches, quiet.told, quiet.marks⟩

/-- Something quiet has been done before. -/
theorem Heralds.after (heralds : Heralds next last) (quiet : Quiet first next)
    (jobs : next.jobs = first.jobs) : Heralds first last where
  state := by
    have same : next.observers = first.observers := by
      simp only [observers, callersWith, jobs]
    rcases heralds.state with state | woken
    · exact Or.inl (state.trans quiet.state)
    · exact Or.inr (same ▸ woken)
  watches := heralds.watches.trans quiet.watches
  told := heralds.told.trans quiet.told
  marks := heralds.marks.trans quiet.marks

/-- Something quiet is done afterwards, and nobody leaves the line. -/
theorem Heralds.andThen (heralds : Heralds first next) (quiet : Quiet next last)
    (grows : next.ready ⊆ last.ready) : Heralds first last where
  state := by
    rcases heralds.state with state | woken
    · exact Or.inl (quiet.state.trans state)
    · exact Or.inr (List.Subset.trans woken grows)
  watches := quiet.watches.trans heralds.watches
  told := quiet.told.trans heralds.told
  marks := quiet.marks.trans heralds.marks

end Relations

section Parts

variable (deployment : Deployment)

/-! ## Records and wake-ups -/

theorem quiet_noteAll {trace : Journal} (unmarked : trace.stopMarks = []) :
    Quiet deployment (deployment.noteAll trace) :=
  Quiet.of_eq rfl rfl rfl (Journal.stopMarks_append_of_nil unmarked)

theorem quiet_note {entry : Occurrence} (unmarked : Journal.stopMarks [entry] = []) :
    Quiet deployment (deployment.note entry) :=
  quiet_noteAll deployment unmarked

theorem quiet_wakeAll (actors : List Actor) : Quiet deployment (deployment.wakeAll actors) := by
  rw [wakeAll_eq]
  exact .refl deployment

theorem subset_wakeAll (actors : List Actor) :
    deployment.ready ⊆ (deployment.wakeAll actors).ready := by
  rw [wakeAll_eq]
  exact fun _ stands => mem_lineUpAll.mpr (Or.inl stands)

theorem quiet_setWorker (worker : Worker) : Quiet deployment (deployment.setWorker worker) :=
  .refl deployment

theorem quiet_adopt (woken : List Actor) (queue : SubmissionQueue Actor Batch) :
    Quiet deployment (deployment.adopt woken queue) := by
  rw [adopt_eq]
  exact .refl deployment

theorem jobs_adopt (woken : List Actor) (queue : SubmissionQueue Actor Batch) :
    (deployment.adopt woken queue).jobs = deployment.jobs := by
  rw [adopt_eq]

theorem unmarked_figures (tag : String) : (deployment.figures tag).isStopMark = false := by
  unfold figures
  cases deployment.source <;> rfl

theorem quiet_logStats (tag : String) : Quiet deployment (deployment.logStats tag) := by
  rw [logStats_eq]
  apply quiet_note
  simp [Journal.stopMarks, unmarked_figures]

theorem quiet_closing (ending : Contact) (last : ending ≠ .reports stopTag) (count : Nat)
    {notice : Notice} (other : notice ≠ .stopRequested) :
    Quiet deployment
      (((deployment.note (.contact ending)).closeAccounts count).log notice) := by
  rw [closing_eq]
  refine Quiet.of_eq rfl rfl rfl (Journal.stopMarks_append_of_nil ?_)
  have contact : (Occurrence.contact ending).isStopMark = false := by
    cases ending with
    | reports tag =>
        have different : tag ≠ stopTag := fun same => last (congrArg Contact.reports same)
        exact beq_false_of_ne different
    | _ => rfl
  have logged : (Occurrence.logged notice).isStopMark = false := by
    cases notice <;> first | rfl | exact absurd rfl other
  have counted : (Occurrence.counted .drained count).isStopMark = false := rfl
  have reported : (Occurrence.contact (.reports drainTag)).isStopMark = false := by decide
  simp [Journal.stopMarks, drainTrace, contact, logged, counted, reported, unmarked_figures]

/-! ## The worker -/

theorem quiet_takeInHand (phase : Phase) (batch : Batch) :
    Quiet deployment (deployment.takeInHand phase batch) := by
  have taken : Quiet deployment
      (deployment.noteAll [.contact (.gives batch), .taken batch]) := quiet_noteAll _ rfl
  rcases beginDispatch_opens (deployment.noteAll [.contact (.gives batch), .taken batch]) phase
    batch with ⟨stretch, worker, same, _, ofDispatch, _⟩
  unfold takeInHand
  rw [same]
  exact taken.trans
    (Quiet.of_eq rfl rfl rfl (Journal.stopMarks_append_of_nil ofDispatch.stopMarks_eq))

theorem quiet_missed (error : FailureError) : Quiet deployment (deployment.missed error) := by
  refine Quiet.of_eq ?_ ?_ ?_ ?_ <;> unfold missed
  · split <;> rfl
  · split <;> rfl
  · split <;> rfl
  · split <;> simp [log, note, setWorker, Journal.stopMarks, Occurrence.isStopMark]

theorem quiet_tearDown (text : String) : Quiet deployment (deployment.tearDown text) :=
  quiet_wakeAll (deployment.setWorker _) _

theorem quiet_retire (worker : Worker) : Quiet deployment (deployment.retire worker) :=
  quiet_wakeAll (deployment.setWorker _) _

theorem subset_retire (worker : Worker) :
    deployment.ready ⊆ (deployment.retire worker).ready :=
  subset_wakeAll (deployment.setWorker worker) _

theorem quiet_answerMain (answer : QueueAnswer) :
    Quiet deployment (deployment.answerMain answer) := by
  cases answer with
  | batch batch => exact quiet_takeInHand deployment .main batch
  | error error => exact quiet_missed deployment error
  | panic text => exact quiet_tearDown deployment text
  | nothing => exact quiet_setWorker deployment _

theorem quiet_beginFetch : Quiet deployment deployment.beginFetch.2 := by
  have calling : Quiet deployment (deployment.note (.contact .waits)) := quiet_note _ rfl
  unfold beginFetch
  dsimp only
  split
  · exact calling
  · have asked := calling.trans (quiet_note _ (show Journal.stopMarks [.fetched] = [] from rfl))
    split
    · exact asked
    · split
      · exact asked.trans (quiet_answerMain _ _)
      · exact asked

theorem quiet_advanceFetch (fetch : Fetch) :
    Quiet deployment (deployment.advanceFetch fetch).2 := by
  unfold advanceFetch
  cases fetch with
  | queued place =>
      dsimp only
      split
      · exact .refl deployment
      · have adopts (woken : List Actor) (queue : SubmissionQueue Actor Batch) :=
          quiet_adopt deployment woken queue
        split
        · exact (adopts _ _).trans (quiet_missed _ _)
        · split
          · exact (adopts _ _).trans (quiet_takeInHand _ _ _)
          · exact (adopts _ _).trans (quiet_missed _ _)
          · exact adopts _ _
  | delayed time answer =>
      dsimp only
      split
      · exact quiet_answerMain deployment answer
      · exact .refl deployment
  | forStop =>
      dsimp only
      split
      · exact quiet_missed deployment _
      · exact .refl deployment

theorem quiet_advanceDispatch {phase : Phase} {dispatch : Dispatch}
    (here : deployment.service.worker = .dispatching phase dispatch) :
    Quiet deployment (deployment.advanceDispatch phase dispatch).2 := by
  by_cases finished : dispatch.current = none ∧ dispatch.pending = []
  · rcases finished with ⟨called, all⟩
    simp only [advanceDispatch, called, all]
    exact quiet_note _ rfl
  · rcases advanceDispatch_continues here (by
      intro called all
      exact finished ⟨called, all⟩) with ⟨stretch, gates, later, reached, _, inner, _⟩
    rw [reached]
    exact Quiet.of_eq rfl rfl rfl
      (Journal.stopMarks_append_of_nil inner.ofDispatch.stopMarks_eq)

/-! ## Entering a state -/

/-- Entering a state other than `stopping`. -/
theorem heralds_enter {next : ServiceState} (other : next ≠ .stopping) :
    Heralds deployment (deployment.enter next).2 := by
  cases can : deployment.service.state.canBecome next with
  | true =>
      rw [enter_of_canBecome can]
      refine ⟨Or.inr fun _ observes => mem_lineUpAll.mpr (Or.inr observes), rfl, rfl,
        Journal.stopMarks_append_of_nil ?_⟩
      cases next <;> first | rfl | exact absurd rfl other
  | false =>
      rw [enter_of_cannot can]
      exact (Quiet.refl deployment).heralds

theorem heralds_startUp : Heralds deployment deployment.startUp := by
  have announced : Quiet deployment (deployment.log
      (.startingUp deployment.service.handlers.length deployment.service.fallback.name)) :=
    quiet_note _ rfl
  have entered := (heralds_enter (deployment.log
    (.startingUp deployment.service.handlers.length deployment.service.fallback.name))
    (show ServiceState.running ≠ .stopping by decide)).after announced rfl
  unfold startUp
  dsimp only
  split <;> next same =>
    rw [same] at entered
    refine entered.andThen ?_ (List.Subset.refl _)
    first
    | exact quiet_note _ rfl
    | exact quiet_setWorker _ _

theorem heralds_completeDrain (count : Nat) :
    Heralds deployment (deployment.completeDrain count) := by
  have closing := quiet_closing deployment .givesNothing (by decide) count
    (show Notice.drained count ≠ .stopRequested by simp)
  have jobs : (((deployment.note (.contact .givesNothing)).closeAccounts count).log
      (.drained count)).jobs = deployment.jobs := by
    rw [closing_eq]
  have entered := (heralds_enter _ (show ServiceState.terminated ≠ .stopping by decide)).after
    closing jobs
  unfold completeDrain
  dsimp only
  split <;> next same =>
    rw [same] at entered
    exact entered.andThen (quiet_retire _ _) (subset_retire _ _)

theorem heralds_abandonDrain (count : Nat) (error : FailureError) :
    Heralds deployment (deployment.abandonDrain count error) := by
  have closing := quiet_closing deployment (.fails error) (by simp) count
    (show Notice.drainFailed error count ≠ .stopRequested by simp)
  have jobs : (((deployment.note (.contact (.fails error))).closeAccounts count).log
      (.drainFailed error count)).jobs = deployment.jobs := by
    rw [closing_eq]
  have entered := (heralds_enter _ (show ServiceState.failed ≠ .stopping by decide)).after
    closing jobs
  exact entered.andThen (quiet_retire _ _) (subset_retire _ _)

theorem heralds_answerDrain (count : Nat) (answer : QueueAnswer) :
    Heralds deployment (deployment.answerDrain count answer) := by
  cases answer with
  | batch batch => exact (quiet_takeInHand deployment _ batch).heralds
  | error error => exact heralds_abandonDrain deployment count error
  | panic text => exact (quiet_tearDown deployment text).heralds
  | nothing => exact heralds_completeDrain deployment count

theorem heralds_beginDrainFetch (count : Nat) :
    Heralds deployment (deployment.beginDrainFetch count).2 := by
  have calling : Quiet deployment
      (deployment.note (.contact (.waitsWithin deployment.service.drainWait))) := quiet_note _ rfl
  unfold beginDrainFetch
  dsimp only
  split
  · apply Quiet.heralds
    exact calling
  · have asked := calling.trans (quiet_note _
      (show Journal.stopMarks [.fetchedWithin deployment.service.drainWait] = [] from rfl))
    split
    · exact (heralds_completeDrain _ count).after asked rfl
    · split
      · exact (heralds_answerDrain _ count _).after asked rfl
      · apply Quiet.heralds
        exact asked

theorem heralds_advanceDrainFetch (count deadline : Nat) (fetch : Fetch) :
    Heralds deployment (deployment.advanceDrainFetch count deadline fetch).2 := by
  unfold advanceDrainFetch
  cases fetch with
  | queued place =>
      dsimp only
      split
      · exact (Quiet.refl deployment).heralds
      · have adopts (woken : List Actor) (queue : SubmissionQueue Actor Batch) :=
          quiet_adopt deployment woken queue
        have jobs (woken : List Actor) (queue : SubmissionQueue Actor Batch) :=
          jobs_adopt deployment woken queue
        split
        · exact ((adopts _ _).trans (quiet_takeInHand _ _ _)).heralds
        · exact (heralds_completeDrain _ count).after (adopts _ _) (jobs _ _)
        · split
          · exact (heralds_completeDrain _ count).after
              ((adopts _ _).trans (quiet_adopt _ _ _)) ((jobs_adopt _ _ _).trans (jobs _ _))
          · apply Quiet.heralds
            exact adopts _ _
  | delayed time answer =>
      dsimp only
      split
      · exact heralds_answerDrain deployment count answer
      · exact (Quiet.refl deployment).heralds
  | forStop => exact (Quiet.refl deployment).heralds

/-- A turn of the worker heralds a change of the state. -/
theorem heralds_advanceWorker : Heralds deployment deployment.advanceWorker.2 := by
  have still := (Quiet.refl deployment).heralds
  unfold advanceWorker
  cases here : deployment.service.worker with
  | idle | done _ | failed _ | aborted _ => exact still
  | fresh => exact heralds_startUp deployment
  | looping =>
      dsimp only
      split
      · exact (quiet_beginFetch deployment).heralds
      · apply Quiet.heralds
        exact quiet_note deployment (show Journal.stopMarks [.logged .loopLeft] = [] from rfl)
  | fetching fetch => exact (quiet_advanceFetch deployment fetch).heralds
  | parked =>
      dsimp only
      split
      · exact (quiet_setWorker deployment _).heralds
      · exact still
  | dispatching phase dispatch => exact (quiet_advanceDispatch deployment here).heralds
  | draining count => exact heralds_beginDrainFetch deployment count
  | drainFetching count deadline fetch =>
      exact heralds_advanceDrainFetch deployment count deadline fetch

end Parts

end Deployment
end FailureDispatch

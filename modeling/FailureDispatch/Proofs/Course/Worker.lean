import FailureDispatch.Proofs.Course.Line
import FailureDispatch.Proofs.Dispatch.Opening

/-!
# What a turn of the worker can do

`WorkerTurn` lists all that the worker of a buffered queue does in one turn:
where it goes, what it does to the queue, and what it leaves in the journal.
Every statement about runs is proved along this list, and nothing else looks
into the worker's turns.

The list is complete for a worker that is on course.  A worker that seeks a
batch while the service is neither running nor stopping, or that has failed,
is not, and no run leads there.
-/

namespace FailureDispatch

/-- The state in which a service has its worker there, as long as no request
to stop overtakes it.  Only a worker with a buffered queue has one: it waits
for nothing but a place at the queue, and has no way to fail. -/
def Worker.home? : Worker → Option ServiceState
  | .idle => some .new
  | .fresh => some .starting
  | .looping | .fetching (.queued _) | .parked | .dispatching .main _ => some .running
  | .draining _ | .drainFetching _ _ (.queued _) | .dispatching (.drain _) _ => some .stopping
  | .done _ => some .terminated
  | .fetching _ | .drainFetching _ _ _ | .failed _ | .aborted _ => none

namespace Service

/-- The service is in the given state, unless it has been asked to stop. -/
def InOrStopping (service : Service) (state : ServiceState) : Prop :=
  (service.state = state ∧ service.stopRequested = false) ∨
    (service.state = .stopping ∧ service.stopRequested = true)

/-- How a service stands whose worker is at home in the given state.  A worker
that starts up or runs learns of a request to stop only afterwards. -/
def StandsAt (service : Service) : ServiceState → Prop
  | .starting => service.InOrStopping .starting
  | .running => service.InOrStopping .running
  | home => service.state = home ∧ service.stopRequested = (home != .new)

/-- The worker is where the state of its service says. -/
def OnCourse (service : Service) : Prop :=
  ∃ home, service.worker.home? = some home ∧ service.StandsAt home

theorem OnCourse.at_home {service : Service} (course : service.OnCourse) (home : ServiceState)
    (known : service.worker.home? = some home) : service.StandsAt home := by
  rcases course with ⟨other, same, stands⟩
  rw [known] at same
  cases same
  exact stands

/-- A worker on course does not end but by completing its drain. -/
theorem OnCourse.done_of_isGone {service : Service} (course : service.OnCourse)
    (gone : service.worker.isGone = true) : ∃ count, service.worker = .done count := by
  rcases course with ⟨home, known, stands⟩
  cases here : service.worker with
  | done count => exact ⟨count, rfl⟩
  | failed _ | aborted _ =>
      rw [here] at known
      cases known
  | _ =>
      rw [here] at gone
      cases gone

/-- The worker seeks a batch in this phase, from this place at the queue. -/
inductive Seeks (service : Service) : Phase → SubmissionQueue.Place → Prop where
  | main {place} (here : service.worker = .fetching (.queued place))
      (untold : service.stopRequested = false) : Seeks service .main place
  | drain {count deadline place}
      (here : service.worker = .drainFetching count deadline (.queued place)) :
      Seeks service (.drain count) place

end Service

theorem Service.Seeks.isGone_eq {service : Service} {phase : Phase}
    {place : SubmissionQueue.Place} (seeks : service.Seeks phase place) :
    service.worker.isGone = false := by
  cases seeks with
  | main here _ =>
      rw [here]
      rfl
  | drain here =>
      rw [here]
      rfl

namespace Deployment

/-- The callers who wait for the worker to end. -/
def joiners (deployment : Deployment) : List Actor := deployment.callersWith Call.awaitsWorker

/-- The deployment after a turn of its worker. -/
def worked (deployment : Deployment) (woken : List Actor)
    (queue : SubmissionQueue Actor Batch) (service : Service)
    (gates : List (String × Permits Actor)) (trace : Journal) : Deployment :=
  { deployment with
    ready := lineUpAll deployment.ready woken
    source := .buffered queue
    service
    gates
    journal := deployment.journal ++ trace }

/-- The drain looks at the queue for the last time and finds nothing: nothing
can arrive any more, or the time is up. -/
inductive Gives (queue : SubmissionQueue Actor Batch) (place : SubmissionQueue.Place)
    (late : Prop) : List Actor → SubmissionQueue Actor Batch → Prop where
  | exhausted {woken next} (looked : queue.seek .worker place = (.exhausted, woken, next)) :
      Gives queue place late woken next
  | timedOut {reached woken next} (due : late)
      (looked : queue.seek .worker place = (.waiting reached, woken, next)) :
      Gives queue place late (woken ++ (next.depart .worker reached).1)
        (next.depart .worker reached).2

/-- What the worker does in one turn, with those whom it wakes, the queue and
the service afterwards, and what it leaves in the journal. -/
inductive WorkerTurn (before : Deployment) (queue : SubmissionQueue Actor Batch) :
    Progress → List Actor → SubmissionQueue Actor Batch → Service → Journal → Prop where
  | rests
      (still : before.service.worker = .idle ∨ (∃ count, before.service.worker = .done count) ∨
        (before.service.worker = .parked ∧ before.service.stopRequested = false)) :
      WorkerTurn before queue .rests [] queue before.service []
  | startsUp (here : before.service.worker = .fresh) (early : before.service.state = .starting) :
      WorkerTurn before queue .goesOn (before.callersWith Call.observesState) queue
        { before.service with
          state := .running, version := before.service.version + 1, worker := .looping }
        [.logged (.startingUp before.service.handlers.length before.service.fallback.name),
          .entered .running, .logged .upAndRunning]
  | startsLate (here : before.service.worker = .fresh)
      (late : before.service.state = .stopping) :
      WorkerTurn before queue .goesOn [] queue { before.service with worker := .draining 0 }
        [.logged (.startingUp before.service.handlers.length before.service.fallback.name)]
  | turnsToQueue (here : before.service.worker = .looping)
      (running : before.service.state = .running)
      (untold : before.service.stopRequested = false) :
      WorkerTurn before queue .goesOn [] queue
        { before.service with worker := .fetching (.queued .line) } [.contact .waits]
  | leavesLoop (here : before.service.worker = .looping)
      (stopping : before.service.state = .stopping) :
      WorkerTurn before queue .goesOn [] queue { before.service with worker := .draining 0 }
        [.logged .loopLeft]
  | interrupted {place} (here : before.service.worker = .fetching (.queued place))
      (told : before.service.stopRequested = true) :
      WorkerTurn before queue .goesOn (queue.depart .worker place).1
        (queue.depart .worker place).2 { before.service with worker := .looping }
        [.contact (.fails .cancelled), .logged (.interrupted (queue.depart .worker place).2.size)]
  | shutOut {place woken next} (seeks : before.service.Seeks .main place)
      (looked : queue.seek .worker place = (.exhausted, woken, next)) :
      WorkerTurn before queue .goesOn woken next { before.service with worker := .parked }
        [.contact (.fails .queueClosed), .logged .queueClosed]
  | unparks (here : before.service.worker = .parked)
      (told : before.service.stopRequested = true) :
      WorkerTurn before queue .goesOn [] queue { before.service with worker := .looping } []
  | waits {place reached woken next} (seeks : before.service.Seeks .main place)
      (looked : queue.seek .worker place = (.waiting reached, woken, next)) :
      WorkerTurn before queue .rests woken next
        { before.service with worker := .fetching (.queued reached) } []
  | drainWaits {count deadline place reached woken next}
      (here : before.service.worker = .drainFetching count deadline (.queued place))
      (early : before.now < deadline)
      (looked : queue.seek .worker place = (.waiting reached, woken, next)) :
      WorkerTurn before queue .rests woken next
        { before.service with worker := .drainFetching count deadline (.queued reached) } []
  | takes {phase place batch woken next worker} {stretch : Account}
      (seeks : before.service.Seeks phase place)
      (looked : queue.seek .worker place = (.item batch, woken, next))
      (opens : Opens before.service.staff batch phase stretch worker)
      (ofDispatch : stretch.trace.OfDispatch) (begun : stretch.trace.begun = [batch]) :
      WorkerTurn before queue .goesOn woken next
        { before.service.withStaff stretch.staff with worker }
        (.contact (.gives batch) :: .taken batch :: stretch.trace)
  | dispatches {progress phase dispatch later} {stretch : Account}
      (here : before.service.worker = .dispatching phase dispatch)
      (same : later.batch = dispatch.batch) (inner : stretch.trace.Inner)
      (total : stretch.andThen (fun staff => staff.complete later) =
        before.service.staff.complete dispatch) :
      WorkerTurn before queue progress [] queue
        { before.service.withStaff stretch.staff with worker := .dispatching phase later }
        stretch.trace
  | finishes {phase dispatch} (here : before.service.worker = .dispatching phase dispatch)
      (total : before.service.staff.complete dispatch =
        ⟨[.dispatchEnded dispatch.batch], before.service.staff⟩) :
      WorkerTurn before queue .goesOn [] queue
        { before.service with worker := phase.resume } [.dispatchEnded dispatch.batch]
  | turnsToDrain {count} (here : before.service.worker = .draining count) :
      WorkerTurn before queue .goesOn [] queue
        { before.service with
          worker :=
            .drainFetching count (before.now + before.service.drainWait) (.queued .line) }
        [.contact (.waitsWithin before.service.drainWait)]
  | completes {count deadline place woken next}
      (here : before.service.worker = .drainFetching count deadline (.queued place))
      (gives : Gives queue place (deadline ≤ before.now) woken next) :
      WorkerTurn before queue .goesOn
        (woken ++ (before.callersWith Call.observesState ++ before.joiners)) next
        { before.service with
          state := .terminated
          version := before.service.version + 1
          worker := .done count }
        [.contact .givesNothing, .counted .drained count, .contact (.reports drainTag),
          .logged (.stats drainTag next.stats), .logged (.drained count), .entered .terminated]

/-- The result of a turn is on the list, and only a dispatch passes gates. -/
def IsWorkerTurn (before : Deployment) (queue : SubmissionQueue Actor Batch)
    (result : Progress × Deployment) : Prop :=
  ∃ progress woken next service gates trace,
    result = (progress, before.worked woken next service gates trace) ∧
      WorkerTurn before queue progress woken next service trace ∧
      (gates = before.gates ∨
        ∃ phase dispatch, before.service.worker = .dispatching phase dispatch)

section Turns

variable {before : Deployment} {queue : SubmissionQueue Actor Batch}

theorem takeInHand_turn {phase : Phase} {place : SubmissionQueue.Place} {batch : Batch}
    {woken : List Actor} {next : SubmissionQueue Actor Batch}
    (seeks : before.service.Seeks phase place)
    (looked : queue.seek .worker place = (.item batch, woken, next)) :
    IsWorkerTurn before queue (.goesOn, (before.adopt woken next).takeInHand phase batch) := by
  rcases beginDispatch_opens
    ((before.adopt woken next).noteAll [.contact (.gives batch), .taken batch]) phase batch with
    ⟨stretch, worker, same, opens, ofDispatch, begun⟩
  rw [adopt_eq] at opens
  refine ⟨_, _, _, _, before.gates, _, ?_, .takes seeks looked opens ofDispatch begun, Or.inl rfl⟩
  rw [takeInHand, same]
  simp only [adopt_eq, noteAll, worked, List.append_assoc, List.cons_append, List.nil_append]

theorem completeDrain_turn {drained deadline : Nat} {place : SubmissionQueue.Place}
    {woken : List Actor} {next : SubmissionQueue Actor Batch}
    (here : before.service.worker = .drainFetching drained deadline (.queued place))
    (stopping : before.service.state = .stopping)
    (gives : Gives queue place (deadline ≤ before.now) woken next)
    {left : Deployment} (adopted : left = before.adopt woken next) :
    IsWorkerTurn before queue (.goesOn, left.completeDrain drained) := by
  generalize closing : ((left.note (.contact .givesNothing)).closeAccounts drained).log
    (.drained drained) = closed
  have can : closed.service.state.canBecome .terminated = true := by
    rw [← closing, adopted, adopt_eq]
    exact congrArg (ServiceState.canBecome · .terminated) stopping
  refine ⟨_, _, _, _, before.gates, _, ?_, .completes here gives, Or.inl rfl⟩
  simp only [completeDrain, closing, enter_of_canBecome can]
  simp only [← closing, adopted, adopt_eq, closeAccounts, count, requestStats, logStats, log, note,
    retire,
    setWorker, wakeAll_eq, lineUpAll_lineUpAll, worked, List.append_assoc, List.cons_append, List.nil_append]
  rfl

variable (buffered : before.source = .buffered queue)
include buffered

theorem startUp_turn (here : before.service.worker = .fresh)
    (course : before.service.InOrStopping .starting) :
    IsWorkerTurn before queue (.goesOn, before.startUp) := by
  generalize opening : before.log (.startingUp before.service.handlers.length
    before.service.fallback.name) = announced
  rcases course with ⟨starting, untold⟩ | ⟨stopping, told⟩
  · refine ⟨_, _, _, _, before.gates, _, ?_, .startsUp here starting, Or.inl rfl⟩
    have can : announced.service.state.canBecome .running = true := by
      rw [← opening]
      exact congrArg (ServiceState.canBecome · .running) starting
    simp only [startUp, opening, enter_of_canBecome can]
    simp only [← opening, log, note, setWorker, worked, buffered, List.append_assoc,
      List.cons_append, List.nil_append]
    rfl
  · refine ⟨_, _, _, _, before.gates, _, ?_, .startsLate here stopping, Or.inl rfl⟩
    have cannot : announced.service.state.canBecome .running = false := by
      rw [← opening]
      exact congrArg (ServiceState.canBecome · .running) stopping
    simp only [startUp, opening, enter_of_cannot cannot]
    simp only [← opening, log, note, setWorker, worked, buffered]
    rfl

theorem advanceFetch_turn {place : SubmissionQueue.Place}
    (here : before.service.worker = .fetching (.queued place)) :
    IsWorkerTurn before queue (before.advanceFetch (.queued place)) := by
  simp only [advanceFetch, buffered]
  cases told : before.service.stopRequested with
  | true =>
      rw [if_pos rfl]
      refine ⟨_, _, _, _, before.gates, _, ?_, .interrupted here told, Or.inl rfl⟩
      simp only [missed, adopt_eq, backlog, log, note, setWorker, worked, List.append_assoc,
        List.cons_append, List.nil_append]
  | false =>
      rw [if_neg Bool.false_ne_true]
      have seeks : before.service.Seeks .main place := .main here told
      rcases looked : queue.seek .worker place with ⟨batch | _ | reached, woken, next⟩
      · exact takeInHand_turn seeks looked
      · refine ⟨_, _, _, _, before.gates, _, ?_, .shutOut seeks looked, Or.inl rfl⟩
        simp only [missed, adopt_eq, log, note, setWorker, worked, List.append_assoc,
          List.cons_append, List.nil_append]
      · refine ⟨_, _, _, _, before.gates, _, ?_, .waits seeks looked, Or.inl rfl⟩
        simp only [adopt_eq, setWorker, worked, List.append_nil]

theorem advanceDrainFetch_turn {drained deadline : Nat} {place : SubmissionQueue.Place}
    (here : before.service.worker = .drainFetching drained deadline (.queued place))
    (stopping : before.service.state = .stopping) :
    IsWorkerTurn before queue (before.advanceDrainFetch drained deadline (.queued place)) := by
  simp only [advanceDrainFetch, buffered]
  rcases looked : queue.seek .worker place with ⟨batch | _ | reached, woken, next⟩
  · exact takeInHand_turn (.drain here) looked
  · exact completeDrain_turn here stopping (.exhausted looked) rfl
  · dsimp only
    by_cases due : deadline ≤ before.now
    · rw [if_pos due]
      apply completeDrain_turn here stopping (.timedOut due looked)
      simp only [adopt_eq, lineUpAll_lineUpAll]
    · rw [if_neg due]
      refine ⟨_, _, _, _, before.gates, _, ?_, .drainWaits here (Nat.lt_of_not_le due) looked,
        Or.inl rfl⟩
      simp only [adopt_eq, setWorker, worked, List.append_nil]

theorem advanceDispatch_turn {phase : Phase} {dispatch : Dispatch}
    (here : before.service.worker = .dispatching phase dispatch) :
    IsWorkerTurn before queue (before.advanceDispatch phase dispatch) := by
  by_cases finished : dispatch.current = none ∧ dispatch.pending = []
  · rcases finished with ⟨called, all⟩
    refine ⟨_, _, _, _, before.gates, _, ?_,
      .finishes here (complete_of_finished called all), Or.inl rfl⟩
    simp only [advanceDispatch, called, all, note, setWorker, worked, buffered]
    rfl
  · have continues := advanceDispatch_continues here (by
      intro called all
      exact finished ⟨called, all⟩)
    rcases continues with ⟨stretch, gates, later, reached, same, inner, total⟩
    refine ⟨(before.advanceDispatch phase dispatch).1, _, _, _, gates, _, ?_,
      .dispatches here same inner total, Or.inr ⟨phase, dispatch, here⟩⟩
    refine Prod.ext rfl ?_
    rw [reached]
    simp only [served, setWorker, worked, buffered]
    rfl

/-- Every turn of a worker on course is on the list. -/
theorem advanceWorker_turn (course : before.service.OnCourse) :
    IsWorkerTurn before queue before.advanceWorker := by
  have stays : before = before.worked [] queue before.service before.gates [] := by
    simp only [worked, ← buffered, List.append_nil]
    rfl
  have stands := course.at_home
  unfold advanceWorker
  cases here : before.service.worker with
  | idle => exact ⟨_, _, _, _, _, _, congrArg _ stays, .rests (Or.inl here), Or.inl rfl⟩
  | done count =>
      exact ⟨_, _, _, _, _, _, congrArg _ stays, .rests (Or.inr (Or.inl ⟨count, here⟩)), Or.inl rfl⟩
  | fresh =>
      rw [here] at stands
      exact startUp_turn buffered here (stands _ rfl)
  | looping =>
      rw [here] at stands
      rcases stands _ rfl with ⟨running, untold⟩ | ⟨stopping, told⟩
      · simp only [if_pos (And.intro running untold), beginFetch, buffered]
        refine ⟨_, _, _, _, before.gates, _, ?_, .turnsToQueue here running untold, Or.inl rfl⟩
        simp only [note, setWorker, worked, buffered]
        rfl
      · have left : ¬ (before.service.state = .running ∧ before.service.stopRequested = false) := by
          rw [stopping]
          intro impossible
          cases impossible.1
        simp only [if_neg left]
        refine ⟨_, _, _, _, before.gates, _, ?_, .leavesLoop here stopping, Or.inl rfl⟩
        simp only [log, note, setWorker, worked, buffered]
        rfl
  | fetching fetch =>
      cases fetch with
      | queued place => exact advanceFetch_turn buffered here
      | delayed _ _ | forStop =>
          rcases course with ⟨home, known, _⟩
          rw [here] at known
          cases known
  | parked =>
      dsimp only
      cases told : before.service.stopRequested with
      | true =>
          rw [if_pos rfl]
          refine ⟨_, _, _, _, before.gates, _, ?_, .unparks here told, Or.inl rfl⟩
          simp only [setWorker, worked, buffered, List.append_nil]
          rfl
      | false =>
          rw [if_neg Bool.false_ne_true]
          exact ⟨_, _, _, _, _, _, congrArg _ stays, .rests (Or.inr (Or.inr ⟨here, told⟩)),
            Or.inl rfl⟩
  | dispatching phase dispatch => exact advanceDispatch_turn buffered here
  | draining count =>
      simp only [beginDrainFetch, buffered]
      refine ⟨_, _, _, _, before.gates, _, ?_, .turnsToDrain here, Or.inl rfl⟩
      simp only [note, setWorker, worked, buffered]
      rfl
  | drainFetching count deadline fetch =>
      cases fetch with
      | queued place =>
          rw [here] at stands
          exact advanceDrainFetch_turn buffered here (stands _ rfl).1
      | delayed _ _ | forStop =>
          rcases course with ⟨home, known, _⟩
          rw [here] at known
          cases known
  | failed error | aborted text =>
      rcases course with ⟨home, known, _⟩
      rw [here] at known
      cases known

end Turns

section Ends

variable {before : Deployment} {queue next : SubmissionQueue Actor Batch} {progress : Progress}
  {woken : List Actor} {service : Service} {trace : Journal}
  (turn : WorkerTurn before queue progress woken next service trace)
include turn

/-- A worker that has ended does nothing. -/
theorem WorkerTurn.rests_of_gone (gone : before.service.worker.isGone = true) :
    next = queue ∧ service = before.service ∧ trace = [] := by
  cases turn with
  | rests _ => exact ⟨rfl, rfl, rfl⟩
  | takes seeks _ _ _ _ | shutOut seeks _ | waits seeks _ =>
      exact absurd (seeks.isGone_eq.symm.trans gone) Bool.false_ne_true
  | startsUp here _ | startsLate here _ | turnsToQueue here _ _ | leavesLoop here _
  | interrupted here _ | unparks here _ | drainWaits here _ _ | dispatches here _ _ _
  | finishes here _ | turnsToDrain here | completes here _ =>
      rw [here] at gone
      cases gone

/-- A worker ends only by completing its drain, and tells those who wait for it. -/
theorem WorkerTurn.completes_of_ends (going : before.service.worker.isGone = false) (gone : service.worker.isGone = true) :
    ∃ count deadline place first,
      before.service.worker = .drainFetching count deadline (.queued place) ∧
      Gives queue place (deadline ≤ before.now) first next ∧
      woken = first ++ (before.callersWith Call.observesState ++ before.joiners) := by
  cases turn with
  | rests _ =>
      rw [going] at gone
      cases gone
  | takes _ _ opens _ _ => exact absurd (opens.isGone_eq.symm.trans gone) Bool.false_ne_true
  | @finishes phase _ _ _ =>
      exact absurd (phase.isGone_resume.symm.trans gone) Bool.false_ne_true
  | completes here gives => exact ⟨_, _, _, _, here, gives, rfl⟩
  | _ => cases gone

end Ends

end Deployment
end FailureDispatch

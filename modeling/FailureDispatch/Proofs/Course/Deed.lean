import FailureDispatch.Proofs.Course.Worker

/-!
# Deeds

`Deed` lists everything that can happen to a service, whatever its queue is and
whoever acts: the worker, somebody who holds the handle, or a call that joins.
It speaks of the service and of the journal only.  The queue appears through
what passes between it and the service, so a queue that answers at its own
discretion is covered like the in-memory one.

A turn comes to a few deeds one after the other.  What every deed keeps is
therefore kept by everything that happens, and the list is inspected once for
each such statement.

`Service.Lawful` is the first of them: the place of the worker, the state and
the mark of a requested stop fit together.
-/

namespace FailureDispatch

namespace Service

/-- The worker waits for its queue in this phase. -/
inductive Awaits (service : Service) : Phase → Prop where
  | main {fetch} (here : service.worker = .fetching fetch) : Awaits service .main
  | drain {count deadline fetch} (here : service.worker = .drainFetching count deadline fetch) :
      Awaits service (.drain count)

/-- The state and the mark of a requested stop are such as they can be while
the worker is where it is. -/
def Lawful (service : Service) : Prop :=
  match service.worker with
  | .idle => service.state = .new ∧ service.stopRequested = false
  | .fresh => service.InOrStopping .starting
  | .looping | .fetching _ | .parked | .dispatching .main _ => service.InOrStopping .running
  | .draining _ | .drainFetching _ _ _ | .dispatching (.drain _) _ =>
      service.state = .stopping ∧ service.stopRequested = true
  | .done _ => service.state = .terminated ∧ service.stopRequested = true
  | .failed _ => service.state = .failed ∧ service.stopRequested = true
  | .aborted _ => service.InOrStopping .running ∨ service.state = .failed

/-- The service in a state that it enters. -/
def entering (service : Service) (next : ServiceState) : Service :=
  { service with state := next, version := service.version + 1 }

end Service

/-- Where the main loop goes on when it gets no batch. -/
def Worker.afterMiss : FailureError → Worker
  | .queueClosed => .parked
  | _ => .looping

/-- What the main loop writes when it gets no batch. -/
def Notice.ofMiss (backlog : Nat) : FailureError → Notice
  | .cancelled => .interrupted backlog
  | .queueClosed => .queueClosed
  | other => .fetchFailed other

/-- What a queue makes of a request for its statistics: it writes them, or notes the request. -/
def Occurrence.Reports (tag : String) (entry : Occurrence) : Prop :=
  entry = .reported tag ∨ ∃ stats, entry = .logged (.stats tag stats)

theorem Occurrence.Reports.aside {tag : String} {entry : Occurrence} (reports : entry.Reports tag) :
    Journal.Aside [entry] := by
  rcases reports with same | ⟨stats, same⟩ <;> (rw [same]; exact ⟨⟨rfl, rfl⟩, rfl⟩)

/-- What is written when a drain is over, up to the entry into the last state.
The statistics are whatever the queue makes of the request for them. -/
def drainTrace (ending : Contact) (count : Nat) (figures : Occurrence) (notice : Notice) :
    Journal :=
  [.contact ending, .counted .drained count, .contact (.reports Deployment.drainTag), figures,
    .logged notice]

section DrainTrace

variable (ending : Contact) (count : Nat) {figures : Occurrence} (notice : Notice)
  (aside : Journal.Aside [figures])
include aside

theorem states_drainTrace : (drainTrace ending count figures notice).states = [] := by
  have parts : drainTrace ending count figures notice =
      [.contact ending, .counted .drained count, .contact (.reports Deployment.drainTag)] ++
        ([figures] ++ [.logged notice]) := rfl
  rw [parts, Journal.states_append, Journal.states_append, aside.states_eq]
  rfl

theorem contacts_drainTrace :
    (drainTrace ending count figures notice).contacts =
      [ending, .reports Deployment.drainTag] := by
  have parts : drainTrace ending count figures notice =
      [.contact ending, .counted .drained count, .contact (.reports Deployment.drainTag)] ++
        ([figures] ++ [.logged notice]) := rfl
  rw [parts, Journal.contacts_append, Journal.contacts_append, aside.contacts_eq]
  rfl

end DrainTrace

/-- What is written at the first request to stop. -/
def stopTrace (figures : Occurrence) : Journal :=
  [.entered .stopping, .logged .stopRequested, .contact (.reports Deployment.stopTag), figures]

section StopTrace

variable {figures : Occurrence} (aside : Journal.Aside [figures])
include aside

theorem states_stopTrace : (stopTrace figures).states = [.stopping] := by
  have parts : stopTrace figures =
      [.entered .stopping, .logged .stopRequested, .contact (.reports Deployment.stopTag)] ++
        [figures] := rfl
  rw [parts, Journal.states_append, aside.states_eq]
  rfl

theorem contacts_stopTrace :
    (stopTrace figures).contacts = [.reports Deployment.stopTag] := by
  have parts : stopTrace figures =
      [.entered .stopping, .logged .stopRequested, .contact (.reports Deployment.stopTag)] ++
        [figures] := rfl
  rw [parts, Journal.contacts_append, aside.contacts_eq]
  rfl

end StopTrace

/-- One thing that happens to a service, with what it leaves in the journal. -/
inductive Deed (service : Service) : Service → Journal → Prop where
  | startsUp (here : service.worker = .fresh)
      (can : service.state.canBecome .running = true) :
      Deed service { service.entering .running with worker := .looping }
        [.logged (.startingUp service.handlers.length service.fallback.name), .entered .running,
          .logged .upAndRunning]
  | startsLate (here : service.worker = .fresh)
      (cannot : service.state.canBecome .running = false) :
      Deed service { service with worker := .draining 0 }
        [.logged (.startingUp service.handlers.length service.fallback.name)]
  | asks {echo : Journal} (fetch : Fetch) (here : service.worker = .looping)
      (running : service.state = .running) (untold : service.stopRequested = false)
      (aside : echo.Aside) :
      Deed service { service with worker := .fetching fetch } (.contact .waits :: echo)
  | leavesLoop (here : service.worker = .looping)
      (left : ¬ (service.state = .running ∧ service.stopRequested = false)) :
      Deed service { service with worker := .draining 0 } [.logged .loopLeft]
  | waitsOn {fetch} (later : Fetch) (here : service.worker = .fetching fetch) :
      Deed service { service with worker := .fetching later } []
  | misses {fetch} (error : FailureError) (backlog : Nat)
      (here : service.worker = .fetching fetch) :
      Deed service { service with worker := .afterMiss error }
        [.contact (.fails error), .logged (.ofMiss backlog error)]
  | unparks (here : service.worker = .parked) (told : service.stopRequested = true) :
      Deed service { service with worker := .looping } []
  | takes {phase batch worker} {stretch : Account} (awaits : service.Awaits phase)
      (opens : Opens service.staff batch phase stretch worker)
      (ofDispatch : stretch.trace.OfDispatch) :
      Deed service { service.withStaff stretch.staff with worker }
        (.contact (.gives batch) :: .taken batch :: stretch.trace)
  | dispatches {phase dispatch later} {stretch : Account}
      (here : service.worker = .dispatching phase dispatch) (inner : stretch.trace.Inner) :
      Deed service { service.withStaff stretch.staff with worker := .dispatching phase later }
        stretch.trace
  | finishes {phase dispatch} (here : service.worker = .dispatching phase dispatch) :
      Deed service { service with worker := phase.resume } [.dispatchEnded dispatch.batch]
  | asksWithin {count} {echo : Journal} (deadline : Nat) (fetch : Fetch)
      (here : service.worker = .draining count) (aside : echo.Aside) :
      Deed service { service with worker := .drainFetching count deadline fetch }
        (.contact (.waitsWithin service.drainWait) :: echo)
  | drainWaits {count deadline fetch} (later : Fetch)
      (here : service.worker = .drainFetching count deadline fetch) :
      Deed service { service with worker := .drainFetching count deadline later } []
  | completes {count deadline fetch figures}
      (here : service.worker = .drainFetching count deadline fetch)
      (stopping : service.state = .stopping) (reports : figures.Reports Deployment.drainTag) :
      Deed service { service.entering .terminated with worker := .done count }
        (drainTrace .givesNothing count figures (.drained count) ++ [.entered .terminated])
  | abandons {count deadline fetch error figures}
      (here : service.worker = .drainFetching count deadline fetch)
      (stopping : service.state = .stopping) (reports : figures.Reports Deployment.drainTag) :
      Deed service { service.entering .failed with worker := .failed error }
        (drainTrace (.fails error) count figures (.drainFailed error count) ++ [.entered .failed])
  | tornDown {phase} (text : String) (awaits : service.Awaits phase) :
      Deed service { service with worker := .aborted text } []
  /-- Somebody who joins finds that the worker was torn down. -/
  | buries {text} (here : service.worker = .aborted text)
      (can : service.state.canBecome .failed = true) :
      Deed service (service.entering .failed) [.entered .failed]
  | starts (new : service.state = .new) :
      Deed service { service.entering .starting with worker := .fresh } [.entered .starting]
  | stops {figures} (can : service.state.canBecome .stopping = true)
      (reports : figures.Reports Deployment.stopTag) :
      Deed service { service.entering .stopping with stopRequested := true }
        (stopTrace figures)
  | stopsAgain (cannot : service.state.canBecome .stopping = false)
      (started : service.state ≠ .new) :
      Deed service { service with stopRequested := true } []
  | aside {trace : Journal} (aside : trace.Aside) : Deed service service trace

/-- Several deeds, one after the other. -/
inductive Deeds : Service → Service → Journal → Prop where
  | none (service : Service) : Deeds service service []
  | more {first next last : Service} {trace rest : Journal} (deed : Deed first next trace)
      (later : Deeds next last rest) : Deeds first last (trace ++ rest)

namespace Deeds

variable {first next last : Service} {trace rest : Journal}

theorem single (deed : Deed first next trace) : Deeds first next trace := by
  have alone := Deeds.more deed (.none next)
  rwa [List.append_nil] at alone

theorem trans (earlier : Deeds first next trace) (later : Deeds next last rest) :
    Deeds first last (trace ++ rest) := by
  induction earlier with
  | none => exact later
  | more deed _ inductionHypothesis =>
      rw [List.append_assoc]
      exact .more deed (inductionHypothesis later)

end Deeds

/-! ## Lawfulness -/

namespace Service.Lawful

variable {service : Service} (lawful : service.Lawful)
include lawful

/-- Lawfulness, said of the place where the worker is known to be. -/
theorem at_worker {worker : Worker} (here : service.worker = worker) :
    Lawful { service with worker } := by
  rw [← here]
  exact lawful

theorem running_of_awaits (awaits : service.Awaits .main) : service.InOrStopping .running := by
  cases awaits with
  | main here => exact lawful.at_worker here

theorem stopping_of_awaits {count : Nat} (awaits : service.Awaits (.drain count)) :
    service.state = .stopping ∧ service.stopRequested = true := by
  cases awaits with
  | drain here => exact lawful.at_worker here

/-- A service that can be started has an idle worker, which nobody has told to
stop. -/
theorem of_new (new : service.state = .new) :
    service.worker = .idle ∧ service.stopRequested = false := by
  unfold Lawful InOrStopping at lawful
  cases here : service.worker with
  | idle =>
      rw [here] at lawful
      exact ⟨rfl, lawful.2⟩
  | dispatching phase _ => cases phase <;> simp [here, new] at lawful
  | _ => simp [here, new] at lawful

/-- What the state says of the mark of a requested stop and of the worker's end,
and what the mark says of the state. -/
theorem stop_and_end :
    (service.stopRequested = true → service.state = .stopping ∨ service.state = .terminated ∨
      service.state = .failed) ∧
    (service.state = .stopping → service.stopRequested = true) ∧
    (service.state = .terminated → ∃ count, service.worker = .done count) ∧
    (service.state = .failed →
      (∃ error, service.worker = .failed error) ∨ ∃ text, service.worker = .aborted text) := by
  unfold Lawful InOrStopping at lawful
  cases here : service.worker with
  | dispatching phase _ => cases phase <;> grind
  | _ => grind

end Service.Lawful

/-- The service is at a place where a stop may be requested for the first time. -/
theorem Service.Lawful.untold_of_stoppable {service : Service} (lawful : service.Lawful)
    (can : service.state.canBecome .stopping = true) : service.stopRequested = false := by
  cases told : service.stopRequested with
  | false => rfl
  | true =>
      rcases lawful.stop_and_end.1 told with state | state | state <;>
        (rw [state] at can
         cases can)

/-- A phase is resumed where the state of its service allows it. -/
theorem Service.Lawful.resumes {service : Service} {phase : Phase} {dispatch : Dispatch}
    (lawful : Lawful { service with worker := .dispatching phase dispatch }) :
    Lawful { service with worker := phase.resume } := by
  cases phase <;> exact lawful

/-- A batch is taken in hand in the phase in which it was awaited. -/
theorem Service.Awaits.lawful_dispatching {service : Service} {phase : Phase}
    (awaits : service.Awaits phase) (lawful : service.Lawful) (dispatch : Dispatch) :
    Service.Lawful { service with worker := .dispatching phase dispatch } := by
  cases phase with
  | main => exact lawful.running_of_awaits awaits
  | drain count => exact lawful.stopping_of_awaits awaits

/-- A request to stop is lawful once the service has been started. -/
theorem Service.Lawful.stopped {service : Service} (lawful : service.Lawful)
    (started : service.state ≠ .new) (version : Nat) :
    Lawful { service with
      state := service.state.stopped, version, stopRequested := true } := by
  have overtakes {home : ServiceState} (overtaken : home.stopped = .stopping)
      (standing : service.InOrStopping home) : service.state.stopped = .stopping := by
    rcases standing with ⟨state, _⟩ | ⟨state, _⟩
    · rw [state]
      exact overtaken
    · rw [state]
      rfl
  have kept := lawful
  unfold Lawful at kept ⊢
  cases here : service.worker with
  | idle =>
      rw [here] at kept
      exact absurd kept.1 started
  | fresh | looping | fetching _ | parked =>
      rw [here] at kept
      exact Or.inr ⟨overtakes rfl kept, rfl⟩
  | dispatching phase _ =>
      rw [here] at kept
      cases phase with
      | main => exact Or.inr ⟨overtakes rfl kept, rfl⟩
      | drain count => exact ⟨by rw [kept.1]; rfl, rfl⟩
  | draining _ | drainFetching _ _ _ | done _ | failed _ =>
      rw [here] at kept
      exact ⟨by rw [kept.1]; rfl, rfl⟩
  | aborted text =>
      rw [here] at kept
      rcases kept with standing | failed
      · exact Or.inl (Or.inr ⟨overtakes rfl standing, rfl⟩)
      · exact Or.inr (by rw [failed]; rfl)

/-- Every deed keeps the service lawful. -/
theorem Deed.lawful {service later : Service} {trace : Journal} (deed : Deed service later trace)
    (lawful : service.Lawful) : later.Lawful := by
  cases deed with
  | startsUp here can =>
      have standing : service.InOrStopping .starting := lawful.at_worker here
      rcases standing with ⟨_, untold⟩ | ⟨stopping, _⟩
      · exact Or.inl ⟨rfl, untold⟩
      · rw [stopping] at can
        cases can
  | startsLate here cannot =>
      have standing : service.InOrStopping .starting := lawful.at_worker here
      rcases standing with ⟨starting, _⟩ | stopping
      · rw [starting] at cannot
        cases cannot
      · exact stopping
  | leavesLoop here left =>
      have standing : service.InOrStopping .running := lawful.at_worker here
      exact standing.resolve_left left
  | asks fetch here running untold _ => exact Or.inl ⟨running, untold⟩
  | waitsOn later here => exact lawful.running_of_awaits (.main here)
  | misses error backlog here =>
      have standing : service.InOrStopping .running := lawful.at_worker here
      cases error <;> exact standing
  | unparks here _ =>
      have standing := lawful.at_worker here
      exact standing
  | @takes phase batch _ _ awaits opens _ =>
      cases opens with
      | discards => exact (awaits.lawful_dispatching lawful { batch, pending := [] }).resumes
      | calls _ _ => exact awaits.lawful_dispatching lawful _
  | @dispatches phase _ _ _ here _ =>
      have standing := lawful.at_worker here
      cases phase <;> exact standing
  | finishes here => exact (lawful.at_worker here).resumes
  | asksWithin deadline fetch here _ =>
      have standing := lawful.at_worker here
      exact standing
  | drainWaits later here => exact lawful.stopping_of_awaits (.drain here)
  | completes here _ _ | abandons here _ _ =>
      exact ⟨rfl, (lawful.stopping_of_awaits (.drain here)).2⟩
  | @tornDown phase text awaits =>
      cases phase with
      | main => exact Or.inl (lawful.running_of_awaits awaits)
      | drain count => exact Or.inl (Or.inr (lawful.stopping_of_awaits awaits))
  | buries here _ =>
      unfold Service.Lawful Service.entering
      simp only [here, or_true]
  | starts new => exact Or.inl ⟨rfl, (lawful.of_new new).2⟩
  | stops can _ =>
      have started : service.state ≠ .new := by
        intro new
        rw [new] at can
        cases can
      have stopped := lawful.stopped started (service.version + 1)
      rw [ServiceState.stopped, if_pos can] at stopped
      exact stopped
  | stopsAgain cannot started =>
      have stopped := lawful.stopped started service.version
      rw [ServiceState.stopped, if_neg (Bool.eq_false_iff.mp cannot)] at stopped
      exact stopped
  | aside _ => exact lawful

/-! ## Ends -/

/-- Where the worker of a service that has ended is. -/
theorem Service.Lawful.isGone_of_isTerminal {service : Service} (lawful : service.Lawful)
    (ended : service.state.isTerminal = true) : service.worker.isGone = true := by
  unfold Lawful InOrStopping at lawful
  cases here : service.worker with
  | done _ | failed _ | aborted _ => rfl
  | dispatching phase _ =>
      cases phase <;> rcases state : service.state <;> simp [here, state] at lawful ended <;>
        cases ended
  | _ => rcases state : service.state <;> simp [here, state] at lawful ended <;> cases ended

/-- Nothing moves a service that has ended, and its queue is left alone. -/
theorem Deed.of_isTerminal {service later : Service} {trace : Journal}
    (deed : Deed service later trace) (lawful : service.Lawful)
    (ended : service.state.isTerminal = true) :
    later.state = service.state ∧ later.worker = service.worker ∧ trace.Aside := by
  have gone := lawful.isGone_of_isTerminal ended
  cases deed with
  | stopsAgain _ _ => exact ⟨rfl, rfl, .nil⟩
  | aside aside => exact ⟨rfl, rfl, aside⟩
  | buries _ can | stops can _ =>
      rw [ServiceState.canBecome_of_isTerminal ended] at can
      cases can
  | starts new =>
      rw [new] at ended
      cases ended
  | takes awaits _ _ | tornDown _ awaits =>
      cases awaits with
      | main here | drain here =>
          rw [here] at gone
          cases gone
  | startsUp here _ | startsLate here _ | asks _ here _ _ _ | leavesLoop here _ | waitsOn _ here
  | misses _ _ here | unparks here _ | dispatches here _ | finishes here | asksWithin _ _ here _
  | drainWaits _ here | completes here _ _ | abandons here _ _ =>
      rw [here] at gone
      cases gone

/-- The configuration of a service stays as it is. -/
theorem Deed.drainWait_eq {service later : Service} {trace : Journal}
    (deed : Deed service later trace) : later.drainWait = service.drainWait := by
  cases deed <;> rfl

/-- Once started, a service is never new again. -/
theorem Deed.started {service later : Service} {trace : Journal}
    (deed : Deed service later trace) (started : service.state ≠ .new) : later.state ≠ .new := by
  cases deed with
  | startsUp | completes | abandons | buries | starts | stops =>
      intro impossible
      cases impossible
  | _ => exact started

/-- A request to stop is never taken back. -/
theorem Deed.told {service later : Service} {trace : Journal} (deed : Deed service later trace)
    (told : service.stopRequested = true) : later.stopRequested = true := by
  cases deed with
  | stops _ _ | stopsAgain _ _ => rfl
  | _ => exact told

namespace Deeds

variable {first last : Service} {trace : Journal} (deeds : Deeds first last trace)
include deeds

/-- What every deed of a lawful service keeps is kept by all that happens. -/
theorem keeps {property : Service → Journal → Prop}
    (keeps : ∀ service later journal trace, service.Lawful → Deed service later trace →
      property service journal → property later (journal ++ trace))
    {journal : Journal} (lawful : first.Lawful) (holds : property first journal) :
    property last (journal ++ trace) := by
  induction deeds generalizing journal with
  | none =>
      rw [List.append_nil]
      exact holds
  | more deed _ inductionHypothesis =>
      rw [← List.append_assoc]
      exact inductionHypothesis (deed.lawful lawful) (keeps _ _ _ _ lawful deed holds)

theorem lawful (lawful : first.Lawful) : last.Lawful := by
  induction deeds with
  | none => exact lawful
  | more deed _ inductionHypothesis => exact inductionHypothesis (deed.lawful lawful)

theorem started (started : first.state ≠ .new) : last.state ≠ .new := by
  induction deeds with
  | none => exact started
  | more deed _ inductionHypothesis => exact inductionHypothesis (deed.started started)

end Deeds
end FailureDispatch

import FailureDispatch.Proofs.Course.Evolution

/-!
# The life of a service

A service goes through its states along one path.  Four parties move it: whoever
starts it, its worker, whoever asks it to stop, and whoever joins.  The list of
deeds is the list of all that they do, so the path, the mark of a requested stop
and the end of the worker are related by going through that list once.

The invariant is `Lifecycle`.  It holds for every queue, whatever the handlers do
and in whatever order the parties act.
-/

namespace FailureDispatch

namespace ServiceState

/-- A service that runs, and fails without having been asked to stop. -/
def abruptEnd : List ServiceState := [.new, .starting, .running, .failed]

/-- The ways in which a service can have come to a state. -/
def histories : ServiceState → List (List ServiceState)
  | new => [[.new]]
  | starting => [[.new, .starting]]
  | running => [[.new, .starting, .running]]
  | stopping => [[.new, .starting, .stopping], [.new, .starting, .running, .stopping]]
  | terminated =>
      [[.new, .starting, .stopping, .terminated],
        [.new, .starting, .running, .stopping, .terminated]]
  | failed =>
      [[.new, .starting, .stopping, .failed], [.new, .starting, .running, .stopping, .failed],
        abruptEnd]

theorem failed_of_abruptEnd {state : ServiceState} (member : abruptEnd ∈ state.histories) :
    state = .failed := by
  cases state <;> first | rfl | exact absurd member (by decide)

/-- A service that has been started, and does not fail at once, continues its
path with every transition that it can make. -/
theorem append_mem_histories {state next : ServiceState} (can : state.canBecome next = true)
    (started : state ≠ .new ∨ next = .starting) (ripe : state ≠ .starting ∨ next ≠ .failed) :
    ∀ history ∈ state.histories, history ++ [next] ∈ next.histories := by
  revert can started ripe
  cases state <;> cases next <;> decide

/-- A history that reaches a state by a transition is not the one of an abrupt
end, unless the service fails while it runs. -/
theorem append_ne_abruptEnd {state next : ServiceState}
    (orderly : next ≠ .failed ∨ state = .stopping) :
    ∀ history ∈ state.histories, history ++ [next] ≠ abruptEnd := by
  revert orderly
  cases state <;> cases next <;> decide

end ServiceState

namespace Service

/-- The history leads to the state, and has ended abruptly only by a panic of the
queue. -/
structure Lived (service : Service) (history : List ServiceState) : Prop where
  path : history ∈ service.state.histories
  abrupt : history = ServiceState.abruptEnd → ∃ text, service.worker = .aborted text

namespace Lived

variable {service later : Service} {history : List ServiceState} (lived : service.Lived history)
include lived

/-- What enters no state leaves the history as it is. -/
theorem unmoved (state : later.state = service.state)
    (still : service.state = .failed → later.worker = service.worker) : later.Lived history where
  path := by
    rw [state]
    exact lived.path
  abrupt := by
    intro ended
    rw [still (ServiceState.failed_of_abruptEnd (ended ▸ lived.path))]
    exact lived.abrupt ended

theorem enters {next : ServiceState} (can : service.state.canBecome next = true)
    (started : service.state ≠ .new ∨ next = .starting)
    (orderly : next ≠ .failed ∨ service.state = .stopping) (state : later.state = next) :
    later.Lived (history ++ [next]) where
  path := by
    rw [state]
    apply ServiceState.append_mem_histories can started _ history lived.path
    rcases orderly with other | stopping
    · exact Or.inr other
    · refine Or.inl ?_
      rw [stopping]
      intro impossible
      cases impossible
  abrupt := fun ended =>
    absurd ended (ServiceState.append_ne_abruptEnd orderly history lived.path)

end Lived

end Service

/-- Every deed continues the path. -/
theorem Deed.lived {service later : Service} {trace : Journal} (deed : Deed service later trace)
    (lawful : service.Lawful) {history : List ServiceState} (lived : service.Lived history) :
    later.Lived (history ++ trace.states) := by
  have stays (state : later.state = service.state) (states : trace.states = []) :
      later.Lived (history ++ trace.states) := by
    rw [states, List.append_nil]
    apply lived.unmoved state
    intro failed
    exact (deed.of_isTerminal lawful (by rw [failed]; rfl)).2.1
  cases deed with
  | startsLate _ _ | leavesLoop _ _ | waitsOn _ _ | misses _ _ _ | unparks _ _ | finishes _
  | drainWaits _ _ | tornDown _ _ | stopsAgain _ _ => exact stays rfl rfl
  | asks _ _ _ _ aside | asksWithin _ _ _ aside => exact stays rfl aside.states_eq
  | takes _ _ ofDispatch => exact stays rfl ofDispatch.aside.states_eq
  | dispatches _ inner => exact stays rfl inner.ofDispatch.aside.states_eq
  | aside aside => exact stays rfl aside.states_eq
  | startsUp _ can =>
      have started : service.state ≠ .new := by
        intro new
        rw [new] at can
        cases can
      exact lived.enters can (Or.inl started) (Or.inl (by decide)) rfl
  | completes _ stopping reports =>
      have can : service.state.canBecome .terminated = true := by
        rw [stopping]
        rfl
      rw [Journal.states_append, states_drainTrace _ _ _ reports.aside]
      exact lived.enters can (Or.inl (by rw [stopping]; decide)) (Or.inr stopping) rfl
  | abandons _ stopping reports =>
      have can : service.state.canBecome .failed = true := by
        rw [stopping]
        rfl
      rw [Journal.states_append, states_drainTrace _ _ _ reports.aside]
      exact lived.enters can (Or.inl (by rw [stopping]; decide)) (Or.inr stopping) rfl
  | @buries text here can =>
      -- The one transition to `failed` that may come while the service runs.
      have standing := lawful.at_worker here
      have begun : service.state ≠ .new ∧ service.state ≠ .starting := by
        rcases standing with (⟨state, _⟩ | ⟨state, _⟩) | state <;>
          (rw [show service.state = _ from state]; decide)
      exact ⟨ServiceState.append_mem_histories can (Or.inl begun.1) (Or.inl begun.2) history
        lived.path, fun _ => ⟨text, here⟩⟩
  | starts new =>
      have can : service.state.canBecome .starting = true := by
        rw [new]
        rfl
      exact lived.enters can (Or.inr rfl) (Or.inl (by decide)) rfl
  | stops can reports =>
      have started : service.state ≠ .new := by
        intro new
        rw [new] at can
        cases can
      rw [states_stopTrace reports.aside]
      exact lived.enters can (Or.inl started) (Or.inl (by decide)) rfl

namespace Service

/-- A result of the worker, as it is told to whoever joins, fits the end of the
service. -/
def Agrees (service : Service) : Except FailureError Nat → Prop
  | .ok count => service.state = .terminated ∧ service.worker = .done count
  | .error error => service.state = .failed ∧
      (service.worker = .failed error ∨ ∃ text, service.worker = .aborted text ∧
        error = .workerAborted (Deployment.abortReason text))

theorem Lawful.agrees {service : Service} (lawful : service.Lawful)
    {result : Except FailureError Nat} (verdict : service.worker.verdict? = some result)
    (ended : service.state.isTerminal = true) : service.Agrees result := by
  cases here : service.worker with
  | done count =>
      have standing := lawful.at_worker here
      rw [here] at verdict
      cases verdict
      exact ⟨standing.1, here⟩
  | failed error =>
      have standing := lawful.at_worker here
      rw [here] at verdict
      cases verdict
      exact ⟨standing.1, Or.inl here⟩
  | aborted text =>
      have standing := lawful.at_worker here
      rw [here] at verdict
      cases verdict
      refine ⟨?_, Or.inr ⟨text, here, rfl⟩⟩
      rcases standing with (⟨state, _⟩ | ⟨state, _⟩) | failed
      · rw [show service.state = _ from state] at ended
        cases ended
      · rw [show service.state = _ from state] at ended
        cases ended
      · exact failed
  | _ =>
      rw [here] at verdict
      cases verdict

end Service

namespace Deployment

/-- The states that the service has gone through, the present one being the last. -/
def history (deployment : Deployment) : List ServiceState := .new :: deployment.journal.states

/-- What is true of the life of a service at every moment.  `later` ranges over
all that may become of it. -/
structure Lifecycle (deployment : Deployment) : Prop where
  /-- The states follow one path. -/
  path : deployment.history ∈ deployment.service.state.histories
  /-- Without a stop, only a panic of the queue lets the service fail. -/
  abrupt : deployment.history = ServiceState.abruptEnd →
    ∃ text, deployment.service.worker = .aborted text
  /-- An ended service stays as it is. -/
  final : deployment.service.state.isTerminal = true → ∀ later, Evolves deployment later →
    later.service.state = deployment.service.state ∧ later.history = deployment.history
  /-- The first start succeeds, and no later one. -/
  starts : deployment.service.state = .new → deployment.start.1 = .ok () ∧
    ∀ later, Evolves deployment.start.2 later → later.service.state ≠ .new
  /-- A start that comes too late changes nothing. -/
  refuses : deployment.service.state ≠ .new →
    deployment.start =
      (.error (.illegalTransition deployment.service.state .starting), deployment)
  /-- A worker is spawned while there has been none, and then never again. -/
  lone : ∀ later, Evolves deployment later → later.service.worker = .fresh →
    deployment.service.worker = .fresh ∨ deployment.service.state = .new
  told : deployment.service.stopRequested = true → deployment.service.state = .stopping ∨
    deployment.service.state = .terminated ∨ deployment.service.state = .failed
  stopping : deployment.service.state = .stopping → deployment.service.stopRequested = true
  terminated : deployment.service.state = .terminated →
    ∃ count, deployment.service.worker = .done count
  failed : deployment.service.state = .failed →
    (∃ error, deployment.service.worker = .failed error) ∨
      ∃ text, deployment.service.worker = .aborted text
  /-- A drain that comes to its end is let into the last state. -/
  drains : ∀ drained deadline fetch,
    deployment.service.worker = .drainFetching drained deadline fetch →
      (deployment.completeDrain drained).service.state = .terminated ∧
        (deployment.completeDrain drained).service.worker = .done drained
  /-- A call that joins ends by being aborted, or with a result that agrees with
  the service from then on. -/
  joins : ∀ after id call doomed door, Event deployment after →
    deployment.job? id = some ⟨call, doomed⟩ → call.door? = some door → after.job? id = none →
      after.outcomes = deployment.outcomes ++ [(id, .aborted)] ∨
        ∃ result, after.outcomes = deployment.outcomes ++ [(id, door.outcome result)] ∧
          ∀ later, Evolves after later → later.service.Agrees result

section Life

variable {origin reached later : Deployment}

/-- The path is continued by whatever happens. -/
theorem Untouched.lived (untouched : origin.Untouched) (evolves : Evolves origin reached) :
    reached.service.Lived reached.history := by
  have keeps (service later : Service) (journal trace : Journal) (lawful : service.Lawful)
      (deed : Deed service later trace) (lived : service.Lived (.new :: journal.states)) :
      later.Lived (.new :: (journal ++ trace).states) := by
    rw [Journal.states_append, ← List.cons_append]
    exact deed.lived lawful lived
  apply untouched.regular.keeps evolves keeps
  rw [untouched.journal.states_eq]
  refine ⟨?_, ?_⟩
  · rw [untouched.state]
    exact List.mem_singleton.mpr rfl
  · intro impossible
    cases impossible

theorem start_of_new (new : reached.service.state = .new) :
    reached.start.1 = .ok () ∧ reached.start.2.service.state ≠ .new := by
  have can : reached.service.state.canBecome .starting = true := by
    rw [new]
    rfl
  constructor
  · rw [start, enter_of_canBecome can]
  · simp only [start, enter_of_canBecome can, setWorker, wake_eq]
    decide

theorem start_of_started (started : reached.service.state ≠ .new) :
    reached.start = (.error (.illegalTransition reached.service.state .starting), reached) := by
  have cannot : reached.service.state.canBecome .starting = false := by
    cases state : reached.service.state <;> first | rfl | exact absurd state started
  simp only [start, enter_of_cannot cannot]

end Life

end Deployment

/-- Only a start spawns a worker. -/
theorem Deed.not_fresh {service later : Service} {trace : Journal}
    (deed : Deed service later trace) (started : service.state ≠ .new)
    (begun : service.worker ≠ .fresh) : later.worker ≠ .fresh := by
  cases deed with
  | starts new => exact absurd new started
  | buries _ _ | stops _ _ | stopsAgain _ _ | aside _ => exact begun
  | @misses _ error _ _ =>
      cases error <;>
        (intro impossible
         cases impossible)
  | @finishes phase _ _ =>
      cases phase <;>
        (intro impossible
         cases impossible)
  | @takes phase _ _ _ _ opens _ =>
      intro impossible
      cases opens with
      | discards => cases phase <;> cases impossible
      | calls _ _ => cases impossible
  | _ =>
      intro impossible
      cases impossible

namespace Deployment

section Life

variable {origin reached later : Deployment}

namespace Regular

variable (regular : reached.Regular)
include regular

/-- Only a start spawns a worker, and only one start succeeds. -/
theorem lone (evolves : Evolves reached later) (fresh : later.service.worker = .fresh) :
    reached.service.worker = .fresh ∨ reached.service.state = .new := by
  by_cases new : reached.service.state = .new
  · exact Or.inr new
  · by_cases here : reached.service.worker = .fresh
    · exact Or.inl here
    · have keeps (service later : Service) (journal trace : Journal) (_ : service.Lawful)
          (deed : Deed service later trace)
          (kept : service.state ≠ .new ∧ service.worker ≠ .fresh) :
          later.state ≠ .new ∧ later.worker ≠ .fresh :=
        ⟨deed.started kept.1, deed.not_fresh kept.1 kept.2⟩
      have kept := regular.keeps evolves keeps ⟨new, here⟩
      exact absurd fresh kept.2

theorem drains {drained deadline : Nat} {fetch : Fetch}
    (here : reached.service.worker = .drainFetching drained deadline fetch) :
    (reached.completeDrain drained).service.state = .terminated ∧
      (reached.completeDrain drained).service.worker = .done drained := by
  have can : reached.service.state.canBecome .terminated = true := by
    rw [(regular.lawful.stopping_of_awaits (.drain here)).1]
    rfl
  rw [reached.completeDrain_eq drained can,
    enter_of_canBecome ((reached.canBecome_closing ..).trans can)]
  simp only [retire, setWorker, wakeAll_eq, and_self]

theorem learns {id : Nat} {call : Call} {doomed : Bool} {door : Door} {after : Deployment}
    (event : Event reached after) (known : reached.job? id = some ⟨call, doomed⟩)
    (owned : call.door? = some door) (left : after.job? id = none) :
    after.outcomes = reached.outcomes ++ [(id, .aborted)] ∨
      ∃ result, after.outcomes = reached.outcomes ++ [(id, door.outcome result)] ∧
        ∀ later, Evolves after later → later.service.Agrees result := by
  have passes := regular.passes event
  have there := passes.regular regular
  have ended := (passes.follows known).resolve_left fun ⟨_, present, _⟩ => by
    rw [left] at present
    cases present
  rcases ended with ⟨_, outcome, concludes, outcomes⟩
  cases concludes with
  | apart single =>
      rw [Call.isJoin_eq_isSome, owned] at single
      cases single
  | aborted => exact Or.inl outcomes
  | told asked verdict ended =>
      rw [owned] at asked
      cases asked
      refine Or.inr ⟨_, outcomes, ?_⟩
      intro later evolves
      have rest := there.atRest evolves ended
      apply (there.persists evolves).lawful.agrees
      · rw [rest.worker]
        exact verdict
      · rw [rest.state]
        exact ended

end Regular

/-- Whatever becomes of a service over any queue, its life is in order.  The queue may
panic over whoever waits for a batch, but not when it is asked for its size or told to
write its statistics. -/
theorem lifecycle_of_evolves (untouched : origin.Untouched) (evolves : Evolves origin reached) :
    reached.Lifecycle := by
  have regular := untouched.regular.persists evolves
  have lived := untouched.lived evolves
  rcases regular.lawful.stop_and_end with ⟨told, stopping, terminated, failed⟩
  refine
    { path := lived.path
      abrupt := lived.abrupt
      final := ?_
      starts := ?_
      refuses := start_of_started
      lone := fun later evolves fresh => regular.lone evolves fresh
      told, stopping, terminated, failed
      drains := fun drained deadline fetch here => regular.drains here
      joins := fun after id call doomed door event known owned left =>
        regular.learns event known owned left }
  · intro ended later evolves
    have rest := regular.atRest evolves ended
    refine ⟨rest.state, ?_⟩
    unfold history
    rw [rest.states]
  · intro new
    rcases start_of_new new with ⟨succeeds, started⟩
    refine ⟨succeeds, ?_⟩
    intro later evolves
    have there := (regular.passes (.act .start)).regular regular
    exact there.started evolves started

/-- A queue that panics when it is first asked for a batch. -/
def panicky : Deployment := { source := .scripted { waits := [{ answer := .panic "boom" }] } }

theorem untouched_panicky : panicky.Untouched := ⟨rfl, rfl, rfl, rfl, rfl, .nil⟩

/-- The worker is torn down while the service runs, and whoever joins learns of it
and lets the service fail. -/
theorem lifecycle_of_evolves_panicky :
    (panicky.run 0 [some .start, some .settle, some .join]).2.Lifecycle ∧
      (panicky.run 0 [some .start, some .settle, some .join]).2.history =
        ServiceState.abruptEnd ∧
      (panicky.run 0 [some .start, some .settle, some .join]).2.outcomes =
        [(2, .failed (.workerAborted (abortReason "boom")))] :=
  ⟨lifecycle_of_evolves untouched_panicky (evolves_run untouched_panicky.regular 0 _),
    by decide +kernel, by decide +kernel⟩

end Life

end Deployment
end FailureDispatch

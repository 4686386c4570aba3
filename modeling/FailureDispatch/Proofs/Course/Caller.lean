import FailureDispatch.Proofs.Course.Calls
import FailureDispatch.Proofs.Course.Worker
import FailureDispatch.Proofs.Queue.Balance

/-!
# What a turn of a caller can do

`CallerTurn` lists all that happens when a caller of a buffered queue has a
turn, just as `WorkerTurn` does for the worker.  A turn ends the call or leaves
it waiting; only a turn that ends a call brings an outcome, and it brings one.

What a doomed call holds is given back at this turn and not before, so a call
that is torn down stands between the others like any other.
-/

namespace FailureDispatch

/-- The service as it was, or as a request to stop leaves it. -/
inductive Service.MaybeStopped (service : Service) : Service → Prop where
  | same : MaybeStopped service service
  | stopped (version : Nat) : MaybeStopped service
      { service with state := service.state.stopped, version, stopRequested := true }

/-- Begin a submission, or go on with it. -/
def SubmissionQueue.attempt (queue : SubmissionQueue Actor Batch) (begun : Bool) (who : Actor)
    (batch : Batch) : Submission × List Actor × SubmissionQueue Actor Batch :=
  if begun then queue.resume who batch else queue.submit who batch

namespace Deployment

/-- The deployment after a call that owns the handle has begun to act. -/
def toldBy (deployment : Deployment) (stopFirst : Bool) : Deployment :=
  if stopFirst then deployment.requestStop else deployment

theorem jobs_report (deployment : Deployment) (id : Nat) (door : Door) (count : Nat) :
    (deployment.report id door (.ok count)).jobs =
      deployment.jobs.filter fun entry => entry.1 != id := by
  cases door with
  | service => rfl
  | runtime =>
      simp only [report, leaveRuntime]
      split
      · simp only [adopt_eq, log, note, finish]
      · rfl

theorem outcomes_report (deployment : Deployment) (id : Nat) (door : Door) (count : Nat) :
    (deployment.report id door (.ok count)).outcomes =
      deployment.outcomes ++ [(id, .drained count)] := by
  cases door with
  | service => rfl
  | runtime =>
      simp only [report, leaveRuntime]
      split
      · simp only [adopt_eq, log, note, finish]
      · rfl

/-- What a caller does in one turn. -/
inductive CallerTurn (before : Deployment) (queue : SubmissionQueue Actor Batch) (id : Nat) :
    Deployment → Prop where
  | absent (gone : before.job? id = none) : CallerTurn before queue id before
  | lingers {call} (job : before.job? id = some ⟨call, false⟩)
      (patient : call.observesState = true ∨
        (call.awaitsWorker = true ∧ before.service.worker.isGone = false)) :
      CallerTurn before queue id before
  | accepted {door batch begun woken next}
      (job : before.job? id = some ⟨.submit door batch begun, false⟩)
      (tried : queue.attempt begun (.caller id) batch = (.accepted, woken, next)) :
      CallerTurn before queue id
        (((before.adopt woken next).note (.accepted batch)).finish id .done)
  | refused {door batch begun error woken next outcome}
      (job : before.job? id = some ⟨.submit door batch begun, false⟩)
      (tried : queue.attempt begun (.caller id) batch = (.refused error, woken, next))
      (failed : outcome = .failed error ∨ outcome = .failedInApp (.domain error)) :
      CallerTurn before queue id
        (((before.adopt woken next).note (.refused batch)).finish id outcome)
  | queues {door batch begun woken next}
      (job : before.job? id = some ⟨.submit door batch begun, false⟩)
      (tried : queue.attempt begun (.caller id) batch = (.waiting, woken, next)) :
      CallerTurn before queue id
        ((before.adopt woken next).setJob id { call := .submit door batch true })
  | withdraws {door batch} (job : before.job? id = some ⟨.submit door batch true, true⟩) :
      CallerTurn before queue id
        ((before.adopt (queue.withdraw (.caller id)).1 (queue.withdraw (.caller id)).2).finish id
          .aborted)
  | catches {call place batch woken next} (job : before.job? id = some ⟨call, false⟩)
      (consumes : call.place? = some place)
      (looked : queue.seek (.caller id) place = (.item batch, woken, next)) :
      CallerTurn before queue id
        (((before.adopt woken next).note (.taken batch)).finish id (.took batch))
  | misses {call place woken next outcome} (job : before.job? id = some ⟨call, false⟩)
      (consumes : call.place? = some place)
      (looked : queue.seek (.caller id) place = (.exhausted, woken, next))
      (failed : outcome = .failed .queueClosed ∨ outcome = .nothing) :
      CallerTurn before queue id ((before.adopt woken next).finish id outcome)
  | stays {call place reached woken next} (job : before.job? id = some ⟨call, false⟩)
      (consumes : call.place? = some place)
      (looked : queue.seek (.caller id) place = (.waiting reached, woken, next)) :
      CallerTurn before queue id
        ((before.adopt woken next).setJob id { call := call.waitingAt reached })
  | departs {call doomed place outcome} (job : before.job? id = some ⟨call, doomed⟩)
      (consumes : call.place? = some place)
      (failed : outcome = .failed .cancelled ∨ outcome = .aborted) :
      CallerTurn before queue id
        ((before.adopt (queue.depart (.caller id) place).1
          (queue.depart (.caller id) place).2).finish id outcome)
  | timesOut {call place reached woken next} (job : before.job? id = some ⟨call, false⟩)
      (consumes : call.place? = some place)
      (looked : queue.seek (.caller id) place = (.waiting reached, woken, next)) :
      CallerTurn before queue id
        (((before.adopt woken next).adopt (next.depart (.caller id) reached).1
          (next.depart (.caller id) reached).2).finish id .nothing)
  | asks {door stopFirst} (job : before.job? id = some ⟨.join door stopFirst, false⟩)
      (going : before.service.worker.isGone = false) :
      CallerTurn before queue id
        ((before.toldBy stopFirst).setJob id { call := .joining door })
  | joins {door stopFirst count} (job : before.job? id = some ⟨.join door stopFirst, false⟩)
      (ended : before.service.worker = .done count) :
      CallerTurn before queue id
        (((before.toldBy stopFirst).setJob id { call := .joining door }).report id door (.ok count))
  | learns {door count} (job : before.job? id = some ⟨.joining door, false⟩)
      (ended : before.service.worker = .done count) :
      CallerTurn before queue id (before.report id door (.ok count))
  | letsGo {door stopFirst} (job : before.job? id = some ⟨.join door stopFirst, true⟩) :
      CallerTurn before queue id (before.requestStop.finish id .aborted)
  | givesUp {call} (job : before.job? id = some ⟨call, true⟩) (free : call.holdsNothing = true) :
      CallerTurn before queue id (before.finish id .aborted)
  | sees {call outcome} (job : before.job? id = some ⟨call, false⟩)
      (observes : call.observesState = true)
      (seen : outcome = .done ∨ (∃ error, outcome = .failed error) ∨
        ∃ state, outcome = .state state) :
      CallerTurn before queue id (before.finish id outcome)

/-! ## Joining -/

theorem toldBy_eq (deployment : Deployment) (stopFirst : Bool) :
    ∃ woken service, ∃ trace : Journal, trace.Plain ∧
      deployment.service.MaybeStopped service ∧
      deployment.toldBy stopFirst =
        { deployment with
          ready := lineUpAll deployment.ready woken
          service
          journal := deployment.journal ++ trace } := by
  cases stopFirst with
  | false => exact ⟨[], deployment.service, [], .nil, .same, by rw [List.append_nil]; rfl⟩
  | true =>
      rcases requestStop_eq deployment with ⟨woken, version, trace, plain, same⟩
      exact ⟨woken, _, trace, plain, .stopped version, same⟩

/-- What learning how the drain went does to the queue: a runtime closes it. -/
def ClosesBy (queue : SubmissionQueue Actor Batch) (door : Door) (woken : List Actor)
    (next : SubmissionQueue Actor Batch) : Prop :=
  (door = .service ∧ woken = [] ∧ next = queue) ∨ (door = .runtime ∧ (woken, next) = queue.close)

/-- The end of a call that learns how the drain went. -/
theorem report_eq {deployment : Deployment} {queue : SubmissionQueue Actor Batch}
    (buffered : deployment.source = .buffered queue) (id : Nat) (door : Door) (count : Nat) :
    ∃ woken next, ∃ trace : Journal, trace.Plain ∧
      ClosesBy queue door woken next ∧
      deployment.report id door (.ok count) =
        ({ deployment with
          ready := lineUpAll deployment.ready woken
          source := .buffered next
          journal := deployment.journal ++ trace } : Deployment).finish id (.drained count) := by
  cases door with
  | service =>
      refine ⟨[], queue, [], .nil, Or.inl ⟨rfl, rfl, rfl⟩, ?_⟩
      simp only [report, ← buffered, List.append_nil]
      rfl
  | runtime =>
      refine ⟨queue.close.1, queue.close.2, [.logged (.disassembled count deployment.service.state)],
        .cons rfl .nil, Or.inr ⟨rfl, rfl⟩, ?_⟩
      simp only [report, leaveRuntime, buffered, adopt_eq, log, note]

/-- A runtime closes the queue when its call ends. -/
theorem closed_report {deployment : Deployment} {queue : SubmissionQueue Actor Batch}
    (buffered : deployment.source = .buffered queue) (id : Nat) {door : Door}
    (through : some door = some .runtime) (count : Nat) :
    ∃ next, (deployment.report id door (.ok count)).source = .buffered next ∧
      next.isOpen = false := by
  cases through
  rcases report_eq buffered id .runtime count with ⟨_, next, _, _, closes, reported⟩
  rcases closes with ⟨impossible, _⟩ | ⟨_, closed⟩
  · cases impossible
  · rcases queue.close_eq with ⟨_, same⟩
    have shut : next = queue.close.2 := congrArg Prod.snd closed
    rw [reported]
    refine ⟨next, rfl, ?_⟩
    rw [shut, same]

section Turns

variable {before : Deployment} {queue : SubmissionQueue Actor Batch} {id : Nat}

theorem worker_toldBy (before : Deployment) (stopFirst : Bool) :
    (before.toldBy stopFirst).service.worker = before.service.worker := by
  rcases toldBy_eq before stopFirst with ⟨woken, service, trace, plain, maybe, same⟩
  rw [same]
  cases maybe with
  | same => rfl
  | stopped version => rfl

theorem advanceJoin_of_going {door : Door} (going : before.service.worker.isGone = false) :
    before.advanceJoin id door = before := by
  unfold advanceJoin
  split
  · next here => rw [here] at going; cases going
  · next here => rw [here] at going; cases going
  · next here => rw [here] at going; cases going
  · rfl

theorem advanceJoin_of_done {door : Door} {count : Nat}
    (ended : before.service.worker = .done count) :
    before.advanceJoin id door = before.report id door (.ok count) := by
  simp only [advanceJoin, ended]

theorem join_turn {door : Door} {stopFirst : Bool} (course : before.service.OnCourse)
    (job : before.job? id = some ⟨.join door stopFirst, false⟩) :
    CallerTurn before queue id (before.advanceCall id (.join door stopFirst)) := by
  have same : before.advanceCall id (.join door stopFirst) =
      ((before.toldBy stopFirst).setJob id { call := .joining door }).advanceJoin id door := rfl
  have worker : ((before.toldBy stopFirst).setJob id { call := .joining door }).service.worker =
      before.service.worker := worker_toldBy before stopFirst
  rw [same]
  cases gone : before.service.worker.isGone with
  | true =>
      rcases course.done_of_isGone gone with ⟨count, ended⟩
      rw [advanceJoin_of_done (worker.trans ended)]
      exact .joins job ended
  | false =>
      rw [advanceJoin_of_going (by rw [worker]; exact gone)]
      exact .asks job gone

theorem joining_turn {door : Door} (course : before.service.OnCourse)
    (job : before.job? id = some ⟨.joining door, false⟩) :
    CallerTurn before queue id (before.advanceCall id (.joining door)) := by
  have same : before.advanceCall id (.joining door) = before.advanceJoin id door := rfl
  rw [same]
  cases gone : before.service.worker.isGone with
  | true =>
      rcases course.done_of_isGone gone with ⟨count, ended⟩
      rw [advanceJoin_of_done ended]
      exact .learns job ended
  | false =>
      rw [advanceJoin_of_going gone]
      exact .lingers job (Or.inr ⟨rfl, gone⟩)

theorem observe_turn {call : Call} (job : before.job? id = some ⟨call, false⟩)
    (observes : call.observesState = true) :
    CallerTurn before queue id (before.advanceCall id call) := by
  cases call with
  | awaitRunning =>
      simp only [advanceCall]
      split
      · exact .lingers job (Or.inl rfl)
      · exact .lingers job (Or.inl rfl)
      · exact .sees job rfl (Or.inl rfl)
      · exact .sees job rfl (Or.inr (Or.inl ⟨_, rfl⟩))
  | awaitTerminated =>
      simp only [advanceCall]
      split
      · exact .sees job rfl (Or.inr (Or.inr ⟨_, rfl⟩))
      · exact .lingers job (Or.inl rfl)
  | _ => cases observes

variable (buffered : before.source = .buffered queue)
include buffered

theorem dismantle_turn {call : Call} (job : before.job? id = some ⟨call, true⟩) :
    CallerTurn before queue id (before.dismantle id call) := by
  cases call with
  | submit door batch begun =>
      cases begun with
      | true =>
          simp only [dismantle, buffered]
          exact .withdraws job
      | false =>
          simp only [dismantle]
          exact .givesUp job rfl
  | consume token place | consumeWithin deadline place =>
      simp only [dismantle, buffered]
      exact .departs job rfl (Or.inr rfl)
  | join door stopFirst =>
      simp only [dismantle]
      exact .letsGo job
  | joining door | awaitRunning | awaitTerminated =>
      simp only [dismantle]
      exact .givesUp job rfl

theorem submit_turn {door : Door} {batch : Batch} {begun : Bool}
    (job : before.job? id = some ⟨.submit door batch begun, false⟩) :
    CallerTurn before queue id (before.advanceCall id (.submit door batch begun)) := by
  have same : before.advanceCall id (.submit door batch begun) =
      (before.adopt (queue.attempt begun (.caller id) batch).2.1
        (queue.attempt begun (.caller id) batch).2.2).settleSubmission id door batch
        (queue.attempt begun (.caller id) batch).1 := by
    simp only [advanceCall, buffered, SubmissionQueue.attempt]
  rw [same]
  rcases tried : queue.attempt begun (.caller id) batch with ⟨_ | error | _, woken, next⟩
  · exact .accepted job tried
  · cases door with
    | service => exact .refused job tried (Or.inl rfl)
    | runtime => exact .refused job tried (Or.inr rfl)
  · exact .queues job tried

theorem consume_turn {token : String} {place : SubmissionQueue.Place}
    (job : before.job? id = some ⟨.consume token place, false⟩) :
    CallerTurn before queue id (before.advanceCall id (.consume token place)) := by
  simp only [advanceCall, buffered]
  split
  · exact .departs job rfl (Or.inl rfl)
  · rcases looked : queue.seek (.caller id) place with ⟨batch | _ | reached, woken, next⟩
    · exact .catches job rfl looked
    · exact .misses job rfl looked (Or.inl rfl)
    · exact .stays job rfl looked

theorem consumeWithin_turn {deadline : Nat} {place : SubmissionQueue.Place}
    (job : before.job? id = some ⟨.consumeWithin deadline place, false⟩) :
    CallerTurn before queue id (before.advanceCall id (.consumeWithin deadline place)) := by
  simp only [advanceCall, buffered]
  rcases looked : queue.seek (.caller id) place with ⟨batch | _ | reached, woken, next⟩
  · exact .catches job rfl looked
  · exact .misses job rfl looked (Or.inr rfl)
  · dsimp only
    split
    · exact .timesOut job rfl looked
    · exact .stays job rfl looked

/-- Every turn of a caller is on the list. -/
theorem advanceCaller_turn (course : before.service.OnCourse) :
    CallerTurn before queue id (before.advanceCaller id) := by
  unfold advanceCaller
  rcases job : before.job? id with _ | ⟨call, doomed⟩
  · exact .absent job
  · cases doomed with
    | true => exact dismantle_turn buffered job
    | false =>
        cases call with
        | submit door batch begun => exact submit_turn buffered job
        | consume token place => exact consume_turn buffered job
        | consumeWithin deadline place => exact consumeWithin_turn buffered job
        | join door stopFirst => exact join_turn course job
        | joining door => exact joining_turn course job
        | awaitRunning => exact observe_turn job rfl
        | awaitTerminated => exact observe_turn job rfl

end Turns

/-! ## What every turn of a caller leaves alone -/

/-- A change that touches neither the clock nor the holder of the handle, and
the service only if the call owns the handle and stops it. -/
def ByCaller (before : Deployment) (id : Nat) (after : Deployment) : Prop :=
  ∃ ready next service jobs outcomes journal,
    before.service.MaybeStopped service ∧
    (service = before.service ∨
      ∃ job, before.job? id = some job ∧ job.call.isJoin = true) ∧
    after = { before with ready, source := .buffered next, service, jobs, outcomes, journal }

theorem ByCaller.quiet (before : Deployment) (id : Nat) (ready : List Actor)
    (next : SubmissionQueue Actor Batch) (jobs : List (Nat × Job))
    (outcomes : List (Nat × Outcome)) (journal : Journal) :
    ByCaller before id
      { before with ready, source := .buffered next, jobs, outcomes, journal } :=
  ⟨ready, next, before.service, jobs, outcomes, journal, .same, Or.inl rfl, rfl⟩

/-- How a turn can end a call.  Whoever joins is aborted or learns the count of
the drain, and nobody else learns it.  A runtime closes the queue then. -/
inductive EndsWith (before after : Deployment) (job : Job) : Outcome → Prop where
  | apart {outcome} (single : job.call.isJoin = false) (other : outcome.isDrained = false) :
      EndsWith before after job outcome
  | aborted : EndsWith before after job .aborted
  | drained {count} (joins : job.call.isJoin = true)
      (ended : before.service.worker = .done count)
      (closes : job.call.door? = some .runtime →
        ∃ next, after.source = .buffered next ∧ next.isOpen = false) :
      EndsWith before after job (.drained count)

section Keeps

variable {before after : Deployment} {queue : SubmissionQueue Actor Batch} {id : Nat}
  (turn : CallerTurn before queue id after)
include turn

theorem CallerTurn.byCaller (buffered : before.source = .buffered queue) :
    ByCaller before id after := by
  have unmoved : before = { before with source := .buffered queue } := by
    rw [← buffered]
  cases turn with
  | absent _ | lingers _ _ =>
      rw [unmoved]
      exact .quiet _ _ _ _ _ _ _
  | accepted _ _ | refused _ _ _ | catches _ _ _ =>
      simp only [adopt_eq, note, finish]
      exact .quiet _ _ _ _ _ _ _
  | queues _ _ | stays _ _ _ =>
      simp only [adopt_eq, setJob]
      exact .quiet _ _ _ _ _ _ _
  | withdraws _ | misses _ _ _ _ | departs _ _ _ | timesOut _ _ _ =>
      simp only [adopt_eq, finish]
      exact .quiet _ _ _ _ _ _ _
  | @asks door stopFirst job _ =>
      rcases toldBy_eq before stopFirst with ⟨woken, service, trace, _, maybe, same⟩
      rw [same, unmoved]
      exact ⟨_, _, _, _, _, _, maybe, Or.inr ⟨_, job, rfl⟩, rfl⟩
  | @joins door stopFirst count job _ =>
      rcases toldBy_eq before stopFirst with ⟨woken, service, trace, _, maybe, same⟩
      have source : ((before.toldBy stopFirst).setJob id { call := .joining door }).source =
          .buffered queue := by
        rw [same]
        exact buffered
      rcases report_eq source id door count with ⟨_, next, _, _, _, reported⟩
      rw [reported, same]
      exact ⟨_, _, _, _, _, _, maybe, Or.inr ⟨_, job, rfl⟩, rfl⟩
  | @learns door count _ _ =>
      rcases report_eq buffered id door count with ⟨_, next, _, _, _, reported⟩
      rw [reported]
      exact .quiet _ _ _ _ _ _ _
  | letsGo job =>
      rcases requestStop_eq before with ⟨woken, version, trace, _, same⟩
      rw [same, unmoved]
      exact ⟨_, _, _, _, _, _, .stopped version, Or.inr ⟨_, job, rfl⟩, rfl⟩
  | givesUp _ _ | sees _ _ _ =>
      rw [unmoved]
      exact .quiet _ _ _ _ _ _ _

/-- No caller moves the worker. -/
theorem CallerTurn.worker_eq (buffered : before.source = .buffered queue) :
    after.service.worker = before.service.worker := by
  rcases turn.byCaller buffered with ⟨_, _, _, _, _, _, maybe, _, same⟩
  rw [same]
  cases maybe <;> rfl

/-- The turn of a caller only lengthens the line. -/
theorem CallerTurn.line (buffered : before.source = .buffered queue) :
    ∃ woken, after.ready = lineUpAll before.ready woken := by
  cases turn with
  | absent _ | lingers _ _ | givesUp _ _ | sees _ _ _ => exact ⟨[], rfl⟩
  | accepted _ _ | refused _ _ _ | catches _ _ _ =>
      simp only [adopt_eq, note, finish]
      exact ⟨_, rfl⟩
  | queues _ _ | stays _ _ _ =>
      simp only [adopt_eq, setJob]
      exact ⟨_, rfl⟩
  | withdraws _ | misses _ _ _ _ | departs _ _ _ =>
      simp only [adopt_eq, finish]
      exact ⟨_, rfl⟩
  | timesOut _ _ _ =>
      simp only [adopt_eq, finish, lineUpAll_lineUpAll]
      exact ⟨_, rfl⟩
  | @asks door stopFirst _ _ =>
      rcases toldBy_eq before stopFirst with ⟨woken, _, _, _, _, same⟩
      rw [same]
      exact ⟨woken, rfl⟩
  | @joins door stopFirst count _ _ =>
      rcases toldBy_eq before stopFirst with ⟨first, _, _, _, _, same⟩
      have source : ((before.toldBy stopFirst).setJob id { call := .joining door }).source =
          .buffered queue := by
        rw [same]
        exact buffered
      rcases report_eq source id door count with ⟨second, _, _, _, _, reported⟩
      rw [reported, same]
      exact ⟨first ++ second, lineUpAll_lineUpAll _ _ _⟩
  | @learns door count _ _ =>
      rcases report_eq buffered id door count with ⟨woken, _, _, _, _, reported⟩
      rw [reported]
      exact ⟨woken, rfl⟩
  | letsGo _ =>
      rcases requestStop_eq before with ⟨woken, _, _, _, same⟩
      rw [same]
      exact ⟨woken, rfl⟩

/-- A call that is still under way after a turn was so before, or has gone on. -/
theorem CallerTurn.jobs (entry : Nat × Job) (member : entry ∈ after.jobs) :
    entry ∈ before.jobs ∨ (entry.1 = id ∧ entry.2.doomed = false ∧
      ∃ job, before.job? id = some job ∧ job.call.Follows entry.2.call) := by
  have told (stopFirst : Bool) : (before.toldBy stopFirst).jobs = before.jobs := by
    rcases toldBy_eq before stopFirst with ⟨_, _, _, _, _, same⟩
    rw [same]
  cases turn with
  | absent _ | lingers _ _ => exact Or.inl member
  | accepted _ _ | refused _ _ _ | catches _ _ _ | withdraws _ | misses _ _ _ _
  | departs _ _ _ | timesOut _ _ _ =>
      simp only [adopt_eq, note] at member
      exact Or.inl (mem_finish.mp member).1
  | queues job _ =>
      simp only [adopt_eq] at member
      rcases mem_setJob member with ⟨old, _⟩ | same
      · exact Or.inl old
      · rw [same]
        exact Or.inr ⟨rfl, rfl, _, job, .submit⟩
  | @stays call place reached woken next job consumes looked =>
      simp only [adopt_eq] at member
      rcases mem_setJob member with ⟨old, _⟩ | same
      · exact Or.inl old
      · rw [same]
        exact Or.inr ⟨rfl, rfl, _, job, .consume reached consumes⟩
  | @asks door stopFirst job _ =>
      rcases mem_setJob member with ⟨old, _⟩ | same
      · rw [told] at old
        exact Or.inl old
      · rw [same]
        exact Or.inr ⟨rfl, rfl, _, job, .join⟩
  | @joins door stopFirst count job _ =>
      rw [jobs_report] at member
      rcases mem_setJob (List.mem_filter.mp member).1 with ⟨old, _⟩ | same
      · rw [told] at old
        exact Or.inl old
      · rw [same]
        exact Or.inr ⟨rfl, rfl, _, job, .join⟩
  | learns _ _ =>
      rw [jobs_report] at member
      exact Or.inl (List.mem_filter.mp member).1
  | letsGo _ =>
      rcases requestStop_eq before with ⟨_, _, _, _, same⟩
      rw [same] at member
      exact Or.inl (mem_finish.mp member).1
  | givesUp _ _ | sees _ _ _ => exact Or.inl (mem_finish.mp member).1

/-- A turn ends at most the call whose turn it is. -/
theorem CallerTurn.outcomes (buffered : before.source = .buffered queue) :
    after.outcomes = before.outcomes ∨ ∃ job outcome, before.job? id = some job ∧
      EndsWith before after job outcome ∧
      after.outcomes = before.outcomes ++ [(id, outcome)] := by
  cases turn with
  | absent _ | lingers _ _ => exact Or.inl rfl
  | queues _ _ | stays _ _ _ =>
      rw [adopt_eq]
      exact Or.inl rfl
  | accepted job _ =>
      rw [adopt_eq]
      exact Or.inr ⟨_, _, job, .apart rfl rfl, rfl⟩
  | refused job _ failed =>
      rw [adopt_eq]
      rcases failed with same | same <;>
        (rw [same]; exact Or.inr ⟨_, _, job, .apart rfl rfl, rfl⟩)
  | withdraws job =>
      rw [adopt_eq]
      exact Or.inr ⟨_, _, job, .aborted, rfl⟩
  | catches job consumes _ =>
      rw [adopt_eq]
      exact Or.inr ⟨_, _, job, .apart (Call.isJoin_of_place? consumes) rfl, rfl⟩
  | misses job consumes _ failed | departs job consumes failed =>
      rw [adopt_eq]
      have single := Call.isJoin_of_place? consumes
      rcases failed with same | same <;>
        (rw [same]; exact Or.inr ⟨_, _, job, .apart single rfl, rfl⟩)
  | timesOut job consumes _ =>
      rw [adopt_eq, adopt_eq]
      exact Or.inr ⟨_, _, job, .apart (Call.isJoin_of_place? consumes) rfl, rfl⟩
  | @asks door stopFirst _ _ =>
      rcases toldBy_eq before stopFirst with ⟨_, _, _, _, _, same⟩
      rw [same]
      exact Or.inl rfl
  | @joins door stopFirst count job ended =>
      rcases toldBy_eq before stopFirst with ⟨_, _, _, _, _, same⟩
      have source : ((before.toldBy stopFirst).setJob id { call := .joining door }).source =
          .buffered queue := by
        rw [same]
        exact buffered
      have outcomes : (before.toldBy stopFirst).outcomes = before.outcomes := by rw [same]
      rw [outcomes_report]
      refine Or.inr ⟨_, _, job, .drained rfl ended ?_, congrArg (· ++ _) outcomes⟩
      intro through
      exact closed_report source id through count
  | @learns door count job ended =>
      rw [outcomes_report]
      refine Or.inr ⟨_, _, job, .drained rfl ended ?_, rfl⟩
      intro through
      exact closed_report buffered id through count
  | letsGo job =>
      rcases requestStop_eq before with ⟨_, _, _, _, same⟩
      rw [same]
      exact Or.inr ⟨_, _, job, .aborted, rfl⟩
  | givesUp job _ => exact Or.inr ⟨_, _, job, .aborted, rfl⟩
  | sees job observes seen =>
      have single := Call.isJoin_of_observesState observes
      rcases seen with same | ⟨error, same⟩ | ⟨state, same⟩ <;>
        (rw [same]; exact Or.inr ⟨_, _, job, .apart single rfl, rfl⟩)

end Keeps

end Deployment
end FailureDispatch

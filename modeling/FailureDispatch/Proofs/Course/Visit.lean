import FailureDispatch.Proofs.Course.Caller
import FailureDispatch.Proofs.Course.Labour

/-!
# What the callers' turns come to

A turn of a caller comes to deeds as well: only a call that owns the handle, or
that joins, does something to the service.  `Visit` says what becomes of the
call whose turn it is, whatever the queue.

A call that joins ends in one of two ways.  It is aborted, or it is told how the
worker ended, and then the service has ended.
-/

namespace FailureDispatch

/-- How the worker ended, as it is told to whoever joins. -/
def Worker.verdict? : Worker → Option (Except FailureError Nat)
  | .done count => some (.ok count)
  | .failed error => some (.error error)
  | .aborted text => some (.error (.workerAborted (Deployment.abortReason text)))
  | _ => none

/-- The worker's result in the form that an interface gives it. -/
def Door.outcome : Door → Except FailureError Nat → Outcome
  | _, .ok count => .drained count
  | .service, .error error => .failed error
  | .runtime, .error error => .failedInApp (.domain error)

namespace Deployment

section Jobs

variable {deployment : Deployment} {id other : Nat}

theorem job?_setJob_of_ne (different : other ≠ id) (job : Job) :
    (deployment.setJob id job).job? other = deployment.job? other := by
  unfold job? setJob
  dsimp only
  induction deployment.jobs with
  | nil => rfl
  | cons entry rest inductionHypothesis =>
      rw [List.map_cons]
      by_cases asked : entry.1 = id
      · have apart : (other == id) = false := beq_false_of_ne different
        rw [if_pos asked, List.lookup_cons, List.lookup_cons, asked, apart]
        exact inductionHypothesis
      · rw [if_neg asked, List.lookup_cons, List.lookup_cons, inductionHypothesis]

theorem job?_finish_of_ne (different : other ≠ id) (outcome : Outcome) :
    (deployment.finish id outcome).job? other = deployment.job? other := by
  unfold job? finish
  dsimp only
  induction deployment.jobs with
  | nil => rfl
  | cons entry rest inductionHypothesis =>
      by_cases asked : entry.1 = id
      · have apart : (other == entry.1) = false := by
          rw [asked]
          exact beq_false_of_ne different
        rw [List.filter_cons_of_neg (by simp [asked]), List.lookup_cons, apart]
        exact inductionHypothesis
      · rw [List.filter_cons_of_pos (by simp [asked]), List.lookup_cons, List.lookup_cons,
          inductionHypothesis]

theorem job?_finish_self (outcome : Outcome) : (deployment.finish id outcome).job? id = none := by
  unfold job?
  apply List.lookup_eq_none_iff.mpr
  intro entry member
  exact bne_iff_ne.mpr (Ne.symm (mem_finish.mp member).2)

/-- A call that ends is forgotten with whatever it had become. -/
theorem finish_setJob (deployment : Deployment) (id : Nat) (job : Job) (outcome : Outcome) :
    ((deployment.setJob id job).finish id outcome).jobs =
      (deployment.finish id outcome).jobs := by
  unfold finish setJob
  dsimp only
  induction deployment.jobs with
  | nil => rfl
  | cons entry rest inductionHypothesis =>
      rw [List.map_cons]
      by_cases asked : entry.1 = id
      · rw [if_pos asked, List.filter_cons_of_neg (by simp),
          List.filter_cons_of_neg (by simp [asked]), inductionHypothesis]
      · rw [if_neg asked, List.filter_cons_of_pos (by simp [asked]),
          List.filter_cons_of_pos (by simp [asked]), inductionHypothesis]

end Jobs

/-! ## Visits -/

/-- How a call can end.  Whoever joins is told of a service that has ended. -/
inductive Concludes (service : Service) : Job → Outcome → Prop where
  | apart {job outcome} (single : job.call.isJoin = false) : Concludes service job outcome
  | aborted {call} : Concludes service ⟨call, true⟩ .aborted
  | told {call door result} (asked : call.door? = some door)
      (verdict : service.worker.verdict? = some result)
      (ended : service.state.isTerminal = true) :
      Concludes service ⟨call, false⟩ (door.outcome result)

/-- What becomes of the call whose turn it is. -/
inductive Visit (before : Deployment) (id : Nat) (after : Deployment) : Prop where
  | rests (jobs : after.jobs = before.jobs) (outcomes : after.outcomes = before.outcomes)
      (patient : ∀ job, before.job? id = some job → job.call.isJoin = true →
        job.call.awaitsWorker = true ∧ before.service.worker.isGone = false)
  | stays {call later} (known : before.job? id = some ⟨call, false⟩) (follows : call.Follows later)
      (jobs : after.jobs = (before.setJob id { call := later }).jobs)
      (outcomes : after.outcomes = before.outcomes)
      (patient : call.isJoin = true → before.service.worker.isGone = false)
  | ends {job outcome} (known : before.job? id = some job)
      (concludes : Concludes after.service job outcome)
      (jobs : after.jobs = (before.finish id outcome).jobs)
      (outcomes : after.outcomes = before.outcomes ++ [(id, outcome)])

/-- A turn of a caller, which leaves the worker where it is. -/
structure Visits (before : Deployment) (id : Nat) (after : Deployment) : Prop
    extends Unfolds before after where
  worker : after.service.worker = before.service.worker
  visit : Visit before id after

section Visits

variable {before middle : Deployment} {id : Nat} (works : Works before middle)
  (still : middle.service.worker = before.service.worker)
include works still

/-- The call ends, after something else has been done. -/
theorem Works.finishes {job : Job} {outcome : Outcome} (known : before.job? id = some job)
    (concludes : Concludes middle.service job outcome) :
    Visits before id (middle.finish id outcome) where
  deeds := works.deeds
  held := works.held
  line := works.line
  worker := still
  visit := by
    refine .ends known concludes ?_ ?_
    · simp only [finish, works.jobs]
    · simp only [finish, works.outcomes]

/-- The call goes on, after something else has been done. -/
theorem Works.lingers {call later : Call} (known : before.job? id = some ⟨call, false⟩)
    (follows : call.Follows later)
    (patient : call.isJoin = true → before.service.worker.isGone = false) :
    Visits before id (middle.setJob id { call := later }) where
  deeds := works.deeds
  held := works.held
  line := works.line
  worker := still
  visit := by
    refine .stays known follows ?_ works.outcomes patient
    simp only [setJob, works.jobs]

end Visits

theorem Visits.rests {before : Deployment} {id : Nat}
    (patient : ∀ job, before.job? id = some job → job.call.isJoin = true →
      job.call.awaitsWorker = true ∧ before.service.worker.isGone = false) :
    Visits before id before :=
  ⟨.refl before, rfl, .rests rfl rfl patient⟩

/-! ## What a call does besides -/

theorem works_note (deployment : Deployment) {entry : Occurrence}
    (aside : Journal.Aside [entry]) : Works deployment (deployment.note entry) :=
  works_aside deployment.source deployment.gates [] deployment aside

theorem works_log (deployment : Deployment) {notice : Notice}
    (unsized : (Occurrence.logged notice).size? = none) :
    Works deployment (deployment.log notice) :=
  works_note deployment ⟨⟨rfl, rfl⟩, by rw [Journal.sizes, List.filterMap_cons, unsized]; rfl⟩

/-- The first request to stop leaves its trace, with the statistics as they are then, and
wakes those who wait for a state. -/
theorem requestStop_moves {deployment : Deployment}
    (can : deployment.service.state.canBecome .stopping = true) :
    ∃ woken, deployment.callersWith Call.observesState ⊆ woken ∧
      ∃ present : Deployment,
        deployment.requestStop =
          { deployment with
            ready := lineUpAll deployment.ready woken
            service := { deployment.service.entering .stopping with stopRequested := true }
            journal := deployment.journal ++ stopTrace (present.figures stopTag) } := by
  simp only [requestStop, enter_of_canBecome can]
  generalize moved : ({ deployment with
      ready := lineUpAll deployment.ready (deployment.callersWith Call.observesState)
      service :=
        { deployment.service with
          state := .stopping, version := deployment.service.version + 1 }
      journal := deployment.journal ++ [.entered .stopping] } : Deployment) = entered
  rcases cancelWorker_eq entered with ⟨woken, _, told⟩
  refine ⟨deployment.callersWith Call.observesState ++ woken, List.subset_append_left _ _,
    entered.cancelWorker.log .stopRequested, ?_⟩
  rw [requestStats_eq, told, ← moved]
  simp only [log, note, lineUpAll_lineUpAll, List.append_assoc, List.cons_append,
    List.nil_append, stopTrace, Service.entering]

/-- The first request to stop leaves its trace. -/
theorem requestStop_of_can {deployment : Deployment}
    (can : deployment.service.state.canBecome .stopping = true) :
    ∃ woken, ∃ figures : Occurrence, figures.Reports stopTag ∧
      deployment.requestStop =
        { deployment with
          ready := lineUpAll deployment.ready woken
          service := { deployment.service.entering .stopping with stopRequested := true }
          journal := deployment.journal ++ stopTrace figures } := by
  rcases requestStop_moves can with ⟨woken, _, present, same⟩
  exact ⟨woken, _, reports_figures present stopTag, same⟩

/-- A later request only sets the mark. -/
theorem requestStop_of_cannot {deployment : Deployment}
    (cannot : deployment.service.state.canBecome .stopping = false) :
    ∃ woken, deployment.requestStop =
      { deployment with
        ready := lineUpAll deployment.ready woken
        service := { deployment.service with stopRequested := true } } := by
  simp only [requestStop, enter_of_cannot cannot]
  rcases cancelWorker_eq deployment with ⟨woken, _, told⟩
  exact ⟨woken, told⟩

theorem works_requestStop {deployment : Deployment} (started : deployment.service.state ≠ .new) :
    Works deployment deployment.requestStop ∧
      deployment.requestStop.service.worker = deployment.service.worker := by
  cases can : deployment.service.state.canBecome .stopping with
  | true =>
      rcases requestStop_of_can can with ⟨woken, figures, reports, same⟩
      rw [same]
      exact ⟨works_of_deed deployment.source deployment.gates woken (.stops can reports) rfl, rfl⟩
  | false =>
      rcases requestStop_of_cannot can with ⟨woken, same⟩
      have works := works_of_deed deployment.source deployment.gates woken
        (.stopsAgain can started) rfl
      rw [List.append_nil] at works
      rw [same]
      exact ⟨works, rfl⟩

/-- Telling a caller how the worker ended. -/
theorem report_eq_finish (deployment : Deployment) (id : Nat) (door : Door)
    (result : Except FailureError Nat) :
    ∃ closed, Works deployment closed ∧ closed.service = deployment.service ∧
      deployment.report id door result = closed.finish id (door.outcome result) := by
  cases door with
  | service => cases result <;> exact ⟨deployment, .refl deployment, rfl, rfl⟩
  | runtime =>
      unfold report leaveRuntime
      cases deployment.source with
      | buffered queue =>
          have works := works_adopt deployment queue.close.1 queue.close.2
          have service :
              (deployment.adopt queue.close.1 queue.close.2).service = deployment.service := by
            rw [adopt_eq]
          cases result with
          | ok count => exact ⟨_, works.trans (works_log _ rfl), service, rfl⟩
          | error error => exact ⟨_, works, service, rfl⟩
      | scripted queue =>
          cases result with
          | ok count => exact ⟨_, works_log deployment rfl, rfl, rfl⟩
          | error error => exact ⟨deployment, .refl deployment, rfl, rfl⟩

/-- Whoever joins after the worker has ended finds a service that has ended, or
sees to it that it has. -/
theorem advanceJoin_eq_report {deployment : Deployment} (lawful : deployment.service.Lawful)
    (gone : deployment.service.worker.isGone = true) (id : Nat) (door : Door) :
    ∃ found result, Works deployment found ∧
      found.service.worker = deployment.service.worker ∧
      deployment.service.worker.verdict? = some result ∧
      found.service.state.isTerminal = true ∧
      deployment.advanceJoin id door = found.report id door result := by
  unfold advanceJoin
  cases here : deployment.service.worker with
  | done count =>
      have standing := lawful.at_worker here
      exact ⟨deployment, .ok count, .refl deployment, here, rfl, by rw [standing.1]; rfl, rfl⟩
  | failed error =>
      have standing := lawful.at_worker here
      exact ⟨deployment, .error error, .refl deployment, here, rfl, by rw [standing.1]; rfl, rfl⟩
  | aborted text =>
      cases can : deployment.service.state.canBecome .failed with
      | true =>
          refine ⟨_, _, works_of_deed deployment.source deployment.gates
            (deployment.callersWith Call.observesState) (.buries here can) rfl, here, rfl, rfl, ?_⟩
          rw [enter_of_canBecome can]
          rfl
      | false =>
          have ended : deployment.service.state.isTerminal = true := by
            cases state : deployment.service.state <;>
              first | rfl | (rw [state] at can; cases can)
          refine ⟨_, _, .refl deployment, here, rfl, ended, ?_⟩
          rw [enter_of_cannot can]
  | _ =>
      rw [here] at gone
      cases gone

theorem advanceJoin_of_gone {deployment : Deployment} (lawful : deployment.service.Lawful)
    (gone : deployment.service.worker.isGone = true) (id : Nat) (door : Door) :
    ∃ seen result, Works deployment seen ∧
      seen.service.worker = deployment.service.worker ∧
      seen.service.worker.verdict? = some result ∧ seen.service.state.isTerminal = true ∧
      deployment.advanceJoin id door = seen.finish id (door.outcome result) := by
  rcases advanceJoin_eq_report lawful gone id door with
    ⟨found, result, works, still, verdict, ended, reported⟩
  rcases report_eq_finish found id door result with ⟨closed, closes, same, finished⟩
  refine ⟨closed, result, works.trans closes, ?_, ?_, ?_, reported.trans finished⟩
  · rw [same]
    exact still
  · rw [same, still]
    exact verdict
  · rw [same]
    exact ended

/-! ## All turns -/

section Turns

variable {before : Deployment} {id : Nat}

theorem visits_joining {door : Door} (lawful : before.service.Lawful)
    (known : before.job? id = some ⟨.joining door, false⟩) :
    Visits before id (before.advanceJoin id door) := by
  cases gone : before.service.worker.isGone with
  | true =>
      rcases advanceJoin_of_gone lawful gone id door with
        ⟨seen, result, works, still, verdict, ended, finished⟩
      rw [finished]
      exact works.finishes still known (.told rfl verdict ended)
  | false =>
      rw [advanceJoin_of_going gone]
      apply Visits.rests
      intro job present _
      rw [known] at present
      cases present
      exact ⟨rfl, gone⟩

/-- The call that was given the handle learns at once how the worker ended, or
waits from then on. -/
theorem visits_join {door : Door} {stopFirst : Bool} (lawful : before.service.Lawful)
    (started : before.service.state ≠ .new)
    (known : before.job? id = some ⟨.join door stopFirst, false⟩) :
    Visits before id (before.advanceCall id (.join door stopFirst)) := by
  have told : Works before (before.toldBy stopFirst) ∧
      (before.toldBy stopFirst).service.worker = before.service.worker := by
    cases stopFirst with
    | true => exact works_requestStop started
    | false => exact ⟨.refl before, rfl⟩
  rcases told with ⟨works, still⟩
  generalize waiting : (before.toldBy stopFirst).setJob id { call := .joining door } = asked
  have same : before.advanceCall id (.join door stopFirst) = asked.advanceJoin id door := by
    rw [← waiting]
    rfl
  have there : asked.service.worker = before.service.worker := by
    rw [← waiting]
    exact still
  rw [same]
  cases gone : before.service.worker.isGone with
  | true =>
      have began : Unfolds before asked := by
        rw [← waiting]
        exact ⟨works.deeds, works.held, works.line⟩
      rcases began.deeds with ⟨trace, deeds, _⟩
      rcases advanceJoin_of_gone (deeds.lawful lawful) (by rw [there]; exact gone) id door with
        ⟨seen, result, joins, stays, verdict, ended, finished⟩
      have through := began.trans joins.toUnfolds
      rw [finished]
      refine ⟨⟨through.deeds, through.held, through.line⟩, stays.trans there, ?_⟩
      refine .ends known (.told rfl verdict ended) ?_ ?_
      · have jobs : seen.jobs =
            ((before.toldBy stopFirst).setJob id { call := .joining door }).jobs := by
          rw [joins.jobs, ← waiting]
        have forgotten := finish_setJob (before.toldBy stopFirst) id { call := .joining door }
          (door.outcome result)
        simp only [finish] at forgotten ⊢
        rw [jobs, forgotten, works.jobs]
      · have outcomes : seen.outcomes = before.outcomes := by
          rw [joins.outcomes, ← waiting]
          exact works.outcomes
        simp only [finish, outcomes]
  | false =>
      rw [advanceJoin_of_going (by rw [there]; exact gone), ← waiting]
      exact works.lingers still known .join fun _ => gone

theorem visits_dismantle {call : Call} (started : call.isJoin = true → before.service.state ≠ .new)
    (known : before.job? id = some ⟨call, true⟩) :
    Visits before id (before.dismantle id call) := by
  have freed (woken : List Actor) (queue : SubmissionQueue Actor Batch) :
      Visits before id ((before.adopt woken queue).finish id .aborted) :=
    (works_adopt before woken queue).finishes (by rw [adopt_eq]) known .aborted
  have quiet : Visits before id (before.finish id .aborted) :=
    (Works.refl before).finishes rfl known .aborted
  unfold dismantle
  cases call with
  | submit door batch begun =>
      cases begun with
      | true =>
          cases before.source with
          | buffered queue => exact freed _ _
          | scripted queue => exact quiet
      | false => exact quiet
  | consume token place | consumeWithin deadline place =>
      cases before.source with
      | buffered queue => exact freed _ _
      | scripted queue => exact quiet
  | join door stopFirst =>
      rcases works_requestStop (started rfl) with ⟨works, still⟩
      exact works.finishes still known .aborted
  | joining door | awaitRunning | awaitTerminated => exact quiet

section Apart

variable {call : Call} (single : call.isJoin = false)
  (known : before.job? id = some ⟨call, false⟩)
include single known

theorem visits_rests_apart : Visits before id before := by
  apply Visits.rests
  intro job present joins
  rw [known] at present
  cases present
  rw [single] at joins
  cases joins

/-- The call ends after it has used the queue. -/
theorem visits_finish_apart (woken : List Actor) (queue : SubmissionQueue Actor Batch)
    (outcome : Outcome) : Visits before id ((before.adopt woken queue).finish id outcome) :=
  (works_adopt before woken queue).finishes (by rw [adopt_eq]) known (.apart single)

/-- The call ends after it has used the queue, and this is recorded. -/
theorem visits_finish_note_apart (woken : List Actor) (queue : SubmissionQueue Actor Batch)
    {entry : Occurrence} (aside : Journal.Aside [entry]) (outcome : Outcome) :
    Visits before id (((before.adopt woken queue).note entry).finish id outcome) :=
  ((works_adopt before woken queue).trans (works_note _ aside)).finishes
    (by rw [adopt_eq]; rfl) known (.apart single)

/-- The call waits on after it has used the queue. -/
theorem visits_setJob_apart (woken : List Actor) (queue : SubmissionQueue Actor Batch)
    {later : Call} (follows : call.Follows later) :
    Visits before id ((before.adopt woken queue).setJob id { call := later }) := by
  apply (works_adopt before woken queue).lingers (by rw [adopt_eq]) known follows
  intro joins
  rw [single] at joins
  cases joins

end Apart

theorem visits_submit {door : Door} {batch : Batch} {begun : Bool}
    (known : before.job? id = some ⟨.submit door batch begun, false⟩) :
    Visits before id (before.advanceCall id (.submit door batch begun)) := by
  unfold advanceCall
  cases before.source with
  | scripted queue => exact visits_rests_apart rfl known
  | buffered queue =>
      dsimp only
      rcases (if begun = true then queue.resume (.caller id) batch
        else queue.submit (.caller id) batch) with ⟨_ | error | _, woken, next⟩
      · exact visits_finish_note_apart rfl known woken next ⟨⟨rfl, rfl⟩, rfl⟩ _
      · exact visits_finish_note_apart rfl known woken next ⟨⟨rfl, rfl⟩, rfl⟩ _
      · exact visits_setJob_apart rfl known woken next .submit

theorem visits_consume {token : String} {place : SubmissionQueue.Place}
    (known : before.job? id = some ⟨.consume token place, false⟩) :
    Visits before id (before.advanceCall id (.consume token place)) := by
  unfold advanceCall
  cases before.source with
  | scripted queue => exact visits_rests_apart rfl known
  | buffered queue =>
      dsimp only
      split
      · exact visits_finish_apart rfl known _ _ _
      · rcases queue.seek (.caller id) place with ⟨batch | _ | reached, woken, next⟩
        · exact visits_finish_note_apart rfl known woken next ⟨⟨rfl, rfl⟩, rfl⟩ _
        · exact visits_finish_apart rfl known woken next _
        · exact visits_setJob_apart rfl known woken next (.consume reached rfl)

theorem visits_consumeWithin {deadline : Nat} {place : SubmissionQueue.Place}
    (known : before.job? id = some ⟨.consumeWithin deadline place, false⟩) :
    Visits before id (before.advanceCall id (.consumeWithin deadline place)) := by
  unfold advanceCall
  cases before.source with
  | scripted queue => exact visits_rests_apart rfl known
  | buffered queue =>
      dsimp only
      rcases queue.seek (.caller id) place with ⟨batch | _ | reached, woken, next⟩
      · exact visits_finish_note_apart rfl known woken next ⟨⟨rfl, rfl⟩, rfl⟩ _
      · exact visits_finish_apart rfl known woken next _
      · dsimp only
        split
        · have finishes := visits_finish_apart rfl known
            (woken ++ (next.depart (.caller id) reached).1)
            (next.depart (.caller id) reached).2 .nothing
          rw [adopt_eq] at finishes
          simp only [adopt_eq, lineUpAll_lineUpAll]
          exact finishes
        · exact visits_setJob_apart rfl known woken next (.consume reached rfl)

theorem visits_observe {call : Call} (observes : call.observesState = true)
    (known : before.job? id = some ⟨call, false⟩) :
    Visits before id (before.advanceCall id call) := by
  have single := Call.isJoin_of_observesState observes
  have finishes (outcome : Outcome) : Visits before id (before.finish id outcome) :=
    (Works.refl before).finishes rfl known (.apart single)
  have rests := visits_rests_apart single known
  unfold advanceCall
  cases call with
  | awaitRunning =>
      dsimp only
      split <;> first | exact rests | exact finishes _
  | awaitTerminated =>
      dsimp only
      split <;> first | exact rests | exact finishes _
  | _ => cases observes

/-- Every turn of a caller comes to deeds and to a visit. -/
theorem visits_advanceCaller (lawful : before.service.Lawful)
    (started : ∀ entry ∈ before.jobs, entry.2.call.isJoin = true → before.service.state ≠ .new) :
    Visits before id (before.advanceCaller id) := by
  unfold advanceCaller
  rcases known : before.job? id with _ | ⟨call, doomed⟩
  · apply Visits.rests
    intro job present
    rw [known] at present
    cases present
  · have begun := started _ (mem_of_job? known)
    cases doomed with
    | true => exact visits_dismantle begun known
    | false =>
        cases call with
        | join door stopFirst => exact visits_join lawful (begun rfl) known
        | joining door => exact visits_joining lawful known
        | submit door batch begun => exact visits_submit known
        | consume token place => exact visits_consume known
        | consumeWithin deadline place => exact visits_consumeWithin known
        | awaitRunning | awaitTerminated => exact visits_observe rfl known

end Turns

end Deployment
end FailureDispatch

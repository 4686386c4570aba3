import FailureDispatch.Proofs.Dispatch.Order
import FailureDispatch.Proofs.Drain.Attendance

/-!
# The count of a drain

A drain counts the batches that it takes.  A worker takes none for its main
loop once the request to stop has been made, so all that it takes from then on
belongs to the drain, and the count is how many batches have left the queue
since the request.

`Counted` follows the count while the drain goes on: a batch belongs to it from
the moment in which it is taken, although the worker adds it only when its
dispatch is over.  A batch that was in hand when the request came has left the
queue before it and is never added.
-/

namespace FailureDispatch

/-- How many batches a drain in this phase has taken. -/
def Phase.drained : Phase → Nat
  | .main => 0
  | .drain count => count + 1

namespace Worker

/-- How many batches the drain has taken. -/
def drained : Worker → Nat
  | .draining count | .drainFetching count _ _ | .done count => count
  | .dispatching phase _ => phase.drained
  | _ => 0

/-- The count with which the drain has ended. -/
def declared : Worker → Nat
  | .done count => count
  | _ => 0

end Worker

namespace Phase

theorem drained_resume (phase : Phase) : phase.resume.drained = phase.drained := by
  cases phase <;> rfl

theorem declared_resume (phase : Phase) : phase.resume.declared = 0 := by
  cases phase <;> rfl

end Phase

namespace Opens

variable {staff : Staff} {batch : Batch} {phase : Phase} {stretch : Account} {worker : Worker}
  (opens : Opens staff batch phase stretch worker)
include opens

theorem drained_eq : worker.drained = phase.drained := by
  cases opens with
  | discards => exact phase.drained_resume
  | calls _ _ => rfl

theorem declared_eq : worker.declared = 0 := by
  cases opens with
  | discards => exact phase.declared_resume
  | calls _ _ => rfl

end Opens

theorem Service.Seeks.declared_eq {service : Service} {phase : Phase}
    {place : SubmissionQueue.Place} (seeks : service.Seeks phase place) :
    service.worker.declared = 0 := by
  cases seeks with
  | main here _ =>
      rw [here]
      rfl
  | drain here =>
      rw [here]
      rfl

/-- A service that has not been asked to stop drains nothing. -/
theorem Service.OnCourse.drained_eq {service : Service} (course : service.OnCourse)
    (untold : service.stopRequested = false) : service.worker.drained = 0 := by
  have stands := course.at_home
  rcases course with ⟨home, known, _⟩
  cases here : service.worker with
  | draining count | done count =>
      rw [here] at stands
      have told := (stands _ rfl).2
      rw [untold] at told
      cases told
  | drainFetching count deadline fetch =>
      rw [here] at stands known
      cases fetch with
      | queued place =>
          have told := (stands _ rfl).2
          rw [untold] at told
          cases told
      | delayed _ _ | forStop => cases known
  | dispatching phase dispatch =>
      cases phase with
      | main => rfl
      | drain count =>
          rw [here] at stands
          have told := (stands _ rfl).2
          rw [untold] at told
          cases told
  | _ => rfl

/-- A worker does not end before the request to stop. -/
theorem Service.OnCourse.isGone_eq {service : Service} (course : service.OnCourse)
    (untold : service.stopRequested = false) : service.worker.isGone = false := by
  cases gone : service.worker.isGone with
  | false => rfl
  | true =>
      rcases course.done_of_isGone gone with ⟨count, done⟩
      have stands := course.at_home .terminated (by rw [done]; rfl)
      have told := stands.2
      rw [untold] at told
      cases told

namespace Deployment

/-! ## Moves with and without the worker -/

/-- A move in which the worker has no part.  Nobody takes a batch, and who
learns how the drain went learns it from a worker that is done. -/
structure Bypasses (before after : Deployment) : Prop where
  worker : after.service.worker = before.service.worker ∨
    (before.service.worker = .idle ∧ after.service.worker = .fresh)
  told : before.service.stopRequested = true → after.service.stopRequested = true
  journal : ∃ trace : Journal, trace.Clerical ∧ trace.taken = [] ∧
    after.journal = before.journal ++ trace
  outcomes : ∀ ended ∈ after.outcomes, ended ∈ before.outcomes ∨
    ∀ count, ended.2 = .drained count → before.service.worker = .done count

inductive Moved (before : Deployment) (queue : SubmissionQueue Actor Batch) :
    Deployment → Prop where
  | works {progress woken next service trace} (gates : List (String × Permits Actor))
      (turn : WorkerTurn before queue progress woken next service trace) :
      Moved before queue ((before.worked woken next service gates trace).afterTurn progress)
  | bypasses {after} (bypasses : Bypasses before after) : Moved before queue after

section Moves

variable {before after : Deployment} {queue : SubmissionQueue Actor Batch}

theorem Bypasses.quiet (worker : after.service = before.service)
    (journal : after.journal = before.journal) (outcomes : after.outcomes = before.outcomes) :
    Bypasses before after where
  worker := by rw [worker]; exact Or.inl rfl
  told := by rw [worker]; exact id
  journal := ⟨[], Journal.Plain.nil.clerical, rfl, by rw [journal, List.append_nil]⟩
  outcomes := by
    intro ended member
    rw [outcomes] at member
    exact Or.inl member

theorem SoleConsumer.bypasses {id : Nat} (sole : before.SoleConsumer)
    (turn : CallerTurn before queue id after) (buffered : before.source = .buffered queue) :
    Bypasses before after := by
  rcases turn.byCaller buffered with ⟨_, _, service, _, _, _, maybe, _, same⟩
  have service : after.service = service := by rw [same]
  refine ⟨?_, ?_, ?_, ?_⟩
  · rw [service]
    cases maybe <;> exact Or.inl rfl
  · rw [service]
    cases maybe with
    | same => exact fun told => told
    | stopped version => exact fun _ => rfl
  · rcases turn.accounts buffered with ⟨trace, accounts, clerical, ends⟩
    refine ⟨trace, clerical, ?_, accounts.journal⟩
    rcases ends with ⟨_, _, taken⟩ | ⟨job, outcome, present, _, _, taken, single⟩
    · exact taken
    · rcases single with nothing | consumes
      · rw [taken, nothing]
      · rw [sole.apart _ (mem_of_job? present)] at consumes
        cases consumes
  · intro ended member
    rcases turn.outcomes buffered with outcomes | ⟨job, outcome, _, endsWith, outcomes⟩
    · rw [outcomes] at member
      exact Or.inl member
    · rw [outcomes] at member
      rcases List.mem_append.mp member with old | new
      · exact Or.inl old
      · rw [List.mem_singleton.mp new]
        refine Or.inr ?_
        intro count drained
        cases endsWith with
        | apart single other =>
            rw [show outcome = .drained count from drained] at other
            cases other
        | aborted => cases drained
        | drained joins ended =>
            cases drained
            exact ended

theorem Outside.bypasses (outside : Outside before queue after) (sound : before.OnCourse)
    (buffered : before.source = .buffered queue) : Bypasses before after := by
  refine ⟨?_, ?_, ?_, ?_⟩
  · cases outside with
    | aside _ _ _ _ => exact Or.inl rfl
    | accepts _ | refuses _ | closes =>
        rw [adopt_eq]
        exact Or.inl rfl
    | starts new => exact Or.inr ⟨(sound.course.idle_of_new new).1, rfl⟩
    | stops holder _ =>
        rcases requestStop_eq { before with holder } with ⟨_, _, _, _, same⟩
        rw [same]
        exact Or.inl rfl
  · cases outside with
    | aside _ _ _ _ | starts _ => exact id
    | accepts _ | refuses _ | closes =>
        rw [adopt_eq]
        exact id
    | stops holder _ =>
        rcases requestStop_eq { before with holder } with ⟨_, _, _, _, same⟩
        rw [same]
        exact fun _ => rfl
  · rcases outside.accounts buffered with ⟨trace, accounts, clerical, taken⟩
    exact ⟨trace, clerical, taken, accounts.journal⟩
  · intro ended member
    rw [outside.outcomes] at member
    exact Or.inl member

/-- Every move is one or the other. -/
theorem Move.moved (move : Move false before after) (sound : before.OnCourse)
    (sole : before.SoleConsumer) (buffered : before.source = .buffered queue) :
    Moved before queue after := by
  cases move with
  | turn =>
      have turned := tick_turned buffered sound.course
      generalize before.tick = after at turned ⊢
      cases turned with
      | nobody => exact .bypasses (.quiet rfl rfl rfl)
      | worker gates _ turn => exact .works gates turn
      | caller _ turn =>
          have bypasses := sole.bypasses turn buffered
          exact .bypasses ⟨bypasses.worker, bypasses.told, bypasses.journal, bypasses.outcomes⟩
  | begins _ _ | abort _ =>
      rw [wake_eq]
      exact .bypasses (.quiet rfl rfl rfl)
  | act act => exact .bypasses ((act.outside buffered).bypasses sound buffered)

end Moves

/-! ## Turns of the worker -/

section Turns

variable {before : Deployment} {queue next : SubmissionQueue Actor Batch} {progress : Progress}
  {woken : List Actor} {service : Service} {trace : Journal}
  (turn : WorkerTurn before queue progress woken next service trace)
include turn

/-- The worker does not stop itself. -/
theorem WorkerTurn.told_eq : service.stopRequested = before.service.stopRequested := by
  cases turn <;> rfl

/-- Once the request to stop has been made, what the worker takes is drained. -/
theorem WorkerTurn.drained_eq (told : before.service.stopRequested = true) :
    service.worker.drained = before.service.worker.drained + trace.taken.length := by
  cases turn with
  | rests _ => rfl
  | startsUp here _ | startsLate here _ | turnsToQueue here _ _ | leavesLoop here _
  | interrupted here _ | unparks here _ | drainWaits here _ _ | turnsToDrain here
  | completes here _ =>
      rw [here]
      rfl
  | shutOut seeks _ | waits seeks _ =>
      cases seeks with
      | main _ untold =>
          rw [told] at untold
          cases untold
  | @takes _ _ batch _ _ _ stretch seeks _ opens ofDispatch _ =>
      cases seeks with
      | main _ untold =>
          rw [told] at untold
          cases untold
      | drain here =>
          have taken :
              Journal.taken (.contact (.gives batch) :: .taken batch :: stretch.trace) = [batch] :=
            congrArg (batch :: ·) ofDispatch.taken_eq
          rw [opens.drained_eq, here, taken]
          rfl
  | dispatches here _ inner _ =>
      rw [here, inner.ofDispatch.taken_eq]
      rfl
  | @finishes phase _ here _ =>
      rw [here]
      exact phase.drained_resume

/-- Once the request to stop has been made, only the drain takes batches. -/
theorem WorkerTurn.taken_of_told (told : before.service.stopRequested = true) :
    trace.taken = [] ∨ ∃ count deadline place,
      before.service.worker = .drainFetching count deadline (.queued place) := by
  cases turn with
  | takes seeks _ _ _ _ =>
      cases seeks with
      | main _ untold =>
          rw [told] at untold
          cases untold
      | drain here => exact Or.inr ⟨_, _, _, here⟩
  | dispatches _ _ inner _ => exact Or.inl inner.ofDispatch.taken_eq
  | _ => exact Or.inl rfl

/-- The counter is raised once, by the count with which the drain ends. -/
theorem WorkerTurn.declared_eq :
    before.service.worker.declared + trace.tally .drained = service.worker.declared := by
  cases turn with
  | rests _ => rfl
  | startsUp here _ | startsLate here _ | turnsToQueue here _ _ | leavesLoop here _
  | interrupted here _ | unparks here _ | drainWaits here _ _ | turnsToDrain here =>
      rw [here]
      rfl
  | shutOut seeks _ | waits seeks _ =>
      rw [seeks.declared_eq]
      rfl
  | @takes _ _ batch _ _ _ stretch seeks _ opens ofDispatch _ =>
      have tally :
          Journal.tally .drained (.contact (.gives batch) :: .taken batch :: stretch.trace) = 0 :=
        ofDispatch.tally_drained_eq
      rw [seeks.declared_eq, tally]
      exact opens.declared_eq.symm
  | dispatches here _ inner _ =>
      rw [here, inner.ofDispatch.tally_drained_eq]
      rfl
  | @finishes phase _ here _ =>
      rw [here]
      exact phase.declared_resume.symm
  | @completes count _ _ _ _ here _ =>
      rw [here]
      exact Nat.zero_add count

/-- A worker that is done stays done. -/
theorem WorkerTurn.done_eq {count : Nat} (done : before.service.worker = .done count) :
    service.worker = .done count := by
  have gone : before.service.worker.isGone = true := by
    rw [done]
    rfl
  rw [(turn.rests_of_gone gone).2.1]
  exact done

end Turns

/-! ## The count -/

/-- What the worker, its counter and the outcomes of calls say about the count
is the same. -/
structure Declares (deployment : Deployment) : Prop where
  tally : deployment.service.worker.declared = deployment.journal.tally .drained
  outcomes : ∀ ended ∈ deployment.outcomes, ∀ count, ended.2 = .drained count →
    deployment.service.worker = .done count

/-- How far a drain has come since the request to stop, at which so many batches
had been taken and these had been accepted. -/
structure Counted (earlier : Nat) (asked : List Batch) (deployment : Deployment) : Prop where
  told : deployment.service.stopRequested = true
  taken : deployment.journal.taken.length = earlier + deployment.service.worker.drained
  accepted : asked <+: deployment.journal.accepted
  exhausted : deployment.service.worker.isGone = true → asked <+: deployment.journal.taken

section Counts

variable {before after : Deployment} {queue : SubmissionQueue Actor Batch}

theorem Declares.moved (declares : before.Declares) (moved : Moved before queue after) :
    after.Declares := by
  cases moved with
  | @works progress woken next service trace gates turn =>
      have tally : service.worker.declared = (before.journal ++ trace).tally .drained := by
        rw [Journal.tally_append, ← declares.tally]
        exact turn.declared_eq.symm
      have outcomes (ended) (member : ended ∈ before.outcomes) (count : Nat)
          (drained : ended.2 = .drained count) : service.worker = .done count :=
        turn.done_eq (declares.outcomes ended member count drained)
      cases progress <;> exact ⟨tally, outcomes⟩
  | bypasses bypasses =>
      rcases bypasses with ⟨worker, _, ⟨trace, clerical, _, journal⟩, outcomes⟩
      constructor
      · rw [journal, Journal.tally_append, clerical.tally_eq, Nat.add_zero, ← declares.tally]
        rcases worker with same | ⟨idle, fresh⟩
        · rw [same]
        · rw [idle, fresh]
          rfl
      · intro ended member count drained
        have done : before.service.worker = .done count := by
          rcases outcomes ended member with old | learned
          · exact declares.outcomes ended old count drained
          · exact learned count drained
        rcases worker with same | ⟨idle, _⟩
        · rw [same]
          exact done
        · rw [done] at idle
          cases idle

/-- A worker that ends has found the queue empty. -/
theorem WorkerTurn.empty_of_ends {next : SubmissionQueue Actor Batch} {progress : Progress}
    {woken : List Actor} {service : Service} {trace : Journal}
    (turn : WorkerTurn before queue progress woken next service trace)
    (seated : before.Seated queue) (going : before.service.worker.isGone = false)
    (gone : service.worker.isGone = true) : queue.buffer = [] := by
  rcases turn.completes_of_ends going gone with ⟨_, _, _, _, here, gives, _⟩
  unfold Seated at seated
  rw [here] at seated
  exact (gives.alone seated).2.2.1

theorem Counted.works {earlier : Nat} {asked : List Batch} (counted : Counted earlier asked before)
    (seated : before.Seated queue)
    (conserved : before.Conserved queue) {next : SubmissionQueue Actor Batch}
    {progress : Progress} {woken : List Actor} {service : Service} {trace : Journal}
    (turn : WorkerTurn before queue progress woken next service trace)
    (gates : List (String × Permits Actor)) :
    Counted earlier asked (before.worked woken next service gates trace) := by
  refine ⟨?_, ?_, ?_, ?_⟩
  · exact turn.told_eq.trans counted.told
  · simp only [worked, Journal.taken_append, List.length_append, counted.taken,
      turn.drained_eq counted.told]
    exact Nat.add_assoc _ _ _
  · simp only [worked, Journal.accepted_append]
    exact counted.accepted.trans (List.prefix_append _ _)
  · intro gone
    have taken : asked <+: before.journal.taken := by
      cases going : before.service.worker.isGone with
      | true => exact counted.exhausted going
      | false =>
          have empty := turn.empty_of_ends seated going gone
          have batches := conserved.batches
          rw [empty, List.append_nil] at batches
          rw [batches]
          exact counted.accepted
    simp only [worked, Journal.taken_append]
    exact taken.trans (List.prefix_append _ _)

theorem Counted.bypasses {earlier : Nat} {asked : List Batch}
    (counted : Counted earlier asked before) (bypasses : Bypasses before after) :
    Counted earlier asked after := by
  rcases bypasses with ⟨worker, told, ⟨trace, _, taken, journal⟩, _⟩
  have same : after.journal.taken = before.journal.taken := by
    rw [journal, Journal.taken_append, taken, List.append_nil]
  refine ⟨told counted.told, ?_, ?_, ?_⟩
  · rw [same, counted.taken]
    rcases worker with same | ⟨idle, fresh⟩
    · rw [same]
    · rw [idle, fresh]
      rfl
  · rw [journal, Journal.accepted_append]
    exact counted.accepted.trans (List.prefix_append _ _)
  · intro gone
    rw [same]
    apply counted.exhausted
    rcases worker with same | ⟨_, fresh⟩
    · rw [← same]
      exact gone
    · rw [fresh] at gone
      cases gone

theorem Counted.moved {earlier : Nat} {asked : List Batch} (counted : Counted earlier asked before)
    (seated : before.Seated queue)
    (conserved : before.Conserved queue) (moved : Moved before queue after) :
    Counted earlier asked after := by
  cases moved with
  | @works progress _ _ _ _ gates turn =>
      have kept := counted.works seated conserved turn gates
      cases progress <;> exact ⟨kept.told, kept.taken, kept.accepted, kept.exhausted⟩
  | bypasses bypasses => exact counted.bypasses bypasses

end Counts

/-! ## Runs -/

theorem reaches_declares {origin reached : Deployment} (unstarted : origin.Unstarted)
    (reaches : Reaches false origin reached) : reached.Declares := by
  induction reaches with
  | refl =>
      constructor
      · rw [unstarted.worker, unstarted.journal.clerical.tally_eq]
        rfl
      · intro ended member
        rw [unstarted.outcomes] at member
        cases member
  | tail earlier move inductionHypothesis =>
      have sound := unstarted.onCourse.reaches earlier
      rcases sound.buffered with ⟨queue, buffered⟩
      have moved := move.moved sound (reaches_soleConsumer unstarted earlier) buffered
      exact inductionHypothesis.moved moved

/-- The moment in which a service is first asked to stop, in a run that goes on
from there. -/
structure StopsBetween (origin asked told ended : Deployment) : Prop where
  earlier : Reaches false origin asked
  untold : asked.service.stopRequested = false
  move : Move false asked told
  requested : told.service.stopRequested = true
  later : Reaches false told ended

/-- Whoever has been asked to stop was asked at some moment. -/
theorem exists_stopsBetween {origin ended : Deployment} (reaches : Reaches false origin ended)
    (untold : origin.service.stopRequested = false) (told : ended.service.stopRequested = true) :
    ∃ asked first, StopsBetween origin asked first ended := by
  induction reaches with
  | refl =>
      rw [untold] at told
      cases told
  | @tail asked last earlier move inductionHypothesis =>
      cases before : asked.service.stopRequested with
      | true =>
          rcases inductionHypothesis before with ⟨asked, first, stops⟩
          exact ⟨asked, first, stops.earlier, stops.untold, stops.move, stops.requested,
            stops.later.tail move⟩
      | false => exact ⟨asked, last, earlier, before, move, told, .refl⟩

namespace StopsBetween

variable {origin asked told ended : Deployment} (stops : StopsBetween origin asked told ended)
include stops

theorem reached : Reaches false origin told := stops.earlier.tail stops.move

/-- Nobody takes a batch in the move that asks, and the worker goes on. -/
theorem counted_told (unstarted : origin.Unstarted) :
    Counted asked.journal.taken.length asked.journal.accepted told ∧
      told.journal.taken = asked.journal.taken := by
  have sound := unstarted.onCourse.reaches stops.earlier
  have nothing := sound.course.drained_eq stops.untold
  have going := sound.course.isGone_eq stops.untold
  have requested := stops.requested
  rcases sound.buffered with ⟨queue, buffered⟩
  have moved := stops.move.moved sound (reaches_soleConsumer unstarted stops.earlier) buffered
  cases moved with
  | @works progress _ _ service _ gates turn =>
      have untold : service.stopRequested = false := turn.told_eq.trans stops.untold
      have told : service.stopRequested = true := by cases progress <;> exact requested
      rw [untold] at told
      cases told
  | bypasses bypasses =>
      rcases bypasses with ⟨worker, _, ⟨trace, _, taken, journal⟩, _⟩
      have same : told.journal.taken = asked.journal.taken := by
        rw [journal, Journal.taken_append, taken, List.append_nil]
      have atWork : told.service.worker.drained = 0 ∧ told.service.worker.isGone = false := by
        rcases worker with unmoved | ⟨_, fresh⟩
        · rw [unmoved]
          exact ⟨nothing, going⟩
        · rw [fresh]
          exact ⟨rfl, rfl⟩
      refine ⟨⟨requested, ?_, ?_, ?_⟩, same⟩
      · rw [same, atWork.1, Nat.add_zero]
      · rw [journal, Journal.accepted_append]
        exact List.prefix_append _ _
      · intro gone
        rw [atWork.2] at gone
        cases gone

/-- The count goes on until the end. -/
theorem counted (unstarted : origin.Unstarted) :
    Counted asked.journal.taken.length asked.journal.accepted ended := by
  have later := stops.later
  induction later with
  | refl => exact (stops.counted_told unstarted).1
  | @tail before after earlier move inductionHypothesis =>
      have reaches : Reaches false origin before := stops.reached.trans earlier
      have sound := unstarted.onCourse.reaches reaches
      have counted := inductionHypothesis
        ⟨stops.earlier, stops.untold, stops.move, stops.requested, earlier⟩
      rcases reaches_conserves unstarted reaches with ⟨queue, buffered, conserved⟩
      rcases unstarted.undisturbed with ⟨_, undisturbed⟩
      rcases undisturbed.reaches reaches with ⟨same, there⟩
      have source := there.buffered
      rw [buffered] at source
      cases source
      exact counted.moved there.seated conserved (move.moved sound there.sole buffered)

end StopsBetween

/-- The turn of the worker takes nothing unless it is the drain that looks at
the queue. -/
def LeavesQueueToDrain (before : Deployment) : Prop :=
  ∀ rest, before.ready = .worker :: rest →
    before.tick.journal.taken = before.journal.taken ∨
      ∃ count deadline place,
        before.service.worker = .drainFetching count deadline (.queued place)

theorem leavesQueueToDrain {before : Deployment} (sound : before.OnCourse)
    (told : before.service.stopRequested = true) : before.LeavesQueueToDrain := by
  intro rest line
  rcases sound.buffered with ⟨queue, buffered⟩
  have turned := tick_turned buffered sound.course
  generalize before.tick = after at turned ⊢
  cases turned with
  | nobody empty =>
      rw [line] at empty
      cases empty
  | caller other _ =>
      rw [line] at other
      cases other
  | @worker _ progress _ _ service trace gates _ turn =>
      rcases turn.taken_of_told told with nothing | drains
      · refine Or.inl ?_
        have same : (before.journal ++ trace).taken = before.journal.taken := by
          rw [Journal.taken_append, nothing, List.append_nil]
        cases progress <;> exact same
      · exact Or.inr drains

/-- The turn of a caller who joins brings him the count. -/
theorem tick_joins {deployment : Deployment} {id : Nat} {rest : List Actor} {call : Call}
    {count : Nat} (line : deployment.ready = .caller id :: rest)
    (job : deployment.job? id = some ⟨call, false⟩) (joins : call.isJoin = true)
    (done : deployment.service.worker = .done count) :
    deployment.tick.outcomes = deployment.outcomes ++ [(id, .drained count)] := by
  have same : deployment.tick = (deployment.advanceCall id call).stepBack := by
    simp only [tick, line, advanceCaller, job]
  rw [same]
  cases call with
  | joining door =>
      have reported : deployment.advanceCall id (.joining door) =
          deployment.report id door (.ok count) := advanceJoin_of_done done
      rw [reported]
      exact outcomes_report deployment id door count
  | join door stopFirst =>
      have worker : ((deployment.toldBy stopFirst).setJob id
          { call := .joining door }).service.worker = .done count :=
        (worker_toldBy deployment stopFirst).trans done
      have reported : deployment.advanceCall id (.join door stopFirst) =
          ((deployment.toldBy stopFirst).setJob id { call := .joining door }).report id door
            (.ok count) := advanceJoin_of_done worker
      rcases toldBy_eq deployment stopFirst with ⟨_, _, _, _, _, told⟩
      rw [reported]
      refine (outcomes_report _ id door count).trans ?_
      rw [told]
      rfl
  | _ => cases joins

/-- What has been taken since the request, once the drain is over. -/
theorem StopsBetween.counts {origin asked told ended : Deployment}
    (stops : StopsBetween origin asked told ended) (unstarted : origin.Unstarted) {count : Nat}
    (done : ended.service.worker = .done count) {queue : SubmissionQueue Actor Batch}
    (buffered : ended.source = .buffered queue) :
    ∃ before after drained, asked.source = .buffered before ∧
      told.source = .buffered after ∧ after.consumed = before.consumed ∧
      queue.consumed = before.consumed + count ∧
      ended.journal.begun = asked.journal.begun ++ drained ∧ drained.length = count ∧
      before.buffer <+: drained := by
  have whole : Reaches false origin ended := stops.reached.trans stops.later
  have since : Reaches false asked ended := .head stops.move stops.later
  have counted := stops.counted unstarted
  have grown : asked.journal.taken <+: ended.journal.taken := by
    rcases since.journal_prefix (unstarted.onCourse.reaches stops.earlier) with ⟨trace, journal⟩
    rw [← journal, Journal.taken_append]
    exact List.prefix_append _ _
  have gone : ended.service.worker.isGone = true := by
    rw [done]
    rfl
  have length : ended.journal.taken.length = asked.journal.taken.length + count := by
    rw [counted.taken, done]
    rfl
  rcases reaches_conserves unstarted stops.earlier with ⟨before, source, conserved⟩
  rcases reaches_conserves unstarted stops.reached with ⟨after, sourceTold, conservedTold⟩
  rcases reaches_conserves unstarted whole with ⟨same, sourceEnded, conservedEnded⟩
  rw [buffered] at sourceEnded
  cases sourceEnded
  rcases grown with ⟨drained, split⟩
  have exhausted := counted.exhausted gone
  rw [← conserved.batches, ← split] at exhausted
  refine ⟨before, after, drained, source, sourceTold, ?_, ?_, ?_, ?_,
    (List.prefix_append_right_inj _).mp exhausted⟩
  · rw [conservedTold.consumed, conserved.consumed, (stops.counted_told unstarted).2]
  · rw [conservedEnded.consumed, conserved.consumed, length]
  · rw [reaches_begun_eq_taken unstarted whole, reaches_begun_eq_taken unstarted stops.earlier]
    exact split.symm
  · rw [← split, List.length_append] at length
    exact Nat.add_left_cancel length

/-- The value that a drain ends with is the number of batches taken from the
queue since the service was first asked to stop, however it was asked.  The
counter of drained batches and every call that joins have the same value.  A
batch that was in hand at that moment is dispatched to its end but not counted,
every batch that was in the buffer is counted, and from that moment on only the
drain takes batches. -/
theorem drained_since_stop {origin ended : Deployment} (unstarted : origin.Unstarted)
    (reaches : Reaches false origin ended) (gone : ended.service.worker.isGone = true) :
    ∃ count queue, ended.service.worker = .done count ∧ ended.source = .buffered queue ∧
      ended.journal.totals.get .drained = count ∧
      (∀ id drained, (id, .drained drained) ∈ ended.outcomes → drained = count) ∧
      (∀ id rest call, ended.ready = .caller id :: rest →
        ended.job? id = some ⟨call, false⟩ → call.isJoin = true →
        ended.tick.outcomes = ended.outcomes ++ [(id, .drained count)]) ∧
      ended.journal.dispatches =
        (origin.service.staff.serveAll ended.journal.begun).trace ∧
      (∃ asked told, StopsBetween origin asked told ended) ∧
      ∀ asked told, StopsBetween origin asked told ended →
        ∃ before after drained, asked.source = .buffered before ∧
          told.source = .buffered after ∧ after.consumed = before.consumed ∧
          queue.consumed = before.consumed + count ∧
          ended.journal.begun = asked.journal.begun ++ drained ∧ drained.length = count ∧
          before.buffer <+: drained ∧
          ∀ reached, Reaches false told reached → reached.LeavesQueueToDrain := by
  have sound := unstarted.onCourse.reaches reaches
  have declares := reaches_declares unstarted reaches
  have told : ended.service.stopRequested = true := by
    cases untold : ended.service.stopRequested with
    | true => rfl
    | false =>
        rw [sound.course.isGone_eq untold] at gone
        cases gone
  rcases sound.course.done_of_isGone gone with ⟨count, done⟩
  have free : ended.service.worker.isFree = true := by
    rw [done]
    rfl
  rcases reaches_conserves unstarted reaches with ⟨queue, buffered, conserved⟩
  have inOrder := Standing.bounds (reaches_inOrder unstarted reaches)
  refine ⟨count, queue, done, buffered, ?_, ?_, ?_, inOrder.2.2 free,
    exists_stopsBetween reaches unstarted.untold told, ?_⟩
  · rw [Journal.get_totals, ← declares.tally, done]
    rfl
  · intro id drained member
    have same := declares.outcomes _ member drained rfl
    rw [done] at same
    cases same
    rfl
  · intro id rest call line job joins
    exact tick_joins line job joins done
  · intro asked told stops
    rcases stops.counts unstarted done buffered with
      ⟨before, after, drained, source, sourceTold, still, consumed, begun, length, emptied⟩
    refine ⟨before, after, drained, source, sourceTold, still, consumed, begun, length, emptied, ?_⟩
    intro reached later
    have there : StopsBetween origin asked told reached :=
      ⟨stops.earlier, stops.untold, stops.move, stops.requested, later⟩
    exact leavesQueueToDrain (unstarted.onCourse.reaches (stops.reached.trans later))
      (there.counted unstarted).told

/-- Of two batches one is in hand and one in the buffer when the request to stop
arrives. -/
def emptied : Deployment :=
  (gated.run 0 [some .start, some (.trySubmit .single), some .settle, some (.trySubmit .single),
    some .stop, some (.release "door" 2), some (.advance 3000)]).2

/-- Both are dispatched, and only the second is counted. -/
theorem drained_since_stop_emptied :
    emptied.service.worker = .done 1 ∧ emptied.journal.totals.get .drained = 1 ∧
      emptied.journal.begun.length = 2 ∧
      ∃ asked told, StopsBetween gated asked told emptied ∧ asked.journal.begun.length = 1 := by
  have reaches : Reaches false gated emptied :=
    reaches_run unstarted_gated.onCourse unstarted_gated.numbered _ (by simp [Step.consumes])
  have here : emptied.service.worker = .done 1 := by decide +kernel
  have gone : emptied.service.worker.isGone = true := by
    rw [here]
    rfl
  have begun : emptied.journal.begun.length = 2 := by decide +kernel
  rcases drained_since_stop unstarted_gated reaches gone with
    ⟨count, queue, done, _, counter, _, _, _, ⟨asked, told, stops⟩, since⟩
  rw [here] at done
  cases done
  rcases since asked told stops with ⟨_, _, drained, _, _, _, _, split, length, _⟩
  rw [split, List.length_append, length] at begun
  refine ⟨here, counter, ?_, asked, told, stops, Nat.succ.inj begun⟩
  rw [split, List.length_append, length]
  exact begun

end Deployment
end FailureDispatch

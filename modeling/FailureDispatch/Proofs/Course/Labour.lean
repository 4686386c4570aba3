import FailureDispatch.Proofs.Course.Deed

/-!
# What the worker's turns come to

Every turn of the worker is a sequence of deeds.  This holds for every queue:
one in memory, and one that answers from lists, at once or after a delay.

A turn of the worker leaves the calls under way as they are.  When it is the
worker's last one, all who wait for the worker have been woken.
-/

namespace FailureDispatch
namespace Deployment

/-- One deployment comes about from another by deeds, and the line only grows
meanwhile. -/
structure Unfolds (before after : Deployment) : Prop where
  deeds : ∃ trace, Deeds before.service after.service trace ∧
    after.journal = before.journal ++ trace
  held : after.holder ≠ .nobody → before.holder ≠ .nobody ∨ after.service.state ≠ .new
  line : ∃ woken, after.ready = lineUpAll before.ready woken

/-- The worker acts. -/
structure Works (before after : Deployment) : Prop extends Unfolds before after where
  jobs : after.jobs = before.jobs
  outcomes : after.outcomes = before.outcomes
  tells : before.service.worker.isGone = false → after.service.worker.isGone = true →
    before.joiners ⊆ after.ready

theorem Unfolds.refl (deployment : Deployment) : Unfolds deployment deployment :=
  ⟨⟨[], .none _, (List.append_nil _).symm⟩, Or.inl, [], rfl⟩

theorem Unfolds.waits {before after : Deployment} (unfolds : Unfolds before after) :
    before.ready ⊆ after.ready := by
  rcases unfolds.line with ⟨woken, line⟩
  intro actor stands
  rw [line]
  exact mem_lineUpAll.mpr (Or.inl stands)

theorem Unfolds.trans {first next last : Deployment} (earlier : Unfolds first next)
    (later : Unfolds next last) : Unfolds first last where
  deeds := by
    rcases earlier.deeds with ⟨trace, deeds, journal⟩
    rcases later.deeds with ⟨rest, more, continued⟩
    refine ⟨trace ++ rest, deeds.trans more, ?_⟩
    rw [continued, journal, List.append_assoc]
  held := by
    intro held
    rcases later.deeds with ⟨_, more, _⟩
    rcases later.held held with already | started
    · rcases earlier.held already with before | started
      · exact Or.inl before
      · exact Or.inr (more.started started)
    · exact Or.inr started
  line := by
    rcases earlier.line with ⟨woken, line⟩
    rcases later.line with ⟨more, continued⟩
    refine ⟨woken ++ more, ?_⟩
    rw [continued, line, lineUpAll_lineUpAll]

theorem Works.refl (deployment : Deployment) : Works deployment deployment where
  toUnfolds := .refl deployment
  jobs := rfl
  outcomes := rfl
  tells := by
    intro going gone
    rw [going] at gone
    cases gone

theorem Works.trans {first next last : Deployment} (earlier : Works first next)
    (later : Works next last) : Works first last where
  toUnfolds := earlier.toUnfolds.trans later.toUnfolds
  jobs := later.jobs.trans earlier.jobs
  outcomes := later.outcomes.trans earlier.outcomes
  tells := by
    intro going gone
    cases middle : next.service.worker.isGone with
    | true => exact List.Subset.trans (earlier.tells going middle) later.waits
    | false =>
        have told := later.tells middle gone
        rw [joiners, callersWith, later.jobs.symm.trans later.jobs, earlier.jobs] at told
        exact told

/-! ## Single deeds -/

section Single

variable {before : Deployment} {service : Service} {trace : Journal}
  (source : Source) (gates : List (String × Permits Actor)) (woken : List Actor)

/-- One deed, by which the queue and the gates may have changed. -/
theorem works_of_deed (deed : Deed before.service service trace)
    (going : service.worker.isGone = before.service.worker.isGone) :
    Works before
      { before with
        ready := lineUpAll before.ready woken, source, service, gates
        journal := before.journal ++ trace } where
  deeds := ⟨trace, .single deed, rfl⟩
  held := Or.inl
  line := ⟨_, rfl⟩
  jobs := rfl
  outcomes := rfl
  tells := by
    intro earlier gone
    rw [show service.worker.isGone = true from gone, earlier] at going
    cases going

/-- The worker's last deed, of which the joiners learn. -/
theorem works_of_last_deed (deed : Deed before.service service trace) :
    Works before
      { before with
        ready := lineUpAll before.ready (woken ++ before.joiners), source, service, gates
        journal := before.journal ++ trace } where
  deeds := ⟨trace, .single deed, rfl⟩
  held := Or.inl
  line := ⟨_, rfl⟩
  jobs := rfl
  outcomes := rfl
  tells := fun _ _ _ joins => mem_lineUpAll.mpr (Or.inr (List.mem_append_right _ joins))

/-- Changes of the queue and of the gates that concern nobody else. -/
theorem works_aside (before : Deployment) (aside : trace.Aside) :
    Works before
      { before with
        ready := lineUpAll before.ready woken, source, gates
        journal := before.journal ++ trace } :=
  works_of_deed source gates woken (.aside aside) rfl

end Single

theorem works_adopt (deployment : Deployment) (woken : List Actor)
    (queue : SubmissionQueue Actor Batch) : Works deployment (deployment.adopt woken queue) := by
  have works := works_aside (.buffered queue) deployment.gates woken deployment .nil
  rw [List.append_nil] at works
  rw [adopt_eq]
  exact works

theorem reports_figures (deployment : Deployment) (tag : String) :
    (deployment.figures tag).Reports tag := by
  unfold figures
  cases deployment.source with
  | buffered queue => exact Or.inr ⟨queue.stats, rfl⟩
  | scripted queue => exact Or.inl rfl

/-! ## The main loop -/

section Main

variable (deployment : Deployment)

theorem works_startUp (here : deployment.service.worker = .fresh) :
    Works deployment deployment.startUp := by
  have going : deployment.service.worker.isGone = false := by
    rw [here]
    rfl
  generalize opening : deployment.log (.startingUp deployment.service.handlers.length
    deployment.service.fallback.name) = announced
  have state : announced.service.state = deployment.service.state := by
    rw [← opening]
    rfl
  cases can : deployment.service.state.canBecome .running with
  | true =>
      have works := works_of_deed deployment.source deployment.gates
        (deployment.callersWith Call.observesState) (.startsUp here can) going.symm
      simp only [startUp, opening, enter_of_canBecome (state ▸ can)]
      simp only [← opening, log, note, setWorker, List.append_assoc, List.cons_append,
        List.nil_append]
      exact works
  | false =>
      have works := works_of_deed deployment.source deployment.gates [] (.startsLate here can)
        going.symm
      simp only [startUp, opening, enter_of_cannot (state ▸ can)]
      simp only [← opening, log, note, setWorker]
      exact works

theorem missed_eq (error : FailureError) :
    deployment.missed error =
      { deployment with
        service := { deployment.service with worker := .afterMiss error }
        journal := deployment.journal ++
          [.contact (.fails error), .logged (.ofMiss deployment.backlog error)] } := by
  cases error <;>
    simp only [missed, log, note, setWorker, backlog, List.append_assoc, List.cons_append,
      List.nil_append] <;> rfl

theorem works_missed {fetch : Fetch} (error : FailureError)
    (here : deployment.service.worker = .fetching fetch) :
    Works deployment (deployment.missed error) := by
  have going : (Worker.afterMiss error).isGone = deployment.service.worker.isGone := by
    rw [here]
    cases error <;> rfl
  have works := works_of_deed deployment.source deployment.gates []
    (.misses error deployment.backlog here) going
  rw [missed_eq]
  exact works

theorem works_takeInHand {phase : Phase} (batch : Batch)
    (awaits : deployment.service.Awaits phase) :
    Works deployment (deployment.takeInHand phase batch) := by
  rcases beginDispatch_opens (deployment.noteAll [.contact (.gives batch), .taken batch]) phase
    batch with ⟨stretch, worker, same, opens, ofDispatch, _⟩
  have going : worker.isGone = deployment.service.worker.isGone := by
    rw [opens.isGone_eq]
    cases awaits with
    | main here | drain here =>
        rw [here]
        rfl
  have works := works_of_deed deployment.source deployment.gates []
    (.takes awaits opens ofDispatch) going
  rw [takeInHand, same]
  simp only [noteAll, List.append_assoc, List.cons_append, List.nil_append]
  exact works

theorem works_tearDown {phase : Phase} (text : String)
    (awaits : deployment.service.Awaits phase) :
    Works deployment (deployment.tearDown text) := by
  have works := works_of_last_deed deployment.source deployment.gates [] (.tornDown text awaits)
  rw [List.append_nil] at works
  simp only [tearDown, setWorker, wakeAll_eq]
  exact works

theorem works_answerMain {fetch : Fetch} (answer : QueueAnswer)
    (here : deployment.service.worker = .fetching fetch) :
    Works deployment (deployment.answerMain answer) := by
  cases answer with
  | batch batch => exact works_takeInHand deployment batch (.main here)
  | error error => exact works_missed deployment error here
  | panic text => exact works_tearDown deployment text (.main here)
  | nothing =>
      have works := works_of_deed deployment.source deployment.gates []
        (.waitsOn .forStop here) (by rw [here]; rfl)
      rw [List.append_nil] at works
      exact works

/-- An answer that is heard at once is heard by a worker that waits for it: the
answer decides where the worker goes, wherever it has been. -/
theorem works_answerMain_at_once {before : Deployment} (answer : QueueAnswer)
    (called : Works before (deployment.setWorker (.fetching .forStop))) :
    Works before (deployment.answerMain answer) := by
  have overrides : (deployment.setWorker (.fetching .forStop)).answerMain answer =
      deployment.answerMain answer := by
    cases answer with
    | error error => simp only [answerMain, missed_eq, setWorker, backlog]
    | batch _ | panic _ | nothing => rfl
  have answered := works_answerMain (deployment.setWorker (.fetching .forStop)) answer rfl
  rw [overrides] at answered
  exact called.trans answered

/-- The main loop turns to its queue, and a queue that answers at once has its
answer heard in the same turn. -/
theorem works_beginFetch (here : deployment.service.worker = .looping)
    (running : deployment.service.state = .running)
    (untold : deployment.service.stopRequested = false) :
    Works deployment deployment.beginFetch.2 := by
  have asks (source : Source) (fetch : Fetch) {echo : Journal} (aside : echo.Aside) :=
    works_of_deed source deployment.gates [] (.asks fetch here running untold aside)
      (by rw [here]; rfl)
  have fetched : Journal.Aside [.fetched] := ⟨⟨rfl, rfl⟩, rfl⟩
  cases source : deployment.source with
  | buffered queue =>
      have works := asks deployment.source (.queued .line) .nil
      simp only [beginFetch, source]
      exact works
  | scripted queue =>
      cases waits : queue.waits with
      | nil =>
          have works := asks deployment.source .forStop fetched
          simp only [beginFetch, source, waits, note, setWorker, List.append_assoc,
            List.cons_append, List.nil_append] at works ⊢
          exact works
      | cons reply rest =>
          simp only [beginFetch, source, waits]
          split
          · have called := asks (.scripted { queue with waits := rest }) .forStop fetched
            apply works_answerMain_at_once
            simp only [note, setWorker, List.append_assoc, List.cons_append, List.nil_append]
            exact called
          · have works := asks (.scripted { queue with waits := rest })
              (.delayed (deployment.now + reply.delay) reply.answer) fetched
            simp only [note, setWorker, List.append_assoc, List.cons_append, List.nil_append]
            exact works

theorem works_advanceFetch {fetch : Fetch} (here : deployment.service.worker = .fetching fetch) :
    Works deployment (deployment.advanceFetch fetch).2 := by
  have adopts (woken : List Actor) (queue : SubmissionQueue Actor Batch) :
      Works deployment (deployment.adopt woken queue) ∧
        (deployment.adopt woken queue).service.worker = .fetching fetch := by
    refine ⟨works_adopt deployment woken queue, ?_⟩
    rw [adopt_eq]
    exact here
  unfold advanceFetch
  cases fetch with
  | queued place =>
      cases deployment.source with
      | scripted queue => exact .refl deployment
      | buffered queue =>
          dsimp only
          split
          · rcases adopts (queue.depart .worker place).1 (queue.depart .worker place).2 with
              ⟨adopted, still⟩
            exact adopted.trans (works_missed _ .cancelled still)
          · rcases queue.seek .worker place with ⟨batch | _ | reached, woken, next⟩
            · exact (adopts woken next).1.trans
                (works_takeInHand _ batch (.main (adopts woken next).2))
            · exact (adopts woken next).1.trans (works_missed _ .queueClosed (adopts woken next).2)
            · have waits := works_of_deed (.buffered next) deployment.gates woken
                (.waitsOn (.queued reached) here) (by rw [here]; rfl)
              rw [List.append_nil] at waits
              simp only [adopt_eq]
              exact waits
  | delayed time answer =>
      dsimp only
      split
      · exact works_answerMain deployment answer here
      · exact .refl deployment
  | forStop =>
      dsimp only
      split
      · exact works_missed deployment .cancelled here
      · exact .refl deployment

end Main

/-! ## The drain -/

section Drain

variable (deployment : Deployment)

theorem setWorker_of_here {worker : Worker} (here : deployment.service.worker = worker) :
    deployment.setWorker worker = deployment := by
  rw [← here]
  rfl

/-- What a drain leaves behind when it is over. -/
theorem closing_eq (ending : Contact) (count : Nat) (notice : Notice) :
    ((deployment.note (.contact ending)).closeAccounts count).log notice =
      { deployment with
        journal := deployment.journal ++
          drainTrace ending count (deployment.figures drainTag) notice } := by
  rw [closeAccounts, requestStats_eq]
  simp only [Deployment.count, log, note, drainTrace, List.append_assoc, List.cons_append,
    List.nil_append]
  rfl

theorem canBecome_closing (ending : Contact) (count : Nat) (notice : Notice)
    (next : ServiceState) :
    (((deployment.note (.contact ending)).closeAccounts count).log notice).service.state.canBecome
      next = deployment.service.state.canBecome next := by
  rw [closing_eq]

theorem completeDrain_eq (count : Nat)
    (can : deployment.service.state.canBecome .terminated = true) :
    deployment.completeDrain count =
      ((((deployment.note (.contact .givesNothing)).closeAccounts count).log
        (.drained count)).enter .terminated).2.retire (.done count) := by
  simp only [completeDrain, enter_of_canBecome ((deployment.canBecome_closing ..).trans can)]

/-! An answer to the drain decides where the worker goes, wherever it has been.
So it may be heard in the turn in which the queue was asked: then the worker has
not been seen to wait, but what happens is the same as if it had. -/

section Heard

variable {before : Deployment} {drained : Nat} (deadline : Nat) (fetch : Fetch)
  (called : Works before (deployment.setWorker (.drainFetching drained deadline fetch)))
include called

/-- The worker ends in a state that it can enter, and tells both the observers
of the state and the joiners. -/
theorem works_retire {closed : Deployment} {state : ServiceState} {worker : Worker}
    {trace : Journal}
    (same : closed = { deployment with journal := deployment.journal ++ trace })
    (can : deployment.service.state.canBecome state = true)
    (deed : Deed { deployment.service with worker := .drainFetching drained deadline fetch }
      { deployment.service.entering state with worker } (trace ++ [.entered state])) :
    Works before ((closed.enter state).2.retire worker) := by
  have works : Works (deployment.setWorker (.drainFetching drained deadline fetch)) _ :=
    works_of_last_deed deployment.source deployment.gates
      (deployment.callersWith Call.observesState) deed
  have possible : closed.service.state.canBecome state = true := by
    rw [same]
    exact can
  rw [enter_of_canBecome possible, same]
  simp only [retire, setWorker, wakeAll_eq, lineUpAll_lineUpAll, List.append_assoc]
  exact called.trans works

theorem works_completeDrain (stopping : deployment.service.state = .stopping) :
    Works before (deployment.completeDrain drained) := by
  have can : deployment.service.state.canBecome .terminated = true := by
    rw [stopping]
    rfl
  rw [deployment.completeDrain_eq drained can]
  exact works_retire deployment deadline fetch called
    (closing_eq deployment .givesNothing drained (.drained drained)) can
    (.completes rfl stopping (deployment.reports_figures drainTag))

theorem works_abandonDrain (error : FailureError)
    (stopping : deployment.service.state = .stopping) :
    Works before (deployment.abandonDrain drained error) := by
  have can : deployment.service.state.canBecome .failed = true := by
    rw [stopping]
    rfl
  exact works_retire deployment deadline fetch called
    (closing_eq deployment (.fails error) drained (.drainFailed error drained)) can
    (.abandons rfl stopping (deployment.reports_figures drainTag))

theorem works_answerDrain (answer : QueueAnswer)
    (stopping : deployment.service.state = .stopping) :
    Works before (deployment.answerDrain drained answer) := by
  cases answer with
  | batch batch =>
      exact called.trans (works_takeInHand (deployment.setWorker _) batch (.drain rfl))
  | error error => exact works_abandonDrain deployment deadline fetch called error stopping
  | panic text => exact called.trans (works_tearDown (deployment.setWorker _) text (.drain rfl))
  | nothing => exact works_completeDrain deployment deadline fetch called stopping

end Heard

theorem works_beginDrainFetch {drained : Nat}
    (here : deployment.service.worker = .draining drained)
    (stopping : deployment.service.state = .stopping) :
    Works deployment (deployment.beginDrainFetch drained).2 := by
  have asks (source : Source) (fetch : Fetch) {echo : Journal} (aside : echo.Aside) :=
    works_of_deed source deployment.gates []
      (.asksWithin (deployment.now + deployment.service.drainWait) fetch here aside)
      (by rw [here]; rfl)
  have fetched : Journal.Aside [.fetchedWithin deployment.service.drainWait] :=
    ⟨⟨rfl, rfl⟩, rfl⟩
  cases source : deployment.source with
  | buffered queue =>
      have works := asks deployment.source (.queued .line) .nil
      simp only [beginDrainFetch, source]
      exact works
  | scripted queue =>
      cases drains : queue.drains with
      | nil =>
          have called := asks deployment.source .forStop fetched
          simp only [beginDrainFetch, source, drains]
          refine works_completeDrain _ (deployment.now + deployment.service.drainWait) .forStop ?_
            stopping
          simp only [note, setWorker, List.append_assoc, List.cons_append, List.nil_append]
          exact called
      | cons reply rest =>
          simp only [beginDrainFetch, source, drains]
          split
          · have called := asks (.scripted { queue with drains := rest }) .forStop fetched
            refine works_answerDrain _ (deployment.now + deployment.service.drainWait) .forStop ?_
              reply.answer stopping
            simp only [note, setWorker, List.append_assoc, List.cons_append, List.nil_append]
            exact called
          · have works := asks (.scripted { queue with drains := rest })
              (.delayed (deployment.now + reply.delay) reply.answer) fetched
            simp only [note, setWorker, List.append_assoc, List.cons_append, List.nil_append]
            exact works

theorem works_advanceDrainFetch {drained deadline : Nat} {fetch : Fetch}
    (here : deployment.service.worker = .drainFetching drained deadline fetch)
    (stopping : deployment.service.state = .stopping) :
    Works deployment (deployment.advanceDrainFetch drained deadline fetch).2 := by
  have adopts (woken : List Actor) (queue : SubmissionQueue Actor Batch) :
      Works deployment
        ((deployment.adopt woken queue).setWorker (.drainFetching drained deadline fetch)) := by
    rw [setWorker_of_here _ (by rw [adopt_eq]; exact here)]
    exact works_adopt deployment woken queue
  have still (woken : List Actor) (queue : SubmissionQueue Actor Batch) :
      (deployment.adopt woken queue).service = deployment.service := by
    rw [adopt_eq]
  unfold advanceDrainFetch
  cases fetch with
  | queued place =>
      cases deployment.source with
      | scripted queue => exact .refl deployment
      | buffered queue =>
          dsimp only
          rcases queue.seek .worker place with ⟨batch | _ | reached, woken, next⟩
          · exact (adopts woken next).trans
              (works_takeInHand (setWorker _ _) batch (.drain rfl))
          · exact works_completeDrain _ deadline _ (adopts woken next)
              ((congrArg Service.state (still woken next)).trans stopping)
          · dsimp only
            split
            · have left := adopts (woken ++ (next.depart .worker reached).1)
                (next.depart .worker reached).2
              have same : (deployment.adopt woken next).adopt (next.depart .worker reached).1
                  (next.depart .worker reached).2 =
                  deployment.adopt (woken ++ (next.depart .worker reached).1)
                    (next.depart .worker reached).2 := by
                simp only [adopt_eq, lineUpAll_lineUpAll]
              rw [same]
              exact works_completeDrain _ deadline _ left
                ((congrArg Service.state (still _ _)).trans stopping)
            · have waits := works_of_deed (.buffered next) deployment.gates woken
                (.drainWaits (.queued reached) here) (by rw [here]; rfl)
              rw [List.append_nil] at waits
              rw [adopt_eq]
              exact waits
  | delayed time answer =>
      dsimp only
      split
      · apply works_answerDrain deployment deadline (.delayed time answer) _ answer stopping
        rw [setWorker_of_here _ here]
        exact .refl deployment
      · exact .refl deployment
  | forStop => exact .refl deployment

end Drain

/-! ## All turns -/

theorem works_advanceDispatch {before : Deployment} {phase : Phase} {dispatch : Dispatch}
    (here : before.service.worker = .dispatching phase dispatch) :
    Works before (before.advanceDispatch phase dispatch).2 := by
  by_cases finished : dispatch.current = none ∧ dispatch.pending = []
  · rcases finished with ⟨called, all⟩
    have works := works_of_deed before.source before.gates [] (.finishes here)
      (by rw [here]; exact phase.isGone_resume)
    simp only [advanceDispatch, called, all]
    exact works
  · have continues := advanceDispatch_continues here (by
      intro called all
      exact finished ⟨called, all⟩)
    rcases continues with ⟨stretch, gates, later, reached, _, inner, _⟩
    have deed : Deed before.service
        { before.service.withStaff stretch.staff with worker := .dispatching phase later }
        stretch.trace := .dispatches here inner
    rw [reached]
    exact works_of_deed before.source gates [] deed (by rw [here]; rfl)

/-- Every turn of the worker of a lawful service comes to deeds. -/
theorem works_advanceWorker {before : Deployment} (lawful : before.service.Lawful) :
    Works before before.advanceWorker.2 := by
  unfold advanceWorker
  cases here : before.service.worker with
  | idle | done _ | failed _ | aborted _ => exact .refl before
  | fresh => exact works_startUp before here
  | looping =>
      dsimp only
      split
      · next running => exact works_beginFetch before here running.1 running.2
      · next left =>
        have works := works_of_deed before.source before.gates [] (.leavesLoop here left)
          (by rw [here]; rfl)
        exact works
  | fetching fetch => exact works_advanceFetch before here
  | parked =>
      dsimp only
      split
      · next told =>
        have works := works_of_deed before.source before.gates [] (.unparks here told)
          (by rw [here]; rfl)
        rw [List.append_nil] at works
        exact works
      · exact .refl before
  | dispatching phase dispatch => exact works_advanceDispatch here
  | draining count =>
      have standing := lawful.at_worker here
      exact works_beginDrainFetch before here standing.1
  | drainFetching count deadline fetch =>
      exact works_advanceDrainFetch before here (lawful.stopping_of_awaits (.drain here)).1

end Deployment
end FailureDispatch

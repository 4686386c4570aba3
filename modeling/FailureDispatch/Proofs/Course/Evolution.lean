import FailureDispatch.Proofs.Course.Run
import FailureDispatch.Proofs.Course.Visit

/-!
# Whatever happens to a service

`Event` admits all that a run can do to a service, over any queue.  A queue that
answers from lists may moreover change its mind at every moment about what it
will answer, to the call that waits and to those to come: `Whim`.  So a queue of
which nothing is known but that it answers in one of the ways of `QueueAnswer`,
sooner or later or never, is covered.  Its answers may be panics; that it tells its
size and writes its statistics without failing is supposed (`backlog`, `logStats`).

`Evolves` strings events together.  Every event comes to deeds, so what every
deed keeps is kept by whatever happens (`Evolves.keeps`); and every run is made
of events (`evolves_run`).
-/

namespace FailureDispatch

/-- A worker that is where the state of its service says fits the state. -/
theorem Service.OnCourse.lawful {service : Service} (course : service.OnCourse) :
    service.Lawful := by
  rcases course with ⟨home, known, stands⟩
  unfold Service.Lawful
  cases here : service.worker with
  | fetching fetch | drainFetching _ _ fetch =>
      rw [here] at known
      cases fetch with
      | queued place =>
          cases known
          exact stands
      | _ => cases known
  | dispatching phase dispatch =>
      rw [here] at known
      cases phase <;>
        (cases known; exact stands)
  | failed _ | aborted _ =>
      rw [here] at known
      cases known
  | _ =>
      rw [here] at known
      cases known
      exact stands

namespace Deployment

/-- The queue changes its mind.  Whoever waits for its answer looks again. -/
inductive Whim (before : Deployment) : Deployment → Prop where
  | answers {queue} (later : ScriptedQueue) (scripted : before.source = .scripted queue) :
      Whim before { before with source := .scripted later }
  | main {queue fetch} (later : Fetch) (scripted : before.source = .scripted queue)
      (here : before.service.worker = .fetching fetch) :
      Whim before ((before.setWorker (.fetching later)).wake .worker)
  | drain {queue count deadline fetch} (later : Fetch)
      (scripted : before.source = .scripted queue)
      (here : before.service.worker = .drainFetching count deadline fetch) :
      Whim before ((before.setWorker (.drainFetching count deadline later)).wake .worker)

inductive Event (before : Deployment) : Deployment → Prop where
  | turn : Event before before.tick
  | begins (id : Nat) (call : Call)
      (owned : call.isJoin = true → before.service.state ≠ .new) :
      Event before ((before.addJob id call).wake (.caller id))
  | abort {id : Nat} {job : Job} (known : before.job? id = some job) :
      Event before ((before.setJob id { job with doomed := true }).wake (.caller id))
  | act {after : Deployment} (act : Act before after) : Event before after
  | whim {after : Deployment} (whim : Whim before after) : Event before after

/-- A deployment comes about from another by events. -/
abbrev Evolves : Deployment → Deployment → Prop := Relation.ReflTransGen Event

/-- What every event keeps about the life of a service, whatever its queue is.
The handle, and a call that owns it, exist once the service has been started. -/
structure Regular (deployment : Deployment) : Prop where
  lawful : deployment.service.Lawful
  held : deployment.holder ≠ .nobody → deployment.service.state ≠ .new
  joins : ∀ entry ∈ deployment.jobs, entry.2.call.isJoin = true → deployment.service.state ≠ .new

/-- A deployment on course is regular. -/
theorem OnCourse.regular {deployment : Deployment} (sound : deployment.OnCourse) :
    deployment.Regular :=
  ⟨sound.course.lawful, sound.held, sound.joins⟩

/-! ## Acts -/

theorem Unfolds.started {before after : Deployment} (unfolds : Unfolds before after)
    (started : before.service.state ≠ .new) : after.service.state ≠ .new := by
  rcases unfolds.deeds with ⟨_, deeds, _⟩
  exact deeds.started started

/-- Changes around the service. -/
theorem works_around (before : Deployment) {trace : Journal} (aside : trace.Aside) (now : Nat)
    (woken : List Actor) (source : Source) (gates : List (String × Permits Actor))
    (cancelled : List String) (watches : List (String × Nat)) (holder : Holder)
    (held : holder ≠ .nobody → before.holder ≠ .nobody) :
    Works before
      { before with
        now, source, gates, cancelled, watches, holder
        ready := lineUpAll before.ready woken
        journal := before.journal ++ trace } where
  deeds := ⟨trace, .single (.aside aside), rfl⟩
  held := fun taken => Or.inl (held taken)
  line := ⟨_, rfl⟩
  jobs := rfl
  outcomes := rfl
  tells := by
    intro going gone
    rw [going] at gone
    cases gone

section Acts

variable {before : Deployment}

theorem works_start : Works before before.start.2 := by
  cases can : before.service.state.canBecome .starting with
  | true =>
      have new : before.service.state = .new := by
        cases state : before.service.state <;> first | rfl | (rw [state] at can; cases can)
      simp only [start, enter_of_canBecome can, setWorker, wake_eq]
      refine ⟨⟨⟨_, .single (.starts new), rfl⟩, ?_, ?_⟩, rfl, rfl, ?_⟩
      · intro _
        refine Or.inr ?_
        intro impossible
        cases impossible
      · exact ⟨_, lineUpAll_lineUpAll before.ready _ [.worker]⟩
      · intro _ gone
        cases gone
  | false =>
      simp only [start, enter_of_cannot can]
      exact .refl before

theorem works_submitNow (door : Door) (draft : Draft) :
    Works before (before.submitNow door draft).2 := by
  rcases submitNow_cases before door draft with
    same | ⟨queue, woken, next, batch, entry, _, rfl | rfl, same⟩ <;> rw [same]
  · exact .refl before
  · exact (works_adopt before woken next).trans (works_note _ ⟨⟨rfl, rfl⟩, rfl⟩)
  · exact (works_adopt before woken next).trans (works_note _ ⟨⟨rfl, rfl⟩, rfl⟩)

theorem works_logStats (tag : String) : Works before (before.logStats tag) := by
  unfold logStats
  cases before.source with
  | buffered queue => exact works_log before rfl
  | scripted queue => exact works_note before ⟨⟨rfl, rfl⟩, rfl⟩

theorem works_handOver {holder : Holder} (held : before.holder ≠ .nobody) :
    Works before { before with holder } := by
  have works := works_around before .nil before.now [] before.source before.gates
    before.cancelled before.watches holder fun _ => held
  rw [List.append_nil] at works
  exact works

/-- Every act of a regular deployment comes to deeds. -/
theorem Regular.works_of_act (regular : before.Regular) {after : Deployment}
    (act : Act before after) : Works before after := by
  have around {now : Nat} {gates : List (String × Permits Actor)} {cancelled : List String}
      (woken : List Actor) :
      Works before
        { before with now, gates, cancelled, ready := lineUpAll before.ready woken } := by
    have works := works_around before .nil now woken before.source gates cancelled
      before.watches before.holder id
    rw [List.append_nil] at works
    exact works
  cases act with
  | clock time actors _ =>
      rw [wakeAll_eq]
      exact around actors
  | release gate count =>
      rw [wakeAll_eq]
      exact around _
  | cancel token =>
      rw [wakeAll_eq]
      exact around _
  | submitNow door draft => exact works_submitNow door draft
  | close buffered => exact works_adopt before _ _
  | logStats tag => exact works_logStats tag
  | start => exact works_start
  | stop held => exact (works_requestStop (regular.held held)).1
  | drop =>
      unfold dropHolder
      cases holder : before.holder with
      | nobody => exact .refl before
      | handle | runtime =>
          have held : before.holder ≠ .nobody := by
            rw [holder]
            intro impossible
            cases impossible
          have started : ({ before with holder := .nobody } : Deployment).service.state ≠ .new :=
            regular.held held
          exact (works_handOver held).trans (works_requestStop started).1
  | handOver holder held => exact works_handOver held
  | announce settings held =>
      unfold announce
      dsimp only
      split
      · exact (works_handOver held).trans (works_log _ rfl)
      · exact works_handOver held
  | watch watches =>
      have works := works_around before .nil before.now [] before.source before.gates
        before.cancelled watches before.holder id
      rw [List.append_nil] at works
      exact works

theorem works_whim {after : Deployment} (whim : Whim before after) : Works before after := by
  cases whim with
  | answers later scripted =>
      have works := works_aside (.scripted later) before.gates [] before .nil
      rw [List.append_nil] at works
      exact works
  | main later _ here =>
      have works := works_of_deed before.source before.gates [.worker] (.waitsOn later here)
        (by rw [here]; rfl)
      rw [List.append_nil] at works
      rw [wake_eq]
      exact works
  | drain later _ here =>
      have works := works_of_deed before.source before.gates [.worker] (.drainWaits later here)
        (by rw [here]; rfl)
      rw [List.append_nil] at works
      rw [wake_eq]
      exact works

end Acts

/-! ## Events -/

/-- What an event comes to.  Whoever has had his turn leaves the line. -/
inductive Passes (before : Deployment) : Deployment → Prop where
  | works {after} (works : Works before after) : Passes before after
  | rests {rest after} (line : before.ready = .worker :: rest) (works : Works before after) :
      Passes before after.stepBack
  | visits {id rest after} (line : before.ready = .caller id :: rest)
      (visits : Visits before id after) : Passes before after.stepBack
  | begins (id : Nat) (call : Call)
      (owned : call.isJoin = true → before.service.state ≠ .new) :
      Passes before ((before.addJob id call).wake (.caller id))
  | aborts {id : Nat} {job : Job} (known : before.job? id = some job) :
      Passes before ((before.setJob id { job with doomed := true }).wake (.caller id))

section Events

variable {before after : Deployment}

theorem Regular.passes_tick (regular : before.Regular) : Passes before before.tick := by
  unfold tick
  cases line : before.ready with
  | nil => exact .works (.refl before)
  | cons head rest =>
      cases head with
      | worker =>
          have works := works_advanceWorker regular.lawful
          dsimp only
          split
          · next after goesOn =>
            rw [goesOn] at works
            exact .works works
          · next after rests =>
            rw [rests] at works
            exact .rests line works
      | caller id => exact .visits line (visits_advanceCaller regular.lawful regular.joins)

theorem Regular.passes (regular : before.Regular) (event : Event before after) :
    Passes before after := by
  cases event with
  | turn => exact regular.passes_tick
  | begins id call owned => exact .begins id call owned
  | abort known => exact .aborts known
  | act act => exact .works (regular.works_of_act act)
  | whim whim => exact .works (works_whim whim)

/-- Every event comes to deeds. -/
theorem Passes.deeds (passes : Passes before after) :
    ∃ trace, Deeds before.service after.service trace ∧
      after.journal = before.journal ++ trace := by
  cases passes with
  | works works => exact works.deeds
  | rests _ works => exact works.deeds
  | visits _ visits => exact visits.deeds
  | begins id call _ =>
      rw [wake_eq]
      exact ⟨[], .none _, (List.append_nil _).symm⟩
  | aborts known =>
      rw [wake_eq]
      exact ⟨[], .none _, (List.append_nil _).symm⟩

/-- Every event keeps a deployment regular. -/
theorem Passes.regular (passes : Passes before after) (regular : before.Regular) :
    after.Regular := by
  rcases passes.deeds with ⟨trace, deeds, _⟩
  have lawful := deeds.lawful regular.lawful
  have worked {later : Deployment} (works : Works before later) : later.Regular := by
    refine ⟨works.deeds.elim fun _ there => there.1.lawful regular.lawful, ?_, ?_⟩
    · intro held
      rcases works.held held with earlier | started
      · exact works.started (regular.held earlier)
      · exact started
    · intro entry member joins
      rw [works.jobs] at member
      exact works.started (regular.joins entry member joins)
  cases passes with
  | works works => exact worked works
  | rests _ works =>
      have kept := worked works
      exact ⟨kept.lawful, kept.held, kept.joins⟩
  | @visits id rest later line visits =>
      refine ⟨lawful, ?_, ?_⟩
      · intro held
        rcases visits.held held with earlier | started
        · exact visits.started (regular.held earlier)
        · exact started
      · intro entry member joins
        replace member : entry ∈ later.jobs := member
        apply visits.started
        cases visits.visit with
        | rests jobs _ _ =>
            rw [jobs] at member
            exact regular.joins entry member joins
        | stays known follows jobs _ _ =>
            rw [jobs] at member
            rcases mem_setJob member with ⟨old, _⟩ | new
            · exact regular.joins entry old joins
            · rw [new] at joins
              exact regular.joins _ (mem_of_job? known) (follows.isJoin_eq.symm.trans joins)
        | ends known _ jobs _ =>
            rw [jobs] at member
            exact regular.joins entry (mem_finish.mp member).1 joins
  | begins id call owned =>
      rw [wake_eq]
      refine ⟨regular.lawful, regular.held, ?_⟩
      intro entry member joins
      rcases List.mem_append.mp member with old | new
      · exact regular.joins entry old joins
      · rw [List.mem_singleton.mp new] at joins
        exact owned joins
  | aborts known =>
      rw [wake_eq]
      refine ⟨regular.lawful, regular.held, ?_⟩
      intro entry member joins
      rcases mem_setJob member with ⟨old, _⟩ | new
      · exact regular.joins entry old joins
      · rw [new] at joins
        exact regular.joins _ (mem_of_job? known) joins

/-- A call under way goes on wanting what it wanted, or has ended at the turn of
its caller. -/
theorem Passes.follows (passes : Passes before after) {id : Nat} {job : Job}
    (known : before.job? id = some job) :
    (∃ later, after.job? id = some later ∧ later.call.isJoin = job.call.isJoin) ∨
      (after.job? id = none ∧ ∃ outcome, Concludes after.service job outcome ∧
        after.outcomes = before.outcomes ++ [(id, outcome)]) := by
  have stays (same : after.job? id = before.job? id) :
      ∃ later, after.job? id = some later ∧ later.call.isJoin = job.call.isJoin :=
    ⟨job, same.trans known, rfl⟩
  cases passes with
  | works works | rests _ works => exact Or.inl (stays (congrArg (List.lookup id) works.jobs))
  | begins other call _ =>
      refine Or.inl ⟨job, ?_, rfl⟩
      rw [wake_eq]
      unfold job? at known ⊢
      simp only [addJob, List.lookup_append, known, Option.some_or]
  | @aborts other present aborted =>
      refine Or.inl ?_
      rw [wake_eq] at stays ⊢
      by_cases same : id = other
      · subst same
        rw [known] at aborted
        cases aborted
        exact ⟨_, job?_setJob known _, rfl⟩
      · exact stays (job?_setJob_of_ne same _)
  | @visits other rest later line visits =>
      cases visits.visit with
      | rests jobs _ _ => exact Or.inl (stays (congrArg (List.lookup id) jobs))
      | @stays call next found follows jobs _ _ =>
          refine Or.inl ?_
          by_cases same : id = other
          · subst same
            rw [known] at found
            cases found
            exact ⟨_, (congrArg (List.lookup id) jobs).trans (job?_setJob known { call := next }),
              follows.isJoin_eq⟩
          · exact stays ((congrArg (List.lookup id) jobs).trans (job?_setJob_of_ne same _))
      | @ends ended outcome found concludes jobs outcomes =>
          by_cases same : id = other
          · subst same
            rw [known] at found
            cases found
            exact Or.inr ⟨(congrArg (List.lookup id) jobs).trans (job?_finish_self outcome),
              outcome, concludes, outcomes⟩
          · exact Or.inl (stays ((congrArg (List.lookup id) jobs).trans
              (job?_finish_of_ne same _)))

/-- What has ended is not forgotten. -/
theorem Passes.outcomes (passes : Passes before after) : before.outcomes ⊆ after.outcomes := by
  have kept {later : Deployment} (same : later.outcomes = before.outcomes) :
      before.outcomes ⊆ later.outcomes := by
    rw [same]
    exact List.Subset.refl _
  cases passes with
  | works works => exact kept works.outcomes
  | rests _ works => exact kept works.outcomes
  | begins id call _ =>
      rw [wake_eq]
      exact List.Subset.refl _
  | aborts _ =>
      rw [wake_eq]
      exact List.Subset.refl _
  | @visits _ _ later _ visits =>
      cases visits.visit with
      | rests _ outcomes _ => exact kept outcomes
      | stays _ _ _ outcomes _ => exact kept outcomes
      | ends _ _ _ outcomes =>
          rw [show later.stepBack.outcomes = _ from outcomes]
          exact List.subset_append_left _ _

end Events

/-! ## Sequences of events -/

/-- Nothing more has become of the service, and nothing more has passed between
it and its queue. -/
structure AtRest (origin : Deployment) (service : Service) (journal : Journal) : Prop where
  state : service.state = origin.service.state
  worker : service.worker = origin.service.worker
  states : journal.states = origin.journal.states
  contacts : journal.contacts = origin.journal.contacts
  sizes : journal.sizes = origin.journal.sizes

namespace Regular

variable {origin reached : Deployment} (regular : origin.Regular)
  (evolves : Evolves origin reached)
include regular evolves

theorem persists : reached.Regular := by
  induction evolves with
  | refl => exact regular
  | tail _ event inductionHypothesis =>
      exact (inductionHypothesis.passes event).regular inductionHypothesis

/-- What every deed keeps is kept by whatever happens. -/
theorem keeps {property : Service → Journal → Prop}
    (keeps : ∀ service later journal trace, service.Lawful → Deed service later trace →
      property service journal → property later (journal ++ trace))
    (holds : property origin.service origin.journal) :
    property reached.service reached.journal := by
  induction evolves with
  | refl => exact holds
  | tail earlier event inductionHypothesis =>
      have there := regular.persists earlier
      rcases (there.passes event).deeds with ⟨trace, deeds, journal⟩
      rw [journal]
      exact deeds.keeps keeps there.lawful inductionHypothesis

theorem started (started : origin.service.state ≠ .new) : reached.service.state ≠ .new :=
  regular.keeps evolves (fun _ _ _ _ _ deed kept => deed.started kept) started

/-- Whatever happens to a service that has ended, it stays as it is, and its
queue is left alone. -/
theorem atRest (ended : origin.service.state.isTerminal = true) :
    AtRest origin reached.service reached.journal := by
  apply regular.keeps evolves
  · intro service later journal trace lawful deed rest
    have still : service.state.isTerminal = true := by
      rw [rest.state]
      exact ended
    rcases deed.of_isTerminal lawful still with ⟨state, worker, aside⟩
    refine ⟨state.trans rest.state, worker.trans rest.worker, ?_, ?_, ?_⟩
    · rw [Journal.states_append, aside.states_eq, List.append_nil, rest.states]
    · rw [Journal.contacts_append, aside.contacts_eq, List.append_nil, rest.contacts]
    · rw [Journal.sizes_append, aside.sizes_eq, List.append_nil, rest.sizes]
  · exact ⟨rfl, rfl, rfl, rfl, rfl⟩

end Regular

/-! ## Runs -/

section Runs

variable {before after : Deployment}

/-- Every move is an event. -/
theorem Move.event {others : Bool} (move : Move others before after) : Event before after := by
  cases move with
  | turn => exact .turn
  | begins _ may => exact .begins _ _ may.joins
  | abort known => exact .abort known
  | act act => exact .act act

theorem evolves_of_reaches {others : Bool} (reaches : Reaches others before after) :
    Evolves before after := by
  induction reaches with
  | refl => exact .refl
  | tail _ move inductionHypothesis => exact inductionHypothesis.tail move.event

theorem evolves_settle (deployment : Deployment) : Evolves deployment deployment.settle :=
  evolves_of_reaches (reaches_settle true deployment)

theorem evolves_spawn (regular : before.Regular) (id : Nat) {call : Call}
    (owned : call.isJoin = true → before.service.state ≠ .new) :
    Evolves before (before.spawn id call) := by
  have settles := evolves_settle before
  have begins : Event before.settle ((before.settle.addJob id call).wake (.caller id)) :=
    .begins id call fun joins => regular.started settles (owned joins)
  exact (settles.tail begins).trans (evolves_settle _)

/-- Whatever a step comes to, comes about by events. -/
theorem Taken.evolves {id : Nat} {step : Step} (taken : Taken before id step after)
    (regular : before.Regular) : Evolves before after := by
  cases taken with
  | acts atOnce _ => exact .single (.act atOnce.act)
  | settles => exact evolves_settle before
  | advances duration => exact evolves_of_reaches (reaches_advance true before duration)
  | aborts _ known => exact (Relation.ReflTransGen.single (.abort known)).trans (evolves_settle _)
  | begins _ _ _ single =>
      apply evolves_spawn regular
      intro joins
      rw [single] at joins
      cases joins
  | joins given _ =>
      have held := Holder.ne_nobody given
      have handed : Event before { before with holder := .nobody } :=
        .act (.handOver .nobody held)
      exact (Relation.ReflTransGen.single handed).trans
        (evolves_spawn ((regular.passes handed).regular regular) id fun _ => regular.held held)

/-- Every run is made of events, whatever the queue is and whatever is done to
the service and its queue from outside. -/
theorem evolves_run (regular : before.Regular) (id : Nat) (steps : List (Option Step)) :
    Evolves before (before.run id steps).2 := by
  induction steps generalizing id before with
  | nil => exact .refl
  | cons step rest inductionHypothesis =>
      cases step with
      | none => exact inductionHypothesis regular (id + 1)
      | some step =>
          have first := (take_taken id step).evolves regular
          exact first.trans (inductionHypothesis (regular.persists first) (id + 1))

end Runs

/-! ## Beginnings -/

/-- A service that nobody has started or can stop, over any queue. -/
structure Untouched (deployment : Deployment) : Prop where
  worker : deployment.service.worker = .idle
  state : deployment.service.state = .new
  untold : deployment.service.stopRequested = false
  holder : deployment.holder = .nobody
  jobs : deployment.jobs = []
  journal : deployment.journal.Unspoken

theorem Untouched.regular {deployment : Deployment} (untouched : deployment.Untouched) :
    deployment.Regular where
  lawful := by
    unfold Service.Lawful
    rw [untouched.worker]
    exact ⟨untouched.state, untouched.untold⟩
  held := fun held => absurd untouched.holder held
  joins := by
    intro entry member
    rw [untouched.jobs] at member
    cases member

end Deployment
end FailureDispatch

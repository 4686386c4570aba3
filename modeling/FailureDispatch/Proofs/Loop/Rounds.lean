import FailureDispatch.Proofs.Dispatch.Return
import FailureDispatch.Proofs.Loop.Results

/-!
# Rounds of the main loop

As long as nobody has told a service to stop, its worker goes round: he calls the
queue, waits for the result, and does what the result calls for.  `Living` says where
in a round he can be, what he has written by then, and which results he has had; every
event keeps it (`Living.event`), over any queue that does not panic.

A dispatch in the middle of a round is not looked into here.  It is the one that
`Underway` follows from the moment at which the batch was taken.
-/

namespace FailureDispatch

def QueueAnswer.isPanic : QueueAnswer → Bool
  | .panic _ => true
  | _ => false

namespace Deployment

/-! ## What has been written -/

/-- What the worker writes when the service starts up. -/
def openingTrace (origin : Deployment) : Journal :=
  [.logged (.startingUp origin.service.handlers.length origin.service.fallback.name),
    .entered .running, .logged .upAndRunning]

/-- What the worker has to have written when he has done what the results call for. -/
def rounds (origin : Deployment) (results : List Result) : Account :=
  (Account.mk origin.openingTrace origin.service.staff).andThen
    (Staff.attend origin.source.callTrace results)

/-- What he has to have written when he has called the queue once more. -/
def called (origin : Deployment) (results : List Result) : Account :=
  (origin.rounds results).andThen fun staff => ⟨origin.source.callTrace, staff⟩

/-- The queue has not said that it is closed. -/
def Unclosed (results : List Result) : Prop :=
  ∀ backlog, Result.error .queueClosed backlog ∉ results

theorem Unclosed.nil : Unclosed [] :=
  fun _ => List.not_mem_nil

theorem Unclosed.concat {results : List Result} (unclosed : Unclosed results) {result : Result}
    (other : ∀ backlog, result ≠ .error .queueClosed backlog) : Unclosed (results ++ [result]) := by
  intro backlog member
  rcases List.mem_append.mp member with earlier | last
  · exact unclosed backlog earlier
  · exact other backlog (List.mem_singleton.mp last).symm

theorem rounds_concat (origin : Deployment) (results : List Result) (result : Result) :
    origin.rounds (results ++ [result]) =
      (origin.rounds results).andThen fun staff => staff.meet origin.source.callTrace result := by
  rw [rounds, rounds, Account.andThen_assoc]
  congr 1
  funext staff
  exact Staff.attend_concat ..

/-- Nobody has told the service to stop, and it is in the given state. -/
structure Stays (origin : Deployment) (state : ServiceState) (reached : Deployment) : Prop where
  state : reached.service.state = state
  untold : reached.service.stopRequested = false
  kind : reached.source.callTrace = origin.source.callTrace

/-- The worker has moreover come to the given account. -/
structure Stands (origin : Deployment) (state : ServiceState) (account : Account)
    (reached : Deployment) : Prop extends Stays origin state reached where
  own : reached.journal.own = origin.journal.own ++ account.trace
  staff : reached.service.staff = account.staff

/-- Where in a round the worker is, which results he has had, and what he has written. -/
inductive Living (origin : Deployment) : List Result → Deployment → Prop where
  | idle {reached} (stands : Stands origin .new (.idle origin.service.staff) reached)
      (here : reached.service.worker = .idle) : Living origin [] reached
  | fresh {reached} (stands : Stands origin .starting (.idle origin.service.staff) reached)
      (here : reached.service.worker = .fresh) : Living origin [] reached
  | looping {results reached} (stands : Stands origin .running (origin.rounds results) reached)
      (unclosed : Unclosed results) (here : reached.service.worker = .looping) :
      Living origin results reached
  | fetching {results reached fetch}
      (stands : Stands origin .running (origin.called results) reached)
      (unclosed : Unclosed results) (here : reached.service.worker = .fetching fetch) :
      Living origin results reached
  | dispatching {results taken batch dispatch reached}
      (stands : Stands origin .running
        ((origin.called results).andThen fun staff => ⟨[.contact (.gives batch)], staff⟩) taken)
      (unclosed : Unclosed results) (stays : Stays origin .running reached)
      (underway : Underway taken .main batch dispatch reached) :
      Living origin (results ++ [.batch batch]) reached
  | parked {results backlog reached}
      (stands : Stands origin .running
        (origin.rounds (results ++ [.error .queueClosed backlog])) reached)
      (unclosed : Unclosed results) (here : reached.service.worker = .parked) :
      Living origin (results ++ [.error .queueClosed backlog]) reached

/-! ## Changes that do not concern the worker -/

section Elsewhere

variable {origin before after : Deployment} {state : ServiceState} {account : Account}
  {results : List Result}

theorem Stays.elsewhere (stays : Stays origin state before) (elsewhere : Elsewhere before after)
    (going : before.service.worker.isGone = false) (untold : after.service.stopRequested = false) :
    Stays origin state after where
  state := by
    rcases elsewhere.state with same | told | gone
    · exact same.trans stays.state
    · rw [untold] at told
      cases told
    · rw [going] at gone
      cases gone
  untold := untold
  kind := elsewhere.source.callTrace_eq.trans stays.kind

theorem Stands.elsewhere (stands : Stands origin state account before)
    (elsewhere : Elsewhere before after) (going : before.service.worker.isGone = false)
    (untold : after.service.stopRequested = false) : Stands origin state account after where
  toStays := stands.toStays.elsewhere elsewhere going untold
  own := by
    rcases elsewhere.journal with ⟨trace, others, journal⟩
    rw [journal, Journal.own_append, others.own_eq, List.append_nil, stands.own]
  staff := elsewhere.staff.trans stands.staff

theorem Living.elsewhere (living : Living origin results before)
    (elsewhere : Elsewhere before after) (untold : after.service.stopRequested = false) :
    Living origin results after := by
  have stands {state : ServiceState} {account : Account} {worker : Worker}
      (stands : Stands origin state account before) (here : before.service.worker = worker)
      (going : worker.isGone = false) :
      Stands origin state account after ∧ after.service.worker = worker :=
    ⟨stands.elsewhere elsewhere (here ▸ going) untold, elsewhere.worker.trans here⟩
  cases living with
  | idle there here => exact .idle (stands there here rfl).1 (stands there here rfl).2
  | fresh there here => exact .fresh (stands there here rfl).1 (stands there here rfl).2
  | looping there unclosed here =>
      exact .looping (stands there here rfl).1 unclosed (stands there here rfl).2
  | fetching there unclosed here =>
      exact .fetching (stands there here rfl).1 unclosed (stands there here rfl).2
  | dispatching there unclosed stays underway =>
      have going : before.service.worker.isGone = false := by
        rw [underway.worker]
        rfl
      exact .dispatching there unclosed (stays.elsewhere elsewhere going untold)
        (underway.elsewhere elsewhere)
  | parked there unclosed here =>
      exact .parked (stands there here rfl).1 unclosed (stands there here rfl).2

/-- Whoever stands in line, and what the queue is about to answer, is no part of a round. -/
theorem Living.of_same (living : Living origin results before)
    (service : after.service = before.service) (journal : after.journal = before.journal)
    (kind : after.source.callTrace = before.source.callTrace) : Living origin results after := by
  have stays {state : ServiceState} (stays : Stays origin state before) :
      Stays origin state after :=
    ⟨by rw [service, stays.state], by rw [service, stays.untold], kind.trans stays.kind⟩
  have stands {state : ServiceState} {account : Account} {worker : Worker}
      (stands : Stands origin state account before) (here : before.service.worker = worker) :
      Stands origin state account after ∧ after.service.worker = worker :=
    ⟨⟨stays stands.toStays, by rw [journal, stands.own], by rw [service, stands.staff]⟩,
      by rw [service, here]⟩
  cases living with
  | idle there here => exact .idle (stands there here).1 (stands there here).2
  | fresh there here => exact .fresh (stands there here).1 (stands there here).2
  | looping there unclosed here =>
      exact .looping (stands there here).1 unclosed (stands there here).2
  | fetching there unclosed here =>
      exact .fetching (stands there here).1 unclosed (stands there here).2
  | dispatching there unclosed still underway =>
      exact .dispatching there unclosed (stays still) (underway.of_same service journal)
  | parked there unclosed here =>
      exact .parked (stands there here).1 unclosed (stands there here).2

/-- A queue that changes its mind leaves the worker where he is in his round. -/
theorem Living.whim (living : Living origin results before) (whim : Whim before after) :
    Living origin results after := by
  cases whim with
  | answers later scripted => exact living.of_same rfl rfl (by rw [scripted]; rfl)
  | @main queue fetch later scripted fetching =>
      rw [wake_eq]
      cases living with
      | fetching there unclosed here =>
          exact .fetching ⟨⟨there.state, there.untold, there.kind⟩, there.own, there.staff⟩ unclosed rfl
      | idle _ here | fresh _ here | looping _ _ here | parked _ _ here =>
          rw [here] at fetching
          cases fetching
      | dispatching _ _ _ underway =>
          rw [underway.worker] at fetching
          cases fetching
  | @drain queue count deadline fetch later scripted draining =>
      cases living with
      | idle _ here | fresh _ here | looping _ _ here | fetching _ _ here | parked _ _ here =>
          rw [here] at draining
          cases draining
      | dispatching _ _ _ underway =>
          rw [underway.worker] at draining
          cases draining

/-- A service that is started has a worker who is about to start up. -/
theorem start_eq (new : before.service.state = .new) :
    ∃ ready version, before.start.2 = { before with
      ready
      service := { before.service with state := .starting, version, worker := .fresh }
      holder := .handle
      journal := before.journal ++ [.entered .starting] } := by
  have can : before.service.state.canBecome .starting = true := by
    rw [new]
    rfl
  simp only [start, enter_of_canBecome can, setWorker, wake_eq]
  exact ⟨_, _, rfl⟩

/-- In a service that has not been started, the worker has done nothing. -/
theorem Living.of_new (living : Living origin results before) (new : before.service.state = .new) :
    results = [] ∧ before.service.worker = .idle ∧
      Stands origin .new (.idle origin.service.staff) before := by
  cases living with
  | idle there here => exact ⟨rfl, here, there⟩
  | fresh there _ | looping there _ _ | fetching there _ _ | parked there _ _ =>
      rw [there.state] at new
      cases new
  | dispatching _ _ stays _ =>
      rw [stays.state] at new
      cases new

/-- The service is started. -/
theorem Living.starts (living : Living origin results before) (new : before.service.state = .new) :
    Living origin results before.start.2 ∧ heard before before.start.2 = [] := by
  rcases start_eq new with ⟨ready, version, same⟩
  rcases living.of_new new with ⟨nothing, _, there⟩
  have journal : before.start.2.journal = before.journal ++ [.entered .starting] := by rw [same]
  have quiet : Journal.own [.entered .starting] = [] := rfl
  refine ⟨?_, ?_⟩
  · rw [nothing, same]
    refine .fresh ⟨⟨rfl, there.untold, there.kind⟩, ?_, there.staff⟩ rfl
    simp only [Journal.own_append, quiet, List.append_nil]
    exact there.own
  · rw [heard_eq journal]
    rfl

end Elsewhere

/-! ## Answers -/

/-- A turn of the worker brings results and goes on with the round. -/
def KeepsRound (origin : Deployment) (results : List Result) (before after : Deployment) : Prop :=
  ∃ trace, after.journal = before.journal ++ trace ∧
    Living origin (results ++ trace.results after.backlog) after

section Answers

variable {origin before middle after : Deployment} {results : List Result}

theorem KeepsRound.afterTurn (keeps : KeepsRound origin results before after) (progress : Progress) :
    KeepsRound origin results before (after.afterTurn progress) := by
  rcases keeps with ⟨trace, journal, living⟩
  cases progress with
  | goesOn => exact ⟨trace, journal, living⟩
  | rests => exact ⟨trace, journal, living.of_same rfl rfl rfl⟩

/-- Something has been written before that records no result. -/
theorem KeepsRound.precededBy {trace : Journal} (journal : middle.journal = before.journal ++ trace)
    (silent : ∀ backlog, trace.results backlog = [])
    (keeps : KeepsRound origin results middle after) : KeepsRound origin results before after := by
  rcases keeps with ⟨rest, continued, living⟩
  refine ⟨trace ++ rest, ?_, ?_⟩
  · rw [continued, journal, List.append_assoc]
  · rw [Journal.results_append, silent, List.nil_append]
    exact living

/-- A worker who has called his queue waits for the result. -/
theorem Stands.waits (stands : Stands origin .running (origin.called results) middle)
    (unclosed : Unclosed results) (fetch : Fetch) :
    KeepsRound origin results middle (middle.setWorker (.fetching fetch)) := by
  refine ⟨[], (List.append_nil _).symm, ?_⟩
  rw [Journal.results, List.filterMap_nil, List.append_nil]
  exact .fetching ⟨⟨stands.state, stands.untold, stands.kind⟩, stands.own, stands.staff⟩ unclosed rfl

/-- A dispatch that is over completes its round. -/
theorem Stands.completes {taken : Deployment} {batch : Batch}
    (stands : Stands origin .running
      ((origin.called results).andThen fun staff => ⟨[.contact (.gives batch)], staff⟩) taken)
    (stays : Stays origin .running after) (ended : Over taken .main batch after) :
    Stands origin .running (origin.rounds (results ++ [.batch batch])) after where
  toStays := stays
  own := by
    rw [ended.own, stands.own, stands.staff, rounds_concat]
    simp only [called, Staff.meet, Account.andThen, List.append_assoc]
  staff := by
    rw [ended.staff, stands.staff, rounds_concat]
    rfl

/-- A batch is taken in hand. -/
theorem Stands.takes (stands : Stands origin .running (origin.called results) middle)
    (unclosed : Unclosed results) (batch : Batch) :
    KeepsRound origin results middle (middle.takeInHand .main batch) := by
  have noted : Stands origin .running
      ((origin.called results).andThen fun staff => ⟨[.contact (.gives batch)], staff⟩)
      (middle.noteAll [.contact (.gives batch), .taken batch]) := by
    have own : Journal.own [.contact (.gives batch), .taken batch] = [.contact (.gives batch)] := rfl
    refine ⟨⟨stands.state, stands.untold, stands.kind⟩, ?_, stands.staff⟩
    simp only [noteAll, Journal.own_append, own, stands.own, Account.andThen, List.append_assoc]
  have started : (middle.noteAll [.contact (.gives batch), .taken batch]).service.state ≠ .new := by
    rw [noted.state]
    decide
  have begun := underway_or_over_beginDispatch started .main batch
  rcases takeInHand_eq middle .main batch with ⟨staff, worker, trace, same, _, brings⟩
  have stays : Stays origin .running (middle.takeInHand .main batch) := by
    rw [same]
    exact ⟨stands.state, stands.untold, stands.kind⟩
  refine ⟨trace, by rw [same], ?_⟩
  rw [brings]
  rcases begun with ⟨dispatch, underway⟩ | ended
  · exact .dispatching noted unclosed stays underway
  · exact .looping (noted.completes stays ended) (unclosed.concat (by simp)) ended.worker

/-- A call comes out with an error. -/
theorem Stands.misses (stands : Stands origin .running (origin.called results) middle)
    (unclosed : Unclosed results) (error : FailureError) :
    KeepsRound origin results middle (middle.missed error) := by
  rw [missed_eq]
  refine ⟨[.contact (.fails error), .logged (.ofMiss middle.backlog error)], rfl, ?_⟩
  have backlog : ({ middle with
      service := { middle.service with worker := .afterMiss error }
      journal := middle.journal ++
        [.contact (.fails error), .logged (.ofMiss middle.backlog error)] } : Deployment).backlog =
      middle.backlog := rfl
  have brings : Journal.results middle.backlog
      [.contact (.fails error), .logged (.ofMiss middle.backlog error)] =
        [.error error middle.backlog] := rfl
  rw [backlog, brings]
  have own : Journal.own [.contact (.fails error), .logged (.ofMiss middle.backlog error)] =
      [.contact (.fails error), .logged (.ofMiss middle.backlog error)] := by
    cases error <;> rfl
  have met : Stands origin .running
      (origin.rounds (results ++ [.error error middle.backlog]))
      { middle with
        service := { middle.service with worker := .afterMiss error }
        journal := middle.journal ++
          [.contact (.fails error), .logged (.ofMiss middle.backlog error)] } := by
    refine ⟨⟨stands.state, stands.untold, stands.kind⟩, ?_, ?_⟩
    · rw [Journal.own_append, own, stands.own, rounds_concat]
      simp only [called, Staff.meet, Account.andThen, List.append_assoc]
    · rw [rounds_concat]
      exact stands.staff
  cases error with
  | queueClosed => exact .parked met unclosed rfl
  | _ => exact .looping met (unclosed.concat (by simp)) rfl

/-- A scripted queue answers. -/
theorem Stands.answers (stands : Stands origin .running (origin.called results) middle)
    (unclosed : Unclosed results) {answer : QueueAnswer} (calm : answer.isPanic = false) :
    KeepsRound origin results middle (middle.answerMain answer) := by
  cases answer with
  | batch batch => exact stands.takes unclosed batch
  | error error => exact stands.misses unclosed error
  | panic text => cases calm
  | nothing => exact stands.waits unclosed .forStop

end Answers

/-! ## Turns of the worker -/

/-- The queue has no panic in store for the main loop. -/
structure Panicless (deployment : Deployment) : Prop where
  waits : ∀ queue, deployment.source = .scripted queue →
    ∀ reply ∈ queue.waits, reply.answer.isPanic = false
  fetching : ∀ time answer, deployment.service.worker = .fetching (.delayed time answer) →
    answer.isPanic = false

instance (deployment : Deployment) : Decidable deployment.Panicless :=
  decidable_of_iff
    ((match deployment.source with
      | .scripted queue => queue.waits.all fun reply => !reply.answer.isPanic
      | .buffered _ => true) = true ∧
    (match deployment.service.worker with
      | .fetching (.delayed _ answer) => !answer.isPanic
      | _ => true) = true) (by
    constructor
    · rintro ⟨stored, asked⟩
      constructor
      · intro queue scripted
        simpa [scripted] using stored
      · intro time answer here
        simpa [here] using asked
    · intro calm
      constructor
      · split
        · next queue scripted => simpa using calm.waits queue scripted
        · rfl
      · split
        · next here => simpa using calm.fetching _ _ here
        · rfl)

section Turns

variable {origin before after : Deployment} {results : List Result}

/-- Nothing happens in the turn. -/
theorem Living.still (living : Living origin results before) : KeepsRound origin results before before := by
  refine ⟨[], (List.append_nil _).symm, ?_⟩
  rw [Journal.results, List.filterMap_nil, List.append_nil]
  exact living

/-- A service that nobody has told to stop becomes running when its worker starts up. -/
theorem startUp_eq (starting : before.service.state = .starting) :
    ∃ ready version, before.startUp = { before with
      ready
      service := { before.service with state := .running, version, worker := .looping }
      journal := before.journal ++
        [.logged (.startingUp before.service.handlers.length before.service.fallback.name),
          .entered .running, .logged .upAndRunning] } := by
  generalize opening : before.log (.startingUp before.service.handlers.length
    before.service.fallback.name) = announced
  have can : announced.service.state.canBecome .running = true := by
    rw [← opening]
    show before.service.state.canBecome .running = true
    rw [starting]
    rfl
  simp only [startUp, opening, enter_of_canBecome can]
  simp only [← opening, log, note, setWorker, List.append_assoc, List.cons_append, List.nil_append]
  exact ⟨_, _, rfl⟩

/-- The service starts up. -/
theorem Living.startsUp (stands : Stands origin .starting (.idle origin.service.staff) before) :
    KeepsRound origin [] before before.startUp := by
  rcases startUp_eq stands.state with ⟨ready, version, same⟩
  have handlers : before.service.handlers = origin.service.handlers :=
    congrArg Staff.handlers stands.staff
  have fallback : before.service.fallback = origin.service.fallback :=
    congrArg Staff.fallback stands.staff
  rw [same, handlers, fallback]
  refine ⟨_, rfl, ?_⟩
  show Living origin [] _
  refine .looping ⟨⟨rfl, stands.untold, stands.kind⟩, ?_, stands.staff⟩ .nil rfl
  rw [Journal.own_append, stands.own]
  simp only [rounds, Account.idle, List.append_nil]
  rfl

/-- The worker turns to his queue, which may answer in the same turn. -/
theorem Living.asks (stands : Stands origin .running (origin.rounds results) before)
    (unclosed : Unclosed results) (calm : before.Panicless) :
    KeepsRound origin results before before.beginFetch.2 := by
  have asked (middle : Deployment) (service : middle.service = before.service)
      (journal : middle.journal = before.journal ++ before.source.callTrace)
      (kind : middle.source.callTrace = before.source.callTrace) :
      Stands origin .running (origin.called results) middle ∧
        ∀ backlog, before.source.callTrace.results backlog = [] := by
    have own : before.source.callTrace.own = before.source.callTrace := by
      cases before.source <;> rfl
    refine ⟨⟨⟨?_, ?_, kind.trans stands.kind⟩, ?_, ?_⟩, ?_⟩
    · rw [service, stands.state]
    · rw [service, stands.untold]
    · rw [journal, Journal.own_append, own, stands.own, stands.kind]
      simp only [called, Account.andThen, List.append_assoc]
    · rw [service]
      exact stands.staff
    · intro backlog
      cases before.source <;> rfl
  unfold beginFetch
  cases source : before.source with
  | buffered queue =>
      rw [source] at asked
      rcases asked (before.note (.contact .waits)) rfl rfl
        (by show before.source.callTrace = _; rw [source]) with ⟨stood, silent⟩
      exact (stood.waits unclosed _).precededBy rfl silent
  | scripted queue =>
      rw [source] at asked
      have twice : (before.note (.contact .waits)).note .fetched =
          { before with journal := before.journal ++ [.contact .waits, .fetched] } := by
        simp only [note, List.append_assoc, List.cons_append, List.nil_append]
      dsimp only
      cases waits : queue.waits with
      | nil =>
          rcases asked ((before.note (.contact .waits)).note .fetched) rfl (by rw [twice]; rfl)
            (by rw [twice]; show before.source.callTrace = _; rw [source]) with ⟨stood, silent⟩
          exact (stood.waits unclosed _).precededBy (by rw [twice]; rfl) silent
      | cons reply rest =>
          rcases asked { (before.note (.contact .waits)).note .fetched with
            source := .scripted { queue with waits := rest } } rfl (by rw [twice]; rfl) rfl with
            ⟨stood, silent⟩
          have peaceful := calm.waits queue source reply (by rw [waits]; exact List.mem_cons_self)
          dsimp only
          split
          · exact (stood.answers unclosed peaceful).precededBy (by rw [twice]; rfl) silent
          · exact (stood.waits unclosed _).precededBy (by rw [twice]; rfl) silent

/-- The worker looks for the result of his call. -/
theorem Living.looks {fetch : Fetch} (stands : Stands origin .running (origin.called results) before)
    (unclosed : Unclosed results) (here : before.service.worker = .fetching fetch)
    (calm : before.Panicless) : KeepsRound origin results before (before.advanceFetch fetch).2 := by
  have still : KeepsRound origin results before before :=
    Living.still (.fetching stands unclosed here)
  unfold advanceFetch
  cases fetch with
  | queued place =>
      cases source : before.source with
      | scripted queue => exact still
      | buffered queue =>
          have adopted (woken : List Actor) (next : SubmissionQueue Actor Batch) :
              Stands origin .running (origin.called results) (before.adopt woken next) ∧
                (before.adopt woken next).journal = before.journal ++ [] := by
            rw [adopt_eq, List.append_nil]
            refine ⟨⟨⟨stands.state, stands.untold, ?_⟩, stands.own, stands.staff⟩, rfl⟩
            rw [← stands.kind, source]
            rfl
          simp only [stands.untold, Bool.false_eq_true, if_false]
          rcases queue.seek .worker place with ⟨batch | _ | reached, woken, next⟩
          · exact ((adopted woken next).1.takes unclosed batch).precededBy (adopted woken next).2
              fun _ => rfl
          · exact ((adopted woken next).1.misses unclosed .queueClosed).precededBy (adopted woken next).2
              fun _ => rfl
          · exact ((adopted woken next).1.waits unclosed _).precededBy (adopted woken next).2 fun _ => rfl
  | delayed time answer =>
      dsimp only
      split
      · exact stands.answers unclosed (calm.fetching time answer here)
      · exact still
  | forStop =>
      simp only [stands.untold, Bool.false_eq_true, if_false]
      exact still

/-- A turn of a dispatch writes entries of dispatches, and changes neither the state of the
service nor its queue. -/
theorem advanceDispatch_frame {phase : Phase} {dispatch : Dispatch}
    (here : before.service.worker = .dispatching phase dispatch) :
    ∃ trace : Journal, trace.OfDispatch ∧
      (before.advanceDispatch phase dispatch).2.journal = before.journal ++ trace ∧
      (before.advanceDispatch phase dispatch).2.service.state = before.service.state ∧
      (before.advanceDispatch phase dispatch).2.service.stopRequested =
        before.service.stopRequested ∧
      (before.advanceDispatch phase dispatch).2.source = before.source := by
  by_cases finished : dispatch.current = none ∧ dispatch.pending = []
  · rcases finished with ⟨called, all⟩
    simp only [advanceDispatch, called, all]
    exact ⟨_, .cons rfl .nil, rfl, rfl, rfl, rfl⟩
  · rcases advanceDispatch_continues here (by
      intro called all
      exact finished ⟨called, all⟩) with ⟨stretch, gates, later, reached, _, inner, _⟩
    rw [reached]
    exact ⟨stretch.trace, inner.ofDispatch, rfl, rfl, rfl, rfl⟩

/-- A turn of the worker goes on with the round. -/
theorem Living.advances (living : Living origin results before) (calm : before.Panicless) :
    KeepsRound origin results before before.advanceWorker.2 := by
  have still := living.still
  unfold advanceWorker
  cases living with
  | idle _ here =>
      rw [here]
      exact still
  | fresh stands here =>
      rw [here]
      exact Living.startsUp stands
  | looping stands unclosed here =>
      simp only [here, stands.state, stands.untold, and_self, if_true]
      exact Living.asks stands unclosed calm
  | fetching stands unclosed here =>
      rw [here]
      exact Living.looks stands unclosed here calm
  | @dispatching results taken batch dispatch _ stands unclosed stays underway =>
      rw [underway.worker]
      rcases advanceDispatch_frame underway.worker with
        ⟨trace, ofDispatch, journal, state, untold, source⟩
      have kept : Stays origin .running (before.advanceDispatch .main dispatch).2 :=
        ⟨state.trans stays.state, untold.trans stays.untold, by rw [source]; exact stays.kind⟩
      refine ⟨trace, journal, ?_⟩
      rw [ofDispatch.results_eq, List.append_nil]
      rcases underway.advances with ⟨later, goesOn⟩ | ended
      · exact .dispatching stands unclosed kept goesOn
      · exact .looping (stands.completes kept ended) (unclosed.concat (by simp)) ended.worker
  | parked stands unclosed here =>
      simp only [here, stands.untold, Bool.false_eq_true, if_false]
      exact still

/-- Every event goes on with the round as long as nobody has told the service to stop. -/
theorem Living.event (living : Living origin results before) (event : Event before after)
    (calm : before.Panicless) (untold : after.service.stopRequested = false) :
    Living origin (results ++ heard before after) after := by
  rcases event.befalls with befalls | whim
  · cases befalls with
    | worker line =>
        rcases (living.advances calm).afterTurn before.advanceWorker.1 with ⟨trace, journal, later⟩
        rw [tick_of_worker line, heard_eq journal]
        exact later
    | starts new =>
        rcases living.starts new with ⟨later, silent⟩
        rw [silent, List.append_nil]
        exact later
    | elsewhere elsewhere =>
        rw [elsewhere.heard_eq, List.append_nil]
        exact living.elsewhere elsewhere untold
  · rw [whim.heard_eq, List.append_nil]
    exact living.whim whim

end Turns

end Deployment
end FailureDispatch

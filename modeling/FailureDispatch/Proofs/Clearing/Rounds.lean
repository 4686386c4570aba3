import FailureDispatch.Proofs.Clearing.Results
import FailureDispatch.Proofs.Loop.Rounds

/-!
# Rounds of a drain

`Clearing` says where the worker is in a drain that has brought so many batches, and what
he has written since it began; `Cleared` says the same of a drain that is over.  The queue
is arbitrary, but it does not panic.  Every event keeps the first or leads to the second,
and none leads away from the second.

The request for the statistics is the one entry of a drain that somebody else could
have made as well, so it is not among the worker's own.  That it is made once follows from
`Deed.unreported`: only the two deeds by which a drain ends make it.

An event that keeps a drain going brings it no farther from the next result
(`Worker.drainStrain`), which is used once the waits are known to end.
-/

namespace FailureDispatch

namespace Worker

/-- Whether the worker waits for an answer to a limited call. -/
def awaitsDrain : Worker → Bool
  | .drainFetching _ _ _ => true
  | _ => false

/-- How far the worker of a drain is from the next answer. -/
def drainStrain : Worker → ℕ ×ₗ (ℕ ×ₗ (ℕ ×ₗ ℕ))
  | .dispatching _ dispatch => toLex (2, dispatch.toil)
  | .draining _ => toLex (1, toLex (0, toLex (0, 0)))
  | _ => toLex (0, toLex (0, toLex (0, 0)))

end Worker

/-! ## What is not written before the end -/

section Deeds

variable {service later : Service} {trace : Journal}

/-- A worker who is gone stays gone. -/
theorem Deed.stays_gone (deed : Deed service later trace) (lawful : service.Lawful)
    (gone : service.worker.isGone = true) : later.worker.isGone = true := by
  have elsewhere {worker : Worker} (here : service.worker = worker)
      (going : worker.isGone = false) : later.worker.isGone = true := by
    rw [here, going] at gone
    cases gone
  cases deed with
  | buries _ _ | stops _ _ | stopsAgain _ _ | aside _ => exact gone
  | starts new => exact elsewhere (lawful.of_new new).1 rfl
  | takes awaits _ _ | tornDown _ awaits =>
      cases awaits with
      | main here | drain here => exact elsewhere here rfl
  | startsUp here _ | startsLate here _ | asks _ here _ _ _ | leavesLoop here _ | waitsOn _ here
  | misses _ _ here | unparks here _ | dispatches here _ | finishes here | asksWithin _ _ here _
  | drainWaits _ here | completes here _ _ | abandons here _ _ => exact elsewhere here rfl

/-- As long as the worker goes on, no drain has been reported. -/
theorem Deed.unreported (deed : Deed service later trace) (going : later.worker.isGone = false) :
    trace.Unreported := by
  have contacts {passed : List Contact} (same : trace.contacts = passed)
      (other : .reports Deployment.drainTag ∉ passed) : trace.Unreported := by
    unfold Journal.Unreported
    rw [same]
    exact other
  cases deed with
  | completes _ _ _ | abandons _ _ _ => cases going
  | stops _ reports => exact contacts (contacts_stopTrace reports.aside) (by decide)
  | asks _ _ _ _ aside | asksWithin _ _ _ aside => exact contacts (aside.contacts_cons _) (by simp)
  | takes _ _ ofDispatch =>
      exact contacts (congrArg (List.cons _) ofDispatch.aside.contacts_eq) (by simp)
  | dispatches _ inner => exact .of_aside inner.ofDispatch.aside
  | aside aside => exact .of_aside aside
  | misses error _ _ => exact @contacts [.fails error] rfl (by simp)
  | startsUp _ _ | startsLate _ _ | leavesLoop _ _ | waitsOn _ _ | unparks _ _ | finishes _
  | drainWaits _ _ | tornDown _ _ | buries _ _ | starts _ | stopsAgain _ _ =>
      exact @contacts [] rfl List.not_mem_nil

theorem Deeds.stays_gone (deeds : Deeds service later trace) (lawful : service.Lawful)
    (gone : service.worker.isGone = true) : later.worker.isGone = true := by
  induction deeds with
  | none => exact gone
  | more deed _ inductionHypothesis =>
      exact inductionHypothesis (deed.lawful lawful) (deed.stays_gone lawful gone)

theorem Deeds.unreported (deeds : Deeds service later trace) (lawful : service.Lawful)
    (going : later.worker.isGone = false) : trace.Unreported := by
  induction deeds with
  | none => exact .of_aside .nil
  | @more first next last trace rest deed more inductionHypothesis =>
      have afterwards := deed.lawful lawful
      have goingThen : next.worker.isGone = false := by
        cases gone : next.worker.isGone with
        | false => rfl
        | true =>
            rw [more.stays_gone afterwards gone] at going
            cases going
      exact (deed.unreported goingThen).append (inductionHypothesis afterwards going)

theorem Deeds.drainWait_eq (deeds : Deeds service later trace) :
    later.drainWait = service.drainWait := by
  induction deeds with
  | none => rfl
  | more deed _ inductionHypothesis => exact inductionHypothesis.trans deed.drainWait_eq

end Deeds

namespace Deployment

/-! ## What has been written -/

/-- No drain has been reported since, and the queue is called as before. -/
structure Within (left reached : Deployment) : Prop where
  source : ∀ limit, reached.source.drainCall limit = left.source.drainCall limit
  limit : reached.service.drainWait = left.service.drainWait
  since : ∃ trace, reached.journal = left.journal ++ trace ∧ trace.Unreported

/-- The worker has come to the given account. -/
structure Comes (left : Deployment) (account : Account) (reached : Deployment) : Prop
    extends Within left reached where
  own : reached.journal.own = left.journal.own ++ account.trace
  staff : reached.service.staff = account.staff

/-- Where the worker is in a drain that has brought the given batches. -/
inductive Clearing (left : Deployment) : List Batch → Deployment → Prop where
  | head {batches reached} (comes : Comes left (left.drained batches) reached)
      (here : reached.service.worker = .draining batches.length) : Clearing left batches reached
  | waits {batches deadline fetch reached}
      (comes : Comes left (left.drainedAndCalled batches) reached)
      (here : reached.service.worker = .drainFetching batches.length deadline fetch) :
      Clearing left batches reached
  | dispatching {batches taken batch dispatch reached}
      (comes : Comes left ((left.drainedAndCalled batches).andThen fun staff =>
        ⟨[.contact (.gives batch)], staff⟩) taken)
      (within : Within left reached)
      (underway : Underway taken (.drain batches.length) batch dispatch reached) :
      Clearing left (batches ++ [batch]) reached

/-- A drain that has brought the given batches is over.  What was written before the last
answer is the worker's account of the batches; after the accounts are closed, he writes
nothing more. -/
structure Cleared (left : Deployment) (batches : List Batch) (ending : DrainEnd)
    (reached : Deployment) : Prop where
  worker : reached.service.worker = ending.worker batches.length
  state : reached.service.state = ending.state
  staff : reached.service.staff = (left.drained batches).staff
  journal : ∃ earlier figures later,
    reached.journal =
      left.journal ++ (earlier ++ ending.closing batches.length figures ++ later) ∧
    earlier.Unreported ∧ earlier.own = (left.drainedAndCalled batches).trace ∧
    figures.showsFigures drainTag = true ∧ later.OfOthers ∧ later.Unreported

section Within

variable {left before middle after : Deployment} {account : Account}

theorem Within.refl (left : Deployment) : Within left left :=
  ⟨fun _ => rfl, rfl, [], (List.append_nil _).symm, .of_aside .nil⟩

theorem Within.drainCall_eq (within : Within left before) : before.drainCall = left.drainCall := by
  rw [drainCall, within.limit]
  exact within.source _

/-- Something is written that does not report the drain. -/
theorem Within.writes (within : Within left before) {trace : Journal}
    (journal : after.journal = before.journal ++ trace) (unreported : trace.Unreported)
    (source : ∀ limit, after.source.drainCall limit = before.source.drainCall limit)
    (limit : after.service.drainWait = before.service.drainWait) : Within left after where
  source := fun wait => (source wait).trans (within.source wait)
  limit := limit.trans within.limit
  since := by
    rcases within.since with ⟨earlier, since, silent⟩
    refine ⟨earlier ++ trace, ?_, silent.append unreported⟩
    rw [journal, since, List.append_assoc]

/-- The account is a matter of the service, of its journal, and of the kind of its queue. -/
theorem Comes.of_same (comes : Comes left account before)
    (staff : after.service.staff = before.service.staff)
    (limit : after.service.drainWait = before.service.drainWait)
    (journal : after.journal = before.journal)
    (source : ∀ limit, after.source.drainCall limit = before.source.drainCall limit) :
    Comes left account after where
  toWithin := comes.toWithin.writes (journal.trans (List.append_nil _).symm) (.of_aside .nil)
    source limit
  own := by rw [journal, comes.own]
  staff := staff.trans comes.staff

/-- The worker writes, and what is his of that is added to the account. -/
theorem Comes.writes (comes : Comes left account before) {trace part : Journal}
    (own : trace.own = part) (unreported : trace.Unreported)
    (staff : after.service.staff = before.service.staff)
    (limit : after.service.drainWait = before.service.drainWait)
    (journal : after.journal = before.journal ++ trace)
    (source : ∀ limit, after.source.drainCall limit = before.source.drainCall limit) :
    Comes left (account.andThen fun staff => ⟨part, staff⟩) after where
  toWithin := comes.toWithin.writes journal unreported source limit
  own := by
    rw [journal, Journal.own_append, own, comes.own]
    exact List.append_assoc ..
  staff := staff.trans comes.staff

/-- What the worker has written since the drain began is his account. -/
theorem Comes.since_own (comes : Comes left account before) :
    ∃ trace, before.journal = left.journal ++ trace ∧ trace.Unreported ∧
      trace.own = account.trace := by
  rcases comes.since with ⟨trace, since, unreported⟩
  refine ⟨trace, since, unreported, ?_⟩
  have own := comes.own
  rw [since, Journal.own_append] at own
  exact List.append_cancel_left own

end Within

/-! ## The end -/

/-- The drain is over. -/
def conclude (deployment : Deployment) (count : Nat) : DrainEnd → Deployment
  | .nothing => deployment.completeDrain count
  | .error error => deployment.abandonDrain count error

section Ends

variable {left before middle after : Deployment} {batches : List Batch} {ending : DrainEnd}

theorem showsFigures_figures (deployment : Deployment) (tag : String) :
    (deployment.figures tag).showsFigures tag = true := by
  unfold figures
  cases deployment.source <;> exact beq_self_eq_true tag

/-- Both ends of a drain go by the same accounts. -/
theorem conclude_eq (stopping : before.service.state = .stopping) (count : Nat)
    (ending : DrainEnd) :
    ∃ ready version figures, figures.showsFigures drainTag = true ∧
      before.conclude count ending =
        { before with
          ready
          service :=
            { before.service with state := ending.state, version, worker := ending.worker count }
          journal := before.journal ++ ending.closing count figures } := by
  have can : before.service.state.canBecome ending.state = true := by
    rw [stopping]
    exact ending.canBecome_state
  have retires : before.conclude count ending =
      ((((before.note (.contact ending.contact)).closeAccounts count).log
        (ending.notice count)).enter ending.state).2.retire (ending.worker count) := by
    cases ending with
    | nothing => exact before.completeDrain_eq count can
    | error _ => rfl
  rw [retires, enter_of_canBecome ((before.canBecome_closing ..).trans can), closing_eq]
  simp only [retire, setWorker, wakeAll_eq, DrainEnd.closing, List.append_assoc]
  exact ⟨_, _, _, before.showsFigures_figures drainTag, rfl⟩

/-- The worker ends after his last call. -/
theorem Comes.cleared (comes : Comes left (left.drainedAndCalled batches) middle)
    (stopping : middle.service.state = .stopping) (ending : DrainEnd) :
    Cleared left batches ending (middle.conclude batches.length ending) := by
  rcases conclude_eq stopping batches.length ending with ⟨ready, version, figures, shows, same⟩
  rcases comes.since_own with ⟨earlier, since, unreported, own⟩
  rw [same]
  refine ⟨rfl, rfl, comes.staff, earlier, figures, [], ?_, unreported, own, shows, .nil,
    .of_aside .nil⟩
  rw [List.append_nil, ← List.append_assoc, ← since]

/-- A drain that is over is a matter of the service and of its journal. -/
theorem Cleared.of_same (cleared : Cleared left batches ending before)
    (service : after.service = before.service) (journal : after.journal = before.journal) :
    Cleared left batches ending after := by
  rcases cleared with ⟨worker, state, staff, whole⟩
  rw [← service] at worker state staff
  rw [← journal] at whole
  exact ⟨worker, state, staff, whole⟩

/-- A worker whose drain is over has nothing to do. -/
theorem Cleared.rests (cleared : Cleared left batches ending before) :
    before.advanceWorker = (.rests, before) := by
  have here := cleared.worker
  cases ending <;> simp only [advanceWorker, here, DrainEnd.worker]

/-- Nothing that happens after a drain changes it. -/
theorem Cleared.event (cleared : Cleared left batches ending before) (regular : before.Regular)
    (event : Event before after) : Cleared left batches ending after := by
  have ended : before.service.state.isTerminal = true := by
    rw [cleared.state]
    exact ending.isTerminal_state
  have other {worker : Worker} (here : before.service.worker = worker)
      (going : worker.isGone = false) : False := by
    rw [cleared.worker] at here
    rw [← here, ending.isGone_worker] at going
    cases going
  rcases event.befalls with befalls | whim
  · cases befalls with
    | worker line =>
        rw [tick_of_worker line, cleared.rests]
        exact cleared.of_same rfl rfl
    | starts new =>
        rw [new] at ended
        cases ended
    | elsewhere elsewhere =>
        have rest := regular.atRest (.single event) ended
        rcases elsewhere.journal with ⟨trace, others, journal⟩
        have unreported : trace.Unreported := by
          have contacts := rest.contacts
          rw [journal, Journal.contacts_append] at contacts
          have nothing : trace.contacts = [] := List.append_right_eq_self.mp contacts
          unfold Journal.Unreported
          rw [nothing]
          exact List.not_mem_nil
        rcases cleared.journal with
          ⟨earlier, figures, later, whole, silent, own, shows, apart, mute⟩
        refine ⟨rest.worker.trans cleared.worker, rest.state.trans cleared.state,
          elsewhere.staff.trans cleared.staff, earlier, figures, later ++ trace, ?_, silent, own,
          shows, apart.append others, mute.append unreported⟩
        rw [journal, whole]
        simp only [List.append_assoc]
  · cases whim with
    | answers later scripted => exact cleared.of_same rfl rfl
    | main later _ here | drain later _ here => exact (other here rfl).elim

end Ends

/-! ## Answers -/

/-- The queue has no panic in store for the drain. -/
structure CalmInDrain (deployment : Deployment) : Prop where
  drains : ∀ queue, deployment.source = .scripted queue →
    ∀ reply ∈ queue.drains, reply.answer.isPanic = false
  fetching : ∀ count deadline time answer,
    deployment.service.worker = .drainFetching count deadline (.delayed time answer) →
      answer.isPanic = false

instance (deployment : Deployment) : Decidable deployment.CalmInDrain :=
  decidable_of_iff
    ((match deployment.source with
      | .scripted queue => queue.drains.all fun reply => !reply.answer.isPanic
      | .buffered _ => true) = true ∧
    (match deployment.service.worker with
      | .drainFetching _ _ (.delayed _ answer) => !answer.isPanic
      | _ => true) = true) (by
    constructor
    · rintro ⟨stored, asked⟩
      constructor
      · intro queue scripted
        simpa [scripted] using stored
      · intro count deadline time answer here
        simpa [here] using asked
    · intro calm
      constructor
      · split
        · next queue scripted => simpa using calm.drains queue scripted
        · rfl
      · split
        · next here => simpa using calm.fetching _ _ _ _ here
        · rfl)

/-- What may become of a drain that goes on: it stays where it is or gets nearer to the
next result, it takes a batch, or it ends. -/
inductive Clears (left : Deployment) (batches : List Batch) (before : Deployment) (moves : Prop)
    (after : Deployment) : Prop where
  | stays (clearing : Clearing left batches after)
      (most : after.service.worker.drainStrain ≤ before.service.worker.drainStrain)
      (less : moves → after.service.worker.drainStrain < before.service.worker.drainStrain)
  | takes (batch : Batch) (clearing : Clearing left (batches ++ [batch]) after)
  | ends (ending : DrainEnd) (cleared : Cleared left batches ending after)

section Answers

variable {left before middle after : Deployment} {batches : List Batch} {batch : Batch}
  {moves : Prop}

/-- A dispatch that is over completes its round. -/
theorem Comes.completes {taken : Deployment}
    (comes : Comes left ((left.drainedAndCalled batches).andThen fun staff =>
      ⟨[.contact (.gives batch)], staff⟩) taken)
    (within : Within left after) (ended : Over taken (.drain batches.length) batch after) :
    Clearing left (batches ++ [batch]) after := by
  refine .head ⟨within, ?_, ?_⟩ ?_
  · rw [ended.own, comes.own, comes.staff, drained_concat]
    simp only [Account.andThen, List.append_assoc]
  · rw [ended.staff, comes.staff, drained_concat]
    rfl
  · rw [ended.worker, List.length_append]
    rfl

/-- A batch is taken in hand. -/
theorem Comes.takes (comes : Comes left (left.drainedAndCalled batches) middle)
    (stopping : middle.service.state = .stopping) (batch : Batch) :
    Clearing left (batches ++ [batch])
      (middle.takeInHand (.drain batches.length) batch) := by
  have noted : Comes left ((left.drainedAndCalled batches).andThen fun staff =>
      ⟨[.contact (.gives batch)], staff⟩)
      (middle.noteAll [.contact (.gives batch), .taken batch]) := by
    refine comes.writes rfl ?_ rfl rfl rfl fun _ => rfl
    intro reported
    cases List.mem_singleton.mp reported
  have started : (middle.noteAll [.contact (.gives batch), .taken batch]).service.state ≠ .new := by
    intro new
    cases stopping.symm.trans new
  rcases beginDispatch_opens (middle.noteAll [.contact (.gives batch), .taken batch])
    (.drain batches.length) batch with ⟨stretch, worker, same, _, ofDispatch, _⟩
  have within : Within left (middle.takeInHand (.drain batches.length) batch) := by
    rw [takeInHand, same]
    exact noted.toWithin.writes rfl (.of_aside ofDispatch.aside) (fun _ => rfl) rfl
  rcases underway_or_over_beginDispatch started (.drain batches.length) batch with
    ⟨dispatch, underway⟩ | ended
  · exact .dispatching noted within underway
  · exact noted.completes within ended

/-- A scripted queue answers. -/
theorem Comes.answers (comes : Comes left (left.drainedAndCalled batches) middle)
    (stopping : middle.service.state = .stopping) {answer : QueueAnswer}
    (calm : answer.isPanic = false) :
    Clears left batches before moves (middle.answerDrain batches.length answer) := by
  cases answer with
  | batch batch => exact .takes batch (comes.takes stopping batch)
  | error error => exact .ends (.error error) (comes.cleared stopping (.error error))
  | nothing => exact .ends .nothing (comes.cleared stopping .nothing)
  | panic text => cases calm

end Answers

/-! ## Turns of the worker -/

section Turns

variable {left before middle after : Deployment} {batches : List Batch} {moves : Prop}

/-- The worker turns to his queue, which may answer in the same turn. -/
theorem Comes.asks (comes : Comes left (left.drained batches) before)
    (here : before.service.worker = .draining batches.length)
    (stopping : before.service.state = .stopping) (calm : before.CalmInDrain) :
    Clears left batches before moves (before.beginDrainFetch batches.length).2 := by
  have asked {middle : Deployment} (service : middle.service = before.service)
      (journal : middle.journal = before.journal ++ before.drainCall)
      (source : ∀ limit, middle.source.drainCall limit = before.source.drainCall limit) :
      Comes left (left.drainedAndCalled batches) middle ∧ middle.service.state = .stopping := by
    refine ⟨?_, by rw [service, stopping]⟩
    rw [comes.drainCall_eq] at journal
    exact comes.writes left.own_drainCall left.unreported_drainCall (by rw [service])
      (by rw [service]) journal source
  have waits {middle : Deployment} {deadline : Nat} (fetch : Fetch)
      (comes : Comes left (left.drainedAndCalled batches) middle) :
      Clears left batches before moves
        (middle.setWorker (.drainFetching batches.length deadline fetch)) := by
    have falls : Worker.drainStrain (.drainFetching batches.length deadline fetch) <
        before.service.worker.drainStrain := by
      rw [here]
      exact Prod.Lex.toLex_lt_toLex.mpr (Or.inl Nat.one_pos)
    exact .stays (.waits (comes.of_same rfl rfl rfl fun _ => rfl) rfl) (le_of_lt falls)
      fun _ => falls
  unfold beginDrainFetch
  cases source : before.source with
  | buffered queue =>
      have journal : (before.note (.contact (.waitsWithin before.service.drainWait))).journal =
          before.journal ++ before.drainCall := by
        rw [drainCall, source]
        rfl
      have comes := @asked (before.note (.contact (.waitsWithin before.service.drainWait))) rfl
        journal fun _ => rfl
      exact waits _ comes.1
  | scripted queue =>
      have journal : ((before.note (.contact (.waitsWithin before.service.drainWait))).note
          (.fetchedWithin before.service.drainWait)).journal =
            before.journal ++ before.drainCall := by
        rw [drainCall, source]
        simp only [note, Source.drainCall, List.append_assoc, List.cons_append, List.nil_append]
      dsimp only
      cases drains : queue.drains with
      | nil =>
          rcases @asked ((before.note (.contact (.waitsWithin before.service.drainWait))).note
            (.fetchedWithin before.service.drainWait)) rfl journal fun _ => rfl with
            ⟨comes, stopping⟩
          exact .ends .nothing (comes.cleared stopping .nothing)
      | cons reply rest =>
          dsimp only
          generalize popping : ({ (before.note (.contact (.waitsWithin
            before.service.drainWait))).note (.fetchedWithin before.service.drainWait) with
              source := .scripted { queue with drains := rest } } : Deployment) = popped
          have service : popped.service = before.service := by rw [← popping]; rfl
          have kind (limit : Nat) :
              popped.source.drainCall limit = before.source.drainCall limit := by
            rw [← popping, source]
            rfl
          rcases asked service (by rw [← popping]; exact journal) kind with ⟨comes, stopping⟩
          have peaceful := calm.drains queue source reply (by rw [drains]; exact List.mem_cons_self)
          split
          · exact comes.answers stopping peaceful
          · exact waits _ comes

/-- The worker looks for the result of his call. -/
theorem Comes.looks {deadline : Nat} {fetch : Fetch}
    (comes : Comes left (left.drainedAndCalled batches) before)
    (here : before.service.worker = .drainFetching batches.length deadline fetch)
    (stopping : before.service.state = .stopping) (calm : before.CalmInDrain) :
    Clears left batches before
      ((before.advanceDrainFetch batches.length deadline fetch).2.service.worker.awaitsDrain = false)
      (before.advanceDrainFetch batches.length deadline fetch).2 := by
  have waits {after : Deployment} {later : Fetch}
      (comes : Comes left (left.drainedAndCalled batches) after)
      (there : after.service.worker = .drainFetching batches.length deadline later) :
      Clears left batches before (after.service.worker.awaitsDrain = false) after := by
    refine .stays (.waits comes there) (le_of_eq (by rw [there, here]; rfl)) ?_
    intro impossible
    rw [there] at impossible
    cases impossible
  unfold advanceDrainFetch
  cases fetch with
  | queued place =>
      cases source : before.source with
      | scripted queue => exact waits comes here
      | buffered queue =>
          have adopted (woken : List Actor) (next : SubmissionQueue Actor Batch) :
              Comes left (left.drainedAndCalled batches) (before.adopt woken next) ∧
                (before.adopt woken next).service.state = .stopping := by
            rw [adopt_eq]
            refine ⟨comes.of_same rfl rfl rfl ?_, stopping⟩
            intro limit
            rw [source]
            rfl
          dsimp only
          rcases queue.seek .worker place with ⟨batch | _ | reached, woken, next⟩
          · rcases adopted woken next with ⟨comes, stopping⟩
            exact .takes batch (comes.takes stopping batch)
          · rcases adopted woken next with ⟨comes, stopping⟩
            exact .ends .nothing (comes.cleared stopping .nothing)
          · have twice : (before.adopt woken next).adopt (next.depart .worker reached).1
                (next.depart .worker reached).2 =
                before.adopt (woken ++ (next.depart .worker reached).1)
                  (next.depart .worker reached).2 := by
              simp only [adopt_eq, lineUpAll_lineUpAll]
            dsimp only
            split
            · rcases adopted (woken ++ (next.depart .worker reached).1)
                (next.depart .worker reached).2 with ⟨comes, stopping⟩
              rw [twice]
              exact .ends .nothing (comes.cleared stopping .nothing)
            · have comes := (adopted woken next).1
              exact waits (comes.of_same rfl rfl rfl fun _ => rfl) rfl
  | delayed time answer =>
      dsimp only
      split
      · exact comes.answers stopping (calm.fetching _ _ time answer here)
      · exact waits comes here
  | forStop => exact waits comes here

/-- Where the worker is in a drain, it has not ended. -/
theorem Clearing.going (clearing : Clearing left batches before) :
    before.service.worker.isGone = false := by
  cases clearing with
  | head _ here | waits _ here =>
      rw [here]
      rfl
  | dispatching _ _ underway =>
      rw [underway.worker]
      rfl

theorem Clearing.stopping (clearing : Clearing left batches before) (regular : before.Regular) :
    before.service.state = .stopping := by
  cases clearing with
  | head _ here => exact (regular.lawful.at_worker here).1
  | waits _ here => exact (regular.lawful.at_worker here).1
  | dispatching _ _ underway => exact (regular.lawful.at_worker underway.worker).1

/-- A turn of the worker goes on with the drain, or ends it. -/
theorem Clearing.turns (clearing : Clearing left batches before) (regular : before.Regular)
    (calm : before.CalmInDrain) :
    Clears left batches before
      (before.WaitIsOver ∧ (before.service.worker.awaitsDrain = true →
        before.advanceWorker.2.service.worker.awaitsDrain = false))
      before.advanceWorker.2 := by
  have stopping := clearing.stopping regular
  cases clearing with
  | head comes here =>
      have turn : before.advanceWorker = before.beginDrainFetch batches.length := by
        rw [advanceWorker, here]
      rw [turn]
      exact comes.asks here stopping calm
  | @waits _ deadline fetch _ comes here =>
      have turn : before.advanceWorker =
          before.advanceDrainFetch batches.length deadline fetch := by rw [advanceWorker, here]
      have awaits : before.service.worker.awaitsDrain = true := by
        rw [here]
        rfl
      rw [turn]
      cases comes.looks here stopping calm with
      | stays clearing most less => exact .stays clearing most fun moves => less (moves.2 awaits)
      | takes batch clearing => exact .takes batch clearing
      | ends ending cleared => exact .ends ending cleared
  | @dispatching earlier taken batch dispatch _ comes within underway =>
      have turn : before.advanceWorker =
          before.advanceDispatch (.drain earlier.length) dispatch := by
        rw [advanceWorker, underway.worker]
      rcases advanceDispatch_frame underway.worker with ⟨trace, ofDispatch, journal, _, _, source⟩
      rcases (works_advanceDispatch underway.worker).deeds with ⟨_, deeds, _⟩
      have inside : Within left (before.advanceDispatch (.drain earlier.length) dispatch).2 :=
        within.writes journal (.of_aside ofDispatch.aside) (by intro limit; rw [source])
          deeds.drainWait_eq
      have strain : before.service.worker.drainStrain = toLex (2, dispatch.toil) := by
        rw [underway.worker]
        rfl
      rw [turn]
      rcases underway.advances with ⟨later, goesOn⟩ | ended
      · have less := toil_advanceDispatch underway.worker goesOn.worker
        refine .stays (.dispatching comes inside goesOn) ?_ ?_
        · rw [goesOn.worker, strain]
          exact Prod.Lex.toLex_le_toLex.mpr (Or.inr ⟨rfl, less.1⟩)
        · intro moves
          rw [goesOn.worker, strain]
          exact Prod.Lex.toLex_lt_toLex.mpr (Or.inr ⟨rfl, less.2 moves.1⟩)
      · have falls : (Phase.drain earlier.length).resume.drainStrain <
            before.service.worker.drainStrain := by
          rw [strain]
          exact Prod.Lex.toLex_lt_toLex.mpr (Or.inl Nat.one_lt_two)
        rw [← ended.worker] at falls
        exact .stays (comes.completes inside ended) (le_of_lt falls) fun _ => falls

end Turns

/-! ## Events -/

/-- The worker of a drain has his turn, and neither a dispatch nor the queue keeps him
waiting: if he waits for the queue, he gets his answer. -/
def DrainsOn (before after : Deployment) : Prop :=
  GoesOn before after ∧
    (before.service.worker.awaitsDrain = true → after.service.worker.awaitsDrain = false)

section Events

variable {left before after : Deployment} {batches : List Batch} {account : Account}

/-- As long as the worker goes on, an event does not report the drain. -/
theorem Within.elsewhere (within : Within left before) (regular : before.Regular)
    (event : Event before after) (elsewhere : Elsewhere before after)
    (going : before.service.worker.isGone = false) : Within left after := by
  rcases (regular.passes event).deeds with ⟨trace, deeds, journal⟩
  refine within.writes journal (deeds.unreported regular.lawful ?_) ?_ deeds.drainWait_eq
  · rw [elsewhere.worker]
    exact going
  · exact elsewhere.source.drainCall_eq

theorem Comes.elsewhere (comes : Comes left account before) (regular : before.Regular)
    (event : Event before after) (elsewhere : Elsewhere before after)
    (going : before.service.worker.isGone = false) : Comes left account after where
  toWithin := comes.toWithin.elsewhere regular event elsewhere going
  own := by
    rcases elsewhere.journal with ⟨trace, others, journal⟩
    rw [journal, Journal.own_append, others.own_eq, List.append_nil, comes.own]
  staff := elsewhere.staff.trans comes.staff

/-- What does not concern the worker leaves the drain as far as it was. -/
theorem Clearing.elsewhere (clearing : Clearing left batches before) (regular : before.Regular)
    (event : Event before after) (elsewhere : Elsewhere before after) :
    Clearing left batches after := by
  have going := clearing.going
  cases clearing with
  | head comes here =>
      exact .head (comes.elsewhere regular event elsewhere going) (elsewhere.worker.trans here)
  | waits comes here =>
      exact .waits (comes.elsewhere regular event elsewhere going) (elsewhere.worker.trans here)
  | dispatching comes within underway =>
      exact .dispatching comes (within.elsewhere regular event elsewhere going)
        (underway.elsewhere elsewhere)

/-- The queue, and whoever stands in line, may change under a drain. -/
theorem Clearing.of_same (clearing : Clearing left batches before)
    (service : after.service = before.service) (journal : after.journal = before.journal)
    (source : ∀ limit, after.source.drainCall limit = before.source.drainCall limit) :
    Clearing left batches after := by
  have same {account : Account} (comes : Comes left account before) : Comes left account after :=
    comes.of_same (by rw [service]) (by rw [service]) journal source
  cases clearing with
  | head comes here => exact .head (same comes) (by rw [service, here])
  | waits comes here => exact .waits (same comes) (by rw [service, here])
  | dispatching comes within underway =>
      refine .dispatching comes ?_ (underway.of_same service journal)
      exact within.writes (journal.trans (List.append_nil _).symm) (.of_aside .nil) source
        (by rw [service])

/-- A queue that changes its mind leaves the worker where he is in his drain. -/
theorem Clearing.whim (clearing : Clearing left batches before) (whim : Whim before after) :
    Clearing left batches after ∧
      after.service.worker.drainStrain = before.service.worker.drainStrain := by
  cases whim with
  | answers later scripted =>
      exact ⟨clearing.of_same rfl rfl (by intro limit; rw [scripted]; rfl), rfl⟩
  | @main _ fetch _ _ fetching =>
      cases clearing with
      | head _ here | waits _ here =>
          rw [here] at fetching
          cases fetching
      | dispatching _ _ underway =>
          rw [underway.worker] at fetching
          cases fetching
  | @drain _ count deadline fetch later _ draining =>
      cases clearing with
      | head _ here =>
          rw [here] at draining
          cases draining
      | waits comes here =>
          rw [here] at draining
          cases draining
          rw [wake_eq, here]
          exact ⟨.waits (comes.of_same rfl rfl rfl fun _ => rfl) rfl, rfl⟩
      | dispatching _ _ underway =>
          rw [underway.worker] at draining
          cases draining

/-- Leaving the line is no part of a drain. -/
theorem Clears.afterTurn {moves : Prop} (clears : Clears left batches before moves after)
    (progress : Progress) : Clears left batches before moves (after.afterTurn progress) := by
  cases progress with
  | goesOn => exact clears
  | rests =>
      cases clears with
      | stays clearing most less => exact .stays (clearing.of_same rfl rfl fun _ => rfl) most less
      | takes batch clearing => exact .takes batch (clearing.of_same rfl rfl fun _ => rfl)
      | ends ending cleared => exact .ends ending (cleared.of_same rfl rfl)

/-- Every event goes on with the drain, or ends it. -/
theorem Clearing.event (clearing : Clearing left batches before) (regular : before.Regular)
    (event : Event before after) (calm : before.CalmInDrain) :
    Clears left batches before (DrainsOn before after) after := by
  have turn {rest : List Actor} (line : before.ready = .worker :: rest) :
      Clears left batches before
        (before.WaitIsOver ∧ (before.service.worker.awaitsDrain = true →
          before.tick.service.worker.awaitsDrain = false)) before.tick := by
    have turned := (clearing.turns regular calm).afterTurn before.advanceWorker.1
    rw [tick_of_worker line]
    cases progress : before.advanceWorker.1 with
    | goesOn | rests =>
        rw [progress] at turned
        exact turned
  by_cases moves : DrainsOn before after
  · rcases moves with ⟨⟨⟨rest, line⟩, waited, same⟩, answered⟩
    subst same
    cases turn line with
    | stays clearing most less => exact .stays clearing most fun _ => less ⟨waited, answered⟩
    | takes batch clearing => exact .takes batch clearing
    | ends ending cleared => exact .ends ending cleared
  · rcases event.befalls with befalls | whim
    · cases befalls with
      | worker line =>
          cases turn line with
          | stays clearing most _ =>
              exact .stays clearing most fun impossible => absurd impossible moves
          | takes batch clearing => exact .takes batch clearing
          | ends ending cleared => exact .ends ending cleared
      | starts new =>
          rw [clearing.stopping regular] at new
          cases new
      | elsewhere elsewhere =>
          exact .stays (clearing.elsewhere regular event elsewhere)
            (le_of_eq (by rw [elsewhere.worker])) fun impossible => absurd impossible moves
    · rcases clearing.whim whim with ⟨later, strain⟩
      exact .stays later (le_of_eq strain) fun impossible => absurd impossible moves

end Events

end Deployment
end FailureDispatch

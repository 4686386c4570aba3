import FailureDispatch.Proofs.Course.Evolution

/-!
# The conversation with the queue

A service uses its queue by a fixed protocol, and both the worker and whoever
holds the handle follow it.  The main loop waits without a limit, again and
again, until a stop is requested or the queue says that it is closed.  The drain
waits within its limit until it gets nothing or an error.  The queue is asked for
its statistics twice: when the stop is requested, and when the drain is over.

`Conversation.next?` is the protocol, as a recognizer of what may come next.  It
knows how far the conversation has come and whether a stop has been reported, and
nothing of the worker.  That the service keeps to it is the statement of this
module.

Two kinds of calls show by what they leave in the journal.  What the queue makes of
a request for its statistics stands directly behind the request.  The size of the
queue is asked for only in the note about an interrupted wait, and so is no contact:
the note stands directly behind the wait that was cancelled (`Journal.Candid`).
-/

namespace FailureDispatch

/-- How far a service has come in the use of its queue. -/
inductive Talk where
  /-- The main loop has no call outstanding. -/
  | idle
  | waiting
  /-- The queue has said that it is closed. -/
  | shut
  /-- The drain has no call outstanding, after its first one. -/
  | draining
  | waitingWithin
  /-- The drain is over and the queue has not been asked for its statistics. -/
  | spent
  | over
  deriving DecidableEq, Repr

structure Conversation where
  talk : Talk := .idle
  /-- The queue has been asked for its statistics at a request to stop. -/
  stopped : Bool := false
  deriving DecidableEq, Repr

namespace Conversation

/-- The conversation after one more contact, if the protocol admits it.  The limit
is the one that the service is configured with. -/
def next? (limit : Nat) (conversation : Conversation) : Contact → Option Conversation
  | .waits =>
      match conversation.talk, conversation.stopped with
      | .idle, false => some { conversation with talk := .waiting }
      | _, _ => none
  | .waitsWithin wait =>
      match conversation.talk, conversation.stopped with
      | .idle, true | .shut, true | .draining, true =>
          if wait = limit then some { conversation with talk := .waitingWithin } else none
      | _, _ => none
  | .gives _ =>
      match conversation.talk with
      | .waiting => some { conversation with talk := .idle }
      | .waitingWithin => some { conversation with talk := .draining }
      | _ => none
  | .givesNothing =>
      match conversation.talk with
      | .waitingWithin => some { conversation with talk := .spent }
      | _ => none
  | .fails error =>
      match conversation.talk with
      | .waiting =>
          some { conversation with talk := if error = .queueClosed then .shut else .idle }
      | .waitingWithin => some { conversation with talk := .spent }
      | _ => none
  | .reports tag =>
      match conversation.talk, conversation.stopped with
      | .idle, false | .waiting, false | .shut, false =>
          if tag = Deployment.stopTag then some { conversation with stopped := true } else none
      | .spent, true =>
          if tag = Deployment.drainTag then some { conversation with talk := .over } else none
      | _, _ => none

/-- The conversation after several contacts, if the protocol admits them all. -/
def continue? (limit : Nat) (conversation : Conversation) (contacts : List Contact) :
    Option Conversation :=
  contacts.foldlM (next? limit) conversation

theorem continue?_append {limit : Nat} {conversation middle last : Conversation}
    {earlier later : List Contact} (first : conversation.continue? limit earlier = some middle)
    (second : middle.continue? limit later = some last) :
    conversation.continue? limit (earlier ++ later) = some last := by
  unfold continue? at *
  rw [List.foldlM_append, first]
  exact second

/-- The conversation has come as far as it can have while the worker is where it
is, and a stop has been reported if it has been requested. -/
def Fits (conversation : Conversation) (service : Service) : Prop :=
  match service.worker with
  | .idle | .fresh | .dispatching .main _ => conversation = ⟨.idle, service.stopRequested⟩
  | .looping => conversation = ⟨.idle, service.stopRequested⟩ ∨
      (conversation = ⟨.shut, true⟩ ∧ service.stopRequested = true)
  | .fetching _ => conversation = ⟨.waiting, service.stopRequested⟩
  | .parked => conversation = ⟨.shut, service.stopRequested⟩
  | .draining _ =>
      conversation = ⟨.idle, true⟩ ∨ conversation = ⟨.shut, true⟩ ∨ conversation = ⟨.draining, true⟩
  | .dispatching (.drain _) _ => conversation = ⟨.draining, true⟩
  | .drainFetching _ _ _ => conversation = ⟨.waitingWithin, true⟩
  | .done _ | .failed _ => conversation = ⟨.over, true⟩
  -- The call by which the worker was torn down stays without an answer.
  | .aborted _ => (conversation.talk = .waiting ∧
      (conversation.stopped = service.stopRequested ∨ service.state = .failed)) ∨
        (conversation = ⟨.waitingWithin, true⟩ ∧
          (service.state = .stopping ∨ service.state = .failed))

/-- The main loop may be told to stop whether it waits or not. -/
theorem continue?_stop {limit : Nat} {talk : Talk}
    (inMain : talk = .idle ∨ talk = .waiting ∨ talk = .shut) :
    continue? limit ⟨talk, false⟩ [.reports Deployment.stopTag] = some ⟨talk, true⟩ := by
  rcases inMain with same | same | same <;> (rw [same]; rfl)

/-- A drain may wait, once a stop has been reported, with the limit of the service. -/
theorem continue?_within {limit : Nat} {talk : Talk}
    (ready : talk = .idle ∨ talk = .shut ∨ talk = .draining) :
    continue? limit ⟨talk, true⟩ [.waitsWithin limit] = some ⟨.waitingWithin, true⟩ := by
  have admitted : next? limit ⟨talk, true⟩ (.waitsWithin limit) = some ⟨.waitingWithin, true⟩ := by
    rcases ready with same | same | same <;> (rw [same]; exact if_pos rfl)
  simp only [continue?, List.foldlM_cons, List.foldlM_nil, admitted, Option.bind_eq_bind,
    Option.bind_some, Option.pure_def]

/-- A drain that has got its last answer is closed by a report. -/
theorem continue?_close {limit : Nat} {ending : Contact}
    (last : ending = .givesNothing ∨ ∃ error, ending = .fails error) :
    continue? limit ⟨.waitingWithin, true⟩ [ending, .reports Deployment.drainTag] =
      some ⟨.over, true⟩ := by
  rcases last with same | ⟨error, same⟩ <;> (rw [same]; rfl)

/-- What is known of the conversation when the place of the worker is known. -/
theorem Fits.at_worker {conversation : Conversation} {service : Service}
    (fits : conversation.Fits service) {worker : Worker} (here : service.worker = worker) :
    conversation.Fits { service with worker } := by
  rw [← here]
  exact fits

end Conversation

section Converses

variable {service later : Service} {trace : Journal} {conversation : Conversation}

/-- What the service does with its queue is admitted, and leaves the conversation
where the worker is. -/
def Converses (service later : Service) (trace : Journal) (conversation : Conversation) : Prop :=
  ∃ next, conversation.continue? service.drainWait trace.contacts = some next ∧ next.Fits later

theorem Converses.silent (contacts : trace.contacts = []) (fits : conversation.Fits later) :
    Converses service later trace conversation := by
  refine ⟨conversation, ?_, fits⟩
  rw [contacts]
  rfl

variable (lawful : service.Lawful) (fits : conversation.Fits service)
include lawful fits

theorem converses_stops {figures : Occurrence} (can : service.state.canBecome .stopping = true)
    (reports : figures.Reports Deployment.stopTag) :
    Converses service { service.entering .stopping with stopRequested := true }
      (stopTrace figures) conversation := by
  have untold := lawful.untold_of_stoppable can
  have reports {talk : Talk} (inMain : talk = .idle ∨ talk = .waiting ∨ talk = .shut)
      (same : conversation = ⟨talk, service.stopRequested⟩)
      (fitsThen : Conversation.Fits ⟨talk, true⟩
        { service.entering .stopping with stopRequested := true }) :
      Converses service { service.entering .stopping with stopRequested := true }
        (stopTrace figures) conversation := by
    unfold Converses
    rw [contacts_stopTrace reports.aside, same, untold]
    exact ⟨⟨talk, true⟩, Conversation.continue?_stop inMain, fitsThen⟩
  have impossible {property : Prop} {state : ServiceState} (same : service.state = state)
      (late : state.canBecome .stopping = false) : property := by
    rw [same, late] at can
    cases can
  have standing := lawful
  unfold Service.Lawful at standing
  cases here : service.worker with
  | fresh =>
      refine reports (Or.inl rfl) (fits.at_worker here) ?_
      simp only [Conversation.Fits, Service.entering, here]
  | looping =>
      have idleOrShut := fits.at_worker here
      rcases idleOrShut with idle | ⟨_, told⟩
      · refine reports (Or.inl rfl) idle ?_
        simp only [Conversation.Fits, Service.entering, here, true_or]
      · rw [show service.stopRequested = true from told] at untold
        cases untold
  | fetching fetch =>
      refine reports (Or.inr (Or.inl rfl)) (fits.at_worker here) ?_
      simp only [Conversation.Fits, Service.entering, here]
  | parked =>
      refine reports (Or.inr (Or.inr rfl)) (fits.at_worker here) ?_
      simp only [Conversation.Fits, Service.entering, here]
  | dispatching phase dispatch =>
      rw [here] at standing
      cases phase with
      | main =>
          refine reports (Or.inl rfl) (fits.at_worker here) ?_
          simp only [Conversation.Fits, Service.entering, here]
      | drain count => exact impossible standing.1 rfl
  | aborted text =>
      have unanswered := fits.at_worker here
      rcases unanswered with ⟨waiting, stopped | failed⟩ | ⟨_, state⟩
      · have same : conversation = ⟨.waiting, service.stopRequested⟩ := by
          rw [← waiting, show service.stopRequested = conversation.stopped from stopped.symm]
        refine reports (Or.inr (Or.inl rfl)) same ?_
        simp only [Conversation.Fits, Service.entering, here, true_and, true_or]
      · exact impossible failed rfl
      · rcases state with stopping | failed
        · exact impossible stopping rfl
        · exact impossible failed rfl
  | idle | draining _ | drainFetching _ _ _ | done _ | failed _ =>
      rw [here] at standing
      exact impossible standing.1 rfl

theorem converses_stopsAgain (cannot : service.state.canBecome .stopping = false)
    (started : service.state ≠ .new) :
    Converses service { service with stopRequested := true } [] conversation := by
  apply Converses.silent rfl
  cases told : service.stopRequested with
  | true =>
      rw [← told]
      exact fits
  | false =>
      -- Only a service that has failed can be beyond a stop without having been told.
      have failed : service.state = .failed ∧ ∃ text, service.worker = .aborted text := by
        unfold Service.Lawful Service.InOrStopping at lawful
        cases here : service.worker with
        | dispatching phase _ => cases phase <;> grind [ServiceState.canBecome]
        | _ => grind [ServiceState.canBecome]
      rcases failed with ⟨state, text, here⟩
      have unanswered := fits.at_worker here
      unfold Conversation.Fits
      simp only [here, state]
      rcases unanswered with ⟨waiting, _⟩ | ⟨within, _⟩
      · exact Or.inl ⟨waiting, Or.inr trivial⟩
      · exact Or.inr ⟨within, Or.inr trivial⟩

omit lawful in
theorem converses_takes {phase : Phase} {batch : Batch} {worker : Worker} {stretch : Account}
    (awaits : service.Awaits phase)
    (opens : Opens service.staff batch phase stretch worker)
    (ofDispatch : stretch.trace.OfDispatch) :
    Converses service { service.withStaff stretch.staff with worker }
      (.contact (.gives batch) :: .taken batch :: stretch.trace) conversation := by
  have aside : Journal.Aside (.taken batch :: stretch.trace) :=
    ⟨⟨ofDispatch.aside.states_eq, ofDispatch.aside.contacts_eq⟩, ofDispatch.aside.sizes_eq⟩
  unfold Converses
  rw [aside.contacts_cons]
  cases awaits with
  | main here =>
      have waiting : conversation = ⟨.waiting, service.stopRequested⟩ := fits.at_worker here
      subst waiting
      refine ⟨⟨.idle, service.stopRequested⟩, rfl, ?_⟩
      cases opens with
      | discards => exact Or.inl rfl
      | calls _ _ => rfl
  | @drain count _ _ here =>
      have waiting : conversation = ⟨.waitingWithin, true⟩ := fits.at_worker here
      subst waiting
      refine ⟨⟨.draining, true⟩, rfl, ?_⟩
      cases opens with
      | discards => exact Or.inr (Or.inr rfl)
      | calls _ _ => rfl

end Converses

/-- Every deed keeps to the protocol. -/
theorem Deed.converses {service later : Service} {trace : Journal}
    (deed : Deed service later trace) (lawful : service.Lawful) {conversation : Conversation}
    (fits : conversation.Fits service) : Converses service later trace conversation := by
  cases deed with
  | startsUp here can =>
      have idle : conversation = ⟨.idle, service.stopRequested⟩ := fits.at_worker here
      exact .silent rfl (Or.inl idle)
  | startsLate here cannot =>
      have idle : conversation = ⟨.idle, service.stopRequested⟩ := fits.at_worker here
      have standing : service.InOrStopping .starting := lawful.at_worker here
      rcases standing with ⟨starting, _⟩ | ⟨_, told⟩
      · rw [starting] at cannot
        cases cannot
      · rw [told] at idle
        exact .silent rfl (Or.inl idle)
  | asks fetch here running untold aside =>
      have idleOrShut := fits.at_worker here
      rcases idleOrShut with idle | ⟨_, told⟩
      · unfold Converses
        rw [aside.contacts_cons, show conversation = ⟨.idle, service.stopRequested⟩ from idle,
          untold]
        refine ⟨⟨.waiting, false⟩, rfl, ?_⟩
        rw [← untold]
        rfl
      · rw [show service.stopRequested = true from told] at untold
        cases untold
  | leavesLoop here left =>
      have standing : service.InOrStopping .running := lawful.at_worker here
      have told := (standing.resolve_left left).2
      have idleOrShut := fits.at_worker here
      rcases idleOrShut with idle | ⟨shut, _⟩
      · rw [show service.stopRequested = true from told] at idle
        exact .silent rfl (Or.inl idle)
      · exact .silent rfl (Or.inr (Or.inl shut))
  | waitsOn later here =>
      have waiting : conversation = ⟨.waiting, service.stopRequested⟩ := fits.at_worker here
      exact .silent rfl waiting
  | misses error backlog here =>
      have waiting : conversation = ⟨.waiting, service.stopRequested⟩ := fits.at_worker here
      subst waiting
      refine ⟨_, rfl, ?_⟩
      cases error <;> first | exact Or.inl rfl | rfl
  | unparks here told =>
      have shut : conversation = ⟨.shut, service.stopRequested⟩ := fits.at_worker here
      rw [told] at shut
      exact .silent rfl (Or.inr ⟨shut, told⟩)
  | takes awaits opens ofDispatch => exact converses_takes fits awaits opens ofDispatch
  | @dispatches phase _ _ stretch here inner =>
      have going := fits.at_worker here
      apply Converses.silent inner.ofDispatch.aside.contacts_eq
      cases phase <;> exact going
  | @finishes phase _ here =>
      have going := fits.at_worker here
      apply Converses.silent rfl
      cases phase with
      | main => exact Or.inl going
      | drain count => exact Or.inr (Or.inr going)
  | asksWithin deadline fetch here aside =>
      have ready := fits.at_worker here
      refine ⟨⟨.waitingWithin, true⟩, ?_, rfl⟩
      rw [aside.contacts_cons]
      rcases ready with same | same | same
      · rw [show conversation = _ from same]
        exact Conversation.continue?_within (Or.inl rfl)
      · rw [show conversation = _ from same]
        exact Conversation.continue?_within (Or.inr (Or.inl rfl))
      · rw [show conversation = _ from same]
        exact Conversation.continue?_within (Or.inr (Or.inr rfl))
  | drainWaits later here =>
      have waiting : conversation = ⟨.waitingWithin, true⟩ := fits.at_worker here
      exact .silent rfl waiting
  | completes here stopping reports =>
      have waiting : conversation = ⟨.waitingWithin, true⟩ := fits.at_worker here
      subst waiting
      refine ⟨⟨.over, true⟩, ?_, rfl⟩
      rw [Journal.contacts_append, contacts_drainTrace _ _ _ reports.aside]
      exact Conversation.continue?_close (Or.inl rfl)
  | abandons here stopping reports =>
      have waiting : conversation = ⟨.waitingWithin, true⟩ := fits.at_worker here
      subst waiting
      refine ⟨⟨.over, true⟩, ?_, rfl⟩
      rw [Journal.contacts_append, contacts_drainTrace _ _ _ reports.aside]
      exact Conversation.continue?_close (Or.inr ⟨_, rfl⟩)
  | tornDown text awaits =>
      cases awaits with
      | main here =>
          have waiting : conversation = ⟨.waiting, service.stopRequested⟩ := fits.at_worker here
          subst waiting
          exact .silent rfl (Or.inl ⟨rfl, Or.inl rfl⟩)
      | drain here =>
          have waiting : conversation = ⟨.waitingWithin, true⟩ := fits.at_worker here
          have stopping := (lawful.stopping_of_awaits (.drain here)).1
          exact .silent rfl (Or.inr ⟨waiting, Or.inl stopping⟩)
  | buries here can =>
      have unanswered := fits.at_worker here
      apply Converses.silent rfl
      unfold Conversation.Fits
      simp only [Service.entering, here]
      rcases unanswered with ⟨waiting, _⟩ | ⟨within, _⟩
      · exact Or.inl ⟨waiting, Or.inr trivial⟩
      · exact Or.inr ⟨within, Or.inr trivial⟩
  | starts new =>
      have idle : conversation = ⟨.idle, service.stopRequested⟩ :=
        fits.at_worker (lawful.of_new new).1
      exact .silent rfl idle
  | stops can reports => exact converses_stops lawful fits can reports
  | stopsAgain cannot started => exact converses_stopsAgain lawful fits cannot started
  | aside aside => exact .silent aside.contacts_eq fits

/-! ## What the other calls leave -/

/-- Whether the entry neither asks something else of the queue than batches, nor shows that
the queue has been asked. -/
def Occurrence.isUnasking : Occurrence → Bool
  | .contact (.reports _) | .contact (.fails .cancelled) | .logged (.interrupted _) => false
  | _ => true

/-- What the service asks of its queue besides batches shows at once, and nowhere else: the
statistics behind the request for them, and the size behind a wait of the main loop that was
cancelled.  Where a wait of the drain is cancelled, the batches that were drained are counted. -/
inductive Journal.Candid : Journal → Prop where
  | nil : Candid []
  | unasking {entry rest} (plain : entry.isUnasking = true) (later : Candid rest) :
      Candid (entry :: rest)
  | reports {tag figures rest} (shown : figures.Reports tag) (later : Candid rest) :
      Candid (.contact (.reports tag) :: figures :: rest)
  | interrupted {size rest} (later : Candid rest) :
      Candid (.contact (.fails .cancelled) :: .logged (.interrupted size) :: rest)
  | abandoned {count rest} (later : Candid rest) :
      Candid (.contact (.fails .cancelled) :: .counted .drained count :: rest)

namespace Journal.Candid

variable {trace rest : Journal}

theorem append (first : trace.Candid) (second : rest.Candid) : Candid (trace ++ rest) := by
  induction first with
  | nil => exact second
  | unasking plain _ inductionHypothesis => exact .unasking plain inductionHypothesis
  | reports shown _ inductionHypothesis => exact .reports shown inductionHypothesis
  | interrupted _ inductionHypothesis => exact .interrupted inductionHypothesis
  | abandoned _ inductionHypothesis => exact .abandoned inductionHypothesis

theorem of_aside (aside : trace.Aside) : trace.Candid := by
  have uncontacted := List.filterMap_eq_nil_iff.mp aside.contacts_eq
  have unsized := List.filterMap_eq_nil_iff.mp aside.sizes_eq
  have plain (entry : Occurrence) (member : entry ∈ trace) : entry.isUnasking = true := by
    have apart := uncontacted entry member
    have silent := unsized entry member
    cases entry with
    | contact passed => cases apart
    | logged notice => cases notice <;> first | rfl | cases silent
    | _ => rfl
  clear aside uncontacted unsized
  induction trace with
  | nil => exact .nil
  | cons entry rest inductionHypothesis =>
      exact .unasking (plain entry List.mem_cons_self)
        (inductionHypothesis fun other member => plain other (List.mem_cons_of_mem _ member))

theorem cons_of_aside {entry : Occurrence} (plain : entry.isUnasking = true)
    (aside : trace.Aside) : Candid (entry :: trace) :=
  .unasking plain (.of_aside aside)

/-- A drain that is over is counted, and its report shows the statistics. -/
theorem drainTrace {ending : Contact} {figures : Occurrence} {notice : Notice} (count : Nat)
    (ended : ending = .givesNothing ∨ ∃ error, ending = .fails error)
    (plain : (Occurrence.logged notice).isUnasking = true)
    (shown : figures.Reports Deployment.drainTag) :
    Candid (drainTrace ending count figures notice) := by
  have reported : Candid [.contact (.reports Deployment.drainTag), figures, .logged notice] :=
    .reports shown (.unasking plain .nil)
  rcases ended with same | ⟨error, same⟩
  · rw [same]
    exact .unasking rfl (.unasking rfl reported)
  · rw [same]
    cases error with
    | cancelled => exact .abandoned reported
    | _ => exact .unasking rfl (.unasking rfl reported)

end Journal.Candid

/-- Every deed shows what it has asked of the queue. -/
theorem Deed.candid {service later : Service} {trace : Journal}
    (deed : Deed service later trace) : trace.Candid := by
  cases deed with
  | startsUp _ _ => exact .unasking rfl (.unasking rfl (.unasking rfl .nil))
  | startsLate _ _ | leavesLoop _ _ | finishes _ | buries _ _ | starts _ => exact .unasking rfl .nil
  | waitsOn _ _ | unparks _ _ | drainWaits _ _ | tornDown _ _ | stopsAgain _ _ => exact .nil
  | asks _ _ _ _ aside | asksWithin _ _ _ aside => exact .cons_of_aside rfl aside
  | misses error backlog _ =>
      cases error with
      | cancelled => exact .interrupted .nil
      | _ => exact .unasking rfl (.unasking rfl .nil)
  | takes _ _ ofDispatch => exact .unasking rfl (.cons_of_aside rfl ofDispatch.aside)
  | dispatches _ inner => exact .of_aside inner.ofDispatch.aside
  | completes _ _ reports =>
      exact (Journal.Candid.drainTrace _ (Or.inl rfl) rfl reports).append (.unasking rfl .nil)
  | abandons _ _ reports =>
      exact (Journal.Candid.drainTrace _ (Or.inr ⟨_, rfl⟩) rfl reports).append
        (.unasking rfl .nil)
  | stops _ reports => exact .unasking rfl (.unasking rfl (.reports reports .nil))
  | aside aside => exact .of_aside aside

/-! ## The report at a stop -/

namespace Conversation

/-- Only the report at a stop marks the conversation, and it is made once. -/
theorem next?_stopped {limit : Nat} {conversation next : Conversation} {contact : Contact}
    (admitted : conversation.next? limit contact = some next) :
    [contact].count (.reports Deployment.stopTag) + conversation.stopped.toNat =
      next.stopped.toNat := by
  have different : Deployment.drainTag ≠ Deployment.stopTag := by decide
  rcases conversation with ⟨talk, stopped⟩
  cases contact <;> cases talk <;> cases stopped <;> grind [next?]

theorem continue?_stopped {limit : Nat} {conversation last : Conversation}
    {contacts : List Contact} (admitted : conversation.continue? limit contacts = some last) :
    contacts.count (.reports Deployment.stopTag) + conversation.stopped.toNat =
      last.stopped.toNat := by
  induction contacts generalizing conversation with
  | nil =>
      cases admitted
      exact Nat.zero_add _
  | cons contact rest inductionHypothesis =>
      unfold continue? at admitted
      rw [List.foldlM_cons] at admitted
      cases first : conversation.next? limit contact with
      | none =>
          rw [first] at admitted
          cases admitted
      | some middle =>
          rw [first] at admitted
          have later := inductionHypothesis admitted
          have here := next?_stopped first
          have split : (contact :: rest).count (.reports Deployment.stopTag) =
              [contact].count (.reports Deployment.stopTag) +
                rest.count (.reports Deployment.stopTag) := by
            rw [← List.count_append, List.singleton_append]
          omega

/-- A stop has been reported if it has been requested, unless the worker was torn
down. -/
theorem Fits.stopped_eq {conversation : Conversation} {service : Service}
    (fits : conversation.Fits service) (lawful : service.Lawful)
    (calm : ∀ text, service.worker ≠ .aborted text) :
    conversation.stopped = service.stopRequested := by
  unfold Fits at fits
  unfold Service.Lawful at lawful
  cases here : service.worker with
  | dispatching phase _ => cases phase <;> grind
  | aborted text => exact absurd here (calm text)
  | _ => grind

end Conversation

namespace Deployment

/-- What is true at every moment of the use that a service makes of its queue, since the
service was delivered. -/
structure KeepsProtocol (origin deployment : Deployment) : Prop where
  /-- The protocol has been followed so far, with the limit that the drain is configured with,
  and the worker is where it leads to. -/
  spoken : ∃ conversation,
    ({} : Conversation).continue? origin.service.drainWait deployment.journal.contacts =
      some conversation ∧ conversation.Fits deployment.service
  /-- What else the queue was asked for shows. -/
  shown : ∃ trace, deployment.journal = origin.journal ++ trace ∧ trace.Candid
  /-- Statistics are asked for at one request to stop at most. -/
  once : deployment.journal.contacts.count (.reports stopTag) ≤ 1
  reported : (∀ text, deployment.service.worker ≠ .aborted text) →
    (.reports stopTag ∈ deployment.journal.contacts ↔ deployment.service.stopRequested = true)
  /-- It is the first request at which they are asked for. -/
  first : (∀ text, deployment.service.worker ≠ .aborted text) →
    deployment.service.state ≠ .new → deployment.service.stopRequested = false →
      deployment.requestStop.journal.contacts =
        deployment.journal.contacts ++ [.reports stopTag]
  later : deployment.service.stopRequested = true →
    deployment.requestStop.journal.contacts = deployment.journal.contacts
  /-- The queue of a service that has ended is left alone. -/
  silent : deployment.service.state.isTerminal = true → ∀ later, Evolves deployment later →
    later.journal.contacts = deployment.journal.contacts ∧
      later.journal.sizes = deployment.journal.sizes

section Protocol

variable {origin reached : Deployment}

/-- The protocol is followed in whatever happens. -/
theorem Untouched.spoken (untouched : origin.Untouched) (evolves : Evolves origin reached) :
    ∃ conversation, ({} : Conversation).continue? origin.service.drainWait
      reached.journal.contacts = some conversation ∧ conversation.Fits reached.service := by
  have keeps (service later : Service) (journal trace : Journal) (lawful : service.Lawful)
      (deed : Deed service later trace)
      (kept : service.drainWait = origin.service.drainWait ∧
        ∃ conversation, ({} : Conversation).continue? origin.service.drainWait
          journal.contacts = some conversation ∧ conversation.Fits service) :
      later.drainWait = origin.service.drainWait ∧
        ∃ conversation, ({} : Conversation).continue? origin.service.drainWait
          (journal ++ trace).contacts = some conversation ∧ conversation.Fits later := by
    rcases kept with ⟨limit, conversation, spoken, fits⟩
    rcases deed.converses lawful fits with ⟨next, continues, fitsThen⟩
    rw [limit] at continues
    rw [Journal.contacts_append]
    exact ⟨deed.drainWait_eq.trans limit, next,
      Conversation.continue?_append spoken continues, fitsThen⟩
  have begins : ({} : Conversation).continue? origin.service.drainWait
      origin.journal.contacts = some {} := by
    rw [untouched.journal.contacts_eq]
    rfl
  have fits : ({} : Conversation).Fits origin.service := by
    unfold Conversation.Fits
    rw [untouched.worker, untouched.untold]
  have kept := untouched.regular.keeps evolves keeps ⟨rfl, {}, begins, fits⟩
  exact kept.2

/-- Whatever happens, what the queue was asked for shows. -/
theorem Regular.shown (regular : origin.Regular) (evolves : Evolves origin reached) :
    ∃ trace, reached.journal = origin.journal ++ trace ∧ trace.Candid := by
  have keeps (service later : Service) (journal trace : Journal) (_ : service.Lawful)
      (deed : Deed service later trace)
      (kept : ∃ earlier, journal = origin.journal ++ earlier ∧ earlier.Candid) :
      ∃ earlier, journal ++ trace = origin.journal ++ earlier ∧ earlier.Candid := by
    rcases kept with ⟨earlier, same, candid⟩
    exact ⟨earlier ++ trace, by rw [same, List.append_assoc], candid.append deed.candid⟩
  exact regular.keeps evolves keeps ⟨[], (List.append_nil _).symm, .nil⟩

/-- A service that has been started and not told to stop can be told to. -/
theorem Regular.stoppable (regular : reached.Regular)
    (calm : ∀ text, reached.service.worker ≠ .aborted text)
    (started : reached.service.state ≠ .new) (untold : reached.service.stopRequested = false) :
    reached.service.state.canBecome .stopping = true := by
  have lawful := regular.lawful
  unfold Service.Lawful Service.InOrStopping at lawful
  cases here : reached.service.worker with
  | dispatching phase _ => cases phase <;> grind [ServiceState.canBecome]
  | aborted text => exact absurd here (calm text)
  | _ => grind [ServiceState.canBecome]

/-- A service over any queue keeps to the protocol, whatever the queue answers to whoever
waits for a batch, whenever a stop is requested, and whoever joins. -/
theorem keepsProtocol_of_evolves (untouched : origin.Untouched)
    (evolves : Evolves origin reached) : KeepsProtocol origin reached := by
  have regular := untouched.regular.persists evolves
  rcases untouched.spoken evolves with ⟨conversation, spoken, fits⟩
  have counted := Conversation.continue?_stopped spoken
  have unmarked : ({} : Conversation).stopped.toNat = 0 := rfl
  rw [unmarked, Nat.add_zero] at counted
  refine
    { spoken := ⟨conversation, spoken, fits⟩
      shown := untouched.regular.shown evolves
      once := ?_
      reported := ?_
      first := ?_
      later := ?_
      silent := ?_ }
  · rw [counted]
    exact Bool.toNat_le conversation.stopped
  · intro calm
    rw [← fits.stopped_eq regular.lawful calm, ← List.count_pos_iff, counted]
    cases conversation.stopped <;> decide
  · intro calm started untold
    rcases requestStop_of_can (regular.stoppable calm started untold) with
      ⟨woken, figures, reports, same⟩
    rw [same, Journal.contacts_append, contacts_stopTrace reports.aside]
  · intro told
    have cannot : reached.service.state.canBecome .stopping = false := by
      rcases regular.lawful.stop_and_end.1 told with state | state | state <;> (rw [state]; rfl)
    rcases requestStop_of_cannot cannot with ⟨woken, same⟩
    rw [same]
  · intro ended later evolves
    have rest := regular.atRest evolves ended
    exact ⟨rest.contacts, rest.sizes⟩

/-- A queue that gives a batch and is closed then, and gives one more to the drain. -/
def terse : Deployment where
  source := .scripted
    { waits := [{ answer := .ofDraft .single }, { answer := .error .queueClosed }]
      drains := [{ answer := .ofDraft .single }, { answer := .nothing }] }

theorem untouched_terse : terse.Untouched := ⟨rfl, rfl, rfl, rfl, rfl, .nil⟩

/-- Two waits, the report at the stop, two waits of the drain, and the last report. -/
theorem keepsProtocol_of_evolves_terse :
    KeepsProtocol terse (terse.run 0 [some .start, some .settle, some .shutdown]).2 ∧
      (terse.run 0 [some .start, some .settle, some .shutdown]).2.journal.contacts.length = 10 ∧
      (terse.run 0 [some .start, some .settle, some .shutdown]).2.journal.contacts.getLast? =
        some (.reports drainTag) :=
  ⟨keepsProtocol_of_evolves untouched_terse (evolves_run untouched_terse.regular 0 _),
    by decide +kernel, by decide +kernel⟩

end Protocol

end Deployment
end FailureDispatch

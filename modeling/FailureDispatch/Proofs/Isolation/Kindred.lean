import FailureDispatch.Proofs.Course.Line
import FailureDispatch.Proofs.Dispatch.Serving

/-!
# Deployments that are kindred

Two deployments are kindred if they are equal except for their staffs and for what
their journals say.  A `Likeness` says how far staffs and journals may differ, and
where the worker may be while the two are compared.  Whatever else can be asked of
kindred deployments has one answer.

What changes the one as it changes the other keeps them kindred.  The operations
that have nothing to do with the staff come to such changes and to records; they
are dealt with here, down to the worker's turn.  What becomes of a batch in hand is
another matter: with different staffs the two may do different things with it, and
then it depends on the likeness whether they are kindred again.  So the worker's
turn ends where a batch is taken (`Likewise`), and a turn with a batch in hand is left
to whoever knows the likeness.
-/

namespace FailureDispatch

/-- How far two deployments may differ. -/
structure Likeness where
  staffs : Staff → Staff → Prop
  journals : Journal → Journal → Prop
  /-- Where the worker may be while the deployments are compared. -/
  workers : Worker → Prop
  /-- The number of handlers and the name of the fallback are written to the log. -/
  length_eq : ∀ {left right : Staff}, staffs left right →
    right.handlers.length = left.handlers.length
  name_eq : ∀ {left right : Staff}, staffs left right → right.fallback.name = left.fallback.name
  refl : ∀ journal, journals journal journal
  append : ∀ {left right later other : Journal}, journals left right → journals later other →
    journals (left ++ later) (right ++ other)
  /-- A worker without a batch has nothing to do with the staff. -/
  free : ∀ worker : Worker, worker.isFree = true → workers worker

namespace Deployment

/-- The deployment with another staff and another journal. -/
def refit (deployment : Deployment) (staff : Staff) (journal : Journal) : Deployment :=
  { deployment with service := deployment.service.withStaff staff, journal }

structure Kindred (likeness : Likeness) (left right : Deployment) : Prop where
  refitted : right = left.refit right.service.staff right.journal
  staffs : likeness.staffs left.service.staff right.service.staff
  journals : likeness.journals left.journal right.journal
  stands : likeness.workers left.service.worker

/-- The same answer, and kindred again. -/
structure Paired {α : Type} (likeness : Likeness) (left right : α × Deployment) : Prop where
  same : left.1 = right.1
  kindred : Kindred likeness left.2 right.2

/-- The worker has the next turn. -/
def IsWorkersTurn (deployment : Deployment) : Prop :=
  ∃ rest, deployment.ready = .worker :: rest

/-- What becomes of kindred deployments in a turn of the worker: either they are
kindred again, or they have taken the same batch in hand. -/
inductive Likewise (likeness : Likeness) (left right : Progress × Deployment) : Prop where
  | pairs (paired : Paired likeness left right)
  | takes {before other : Deployment} {phase : Phase} {batch : Batch}
      (kindred : Kindred likeness before other) (turn : before.IsWorkersTurn)
      (taken : left = (.goesOn, before.takeInHand phase batch))
      (takenToo : right = (.goesOn, other.takeInHand phase batch)) : Likewise likeness left right

/-- Those who are woken stand behind the one whose turn it is. -/
theorem IsWorkersTurn.adopt {deployment : Deployment} (turn : deployment.IsWorkersTurn)
    (woken : List Actor) (queue : SubmissionQueue Actor Batch) :
    (deployment.adopt woken queue).IsWorkersTurn := by
  rcases turn with ⟨rest, line⟩
  rw [adopt_eq, IsWorkersTurn, line]
  exact lineUpAll_cons .worker rest woken

section Parts

variable {likeness : Likeness} {left right : Deployment} (kindred : Kindred likeness left right)

namespace Kindred

include kindred

/-- A part that has nothing to do with what may differ is the same in both. -/
theorem part {α : Type} (part : Deployment → α)
    (kept : ∀ deployment staff journal, part (deployment.refit staff journal) = part deployment) :
    part right = part left :=
  (congrArg part kindred.refitted).trans (kept left _ _)

theorem now : right.now = left.now :=
  kindred.part (fun deployment => deployment.now) fun _ _ _ => rfl

theorem ready : right.ready = left.ready :=
  kindred.part (fun deployment => deployment.ready) fun _ _ _ => rfl

theorem source : right.source = left.source :=
  kindred.part (fun deployment => deployment.source) fun _ _ _ => rfl

theorem holder : right.holder = left.holder :=
  kindred.part (fun deployment => deployment.holder) fun _ _ _ => rfl

theorem jobs : right.jobs = left.jobs :=
  kindred.part (fun deployment => deployment.jobs) fun _ _ _ => rfl

theorem outcomes : right.outcomes = left.outcomes :=
  kindred.part (fun deployment => deployment.outcomes) fun _ _ _ => rfl

theorem gates : right.gates = left.gates :=
  kindred.part (fun deployment => deployment.gates) fun _ _ _ => rfl

theorem cancelled : right.cancelled = left.cancelled :=
  kindred.part (fun deployment => deployment.cancelled) fun _ _ _ => rfl

theorem watches : right.watches = left.watches :=
  kindred.part (fun deployment => deployment.watches) fun _ _ _ => rfl

theorem worker : right.service.worker = left.service.worker :=
  kindred.part (fun deployment => deployment.service.worker) fun _ _ _ => rfl

theorem state : right.service.state = left.service.state :=
  kindred.part (fun deployment => deployment.service.state) fun _ _ _ => rfl

theorem version : right.service.version = left.service.version :=
  kindred.part (fun deployment => deployment.service.version) fun _ _ _ => rfl

theorem stopRequested : right.service.stopRequested = left.service.stopRequested :=
  kindred.part (fun deployment => deployment.service.stopRequested) fun _ _ _ => rfl

theorem drainWait : right.service.drainWait = left.service.drainWait :=
  kindred.part (fun deployment => deployment.service.drainWait) fun _ _ _ => rfl

theorem length_handlers : right.service.handlers.length = left.service.handlers.length :=
  likeness.length_eq kindred.staffs

theorem fallback_name : right.service.fallback.name = left.service.fallback.name :=
  likeness.name_eq kindred.staffs

theorem callersWith (property : Call → Bool) :
    right.callersWith property = left.callersWith property := by
  rw [Deployment.callersWith, Deployment.callersWith, kindred.jobs]

/-! ## Changes and records -/

/-- A change that has nothing to do with the staff or the journal. -/
theorem change (change : Deployment → Deployment)
    (kept : ∀ deployment staff journal,
      change (deployment.refit staff journal) = (change deployment).refit staff journal)
    (stands : likeness.workers (change left).service.worker) :
    Kindred likeness (change left) (change right) := by
  have own (deployment : Deployment) :
      (change deployment).service.staff = deployment.service.staff ∧
        (change deployment).journal = deployment.journal := by
    have same := kept deployment deployment.service.staff deployment.journal
    exact ⟨congrArg (fun changed => changed.service.staff) same,
      congrArg (fun changed => changed.journal) same⟩
  rcases own left with ⟨staff, journal⟩
  rcases own right with ⟨staffToo, journalToo⟩
  refine ⟨?_, ?_, ?_, stands⟩
  · rw [staffToo, journalToo, ← kept, ← kindred.refitted]
  · rw [staff, staffToo]
    exact kindred.staffs
  · rw [journal, journalToo]
    exact kindred.journals

/-- A stretch of work that the staffs do each in its own way. -/
theorem served (account other : Account) (staffs : likeness.staffs account.staff other.staff)
    (journals : likeness.journals account.trace other.trace) :
    Kindred likeness (left.served account left.gates) (right.served other right.gates) where
  refitted := congrArg (fun deployment : Deployment => deployment.served other deployment.gates)
    kindred.refitted
  staffs := staffs
  journals := likeness.append kindred.journals journals
  stands := kindred.stands

/-- The staffs are replaced. -/
theorem restaff {staff other : Staff} (staffs : likeness.staffs staff other) :
    Kindred likeness { left with service := left.service.withStaff staff }
      { right with service := right.service.withStaff other } where
  refitted := congrArg
    (fun deployment : Deployment =>
      { deployment with service := deployment.service.withStaff other }) kindred.refitted
  staffs := staffs
  journals := kindred.journals
  stands := kindred.stands

theorem noteAll (trace : Journal) :
    Kindred likeness (left.noteAll trace) (right.noteAll trace) where
  refitted := congrArg (fun deployment : Deployment => deployment.noteAll trace) kindred.refitted
  staffs := kindred.staffs
  journals := likeness.append kindred.journals (likeness.refl trace)
  stands := kindred.stands

theorem note (entry : Occurrence) : Kindred likeness (left.note entry) (right.note entry) :=
  kindred.noteAll [entry]

theorem log (notice : Notice) : Kindred likeness (left.log notice) (right.log notice) :=
  kindred.note _

theorem count (counter : Counter) (amount : Nat) :
    Kindred likeness (left.count counter amount) (right.count counter amount) :=
  kindred.note _

theorem wakeAll (actors : List Actor) :
    Kindred likeness (left.wakeAll actors) (right.wakeAll actors) := by
  rw [wakeAll_eq, wakeAll_eq]
  exact kindred.change
    (fun deployment => { deployment with ready := lineUpAll deployment.ready actors })
    (fun _ _ _ => rfl) kindred.stands

theorem wake (actor : Actor) : Kindred likeness (left.wake actor) (right.wake actor) :=
  kindred.wakeAll [actor]

theorem setWorker {worker : Worker} (stands : likeness.workers worker) :
    Kindred likeness (left.setWorker worker) (right.setWorker worker) :=
  kindred.change (fun deployment => deployment.setWorker worker) (fun _ _ _ => rfl) stands

/-- The worker turns to something that is no batch. -/
theorem free {worker : Worker} (free : worker.isFree = true) :
    Kindred likeness (left.setWorker worker) (right.setWorker worker) :=
  kindred.setWorker (likeness.free worker free)

/-- Put the worker somewhere for a time that is counted from the present. -/
theorem freeUntil (worker : Nat → Worker) (free : ∀ time, (worker time).isFree = true) :
    Kindred likeness (left.setWorker (worker left.now)) (right.setWorker (worker right.now)) := by
  rw [kindred.now]
  exact kindred.free (free left.now)

theorem setJob (id : Nat) (job : Job) :
    Kindred likeness (left.setJob id job) (right.setJob id job) :=
  kindred.change (fun deployment => deployment.setJob id job)
    (fun _ _ _ => rfl) kindred.stands

theorem finish (id : Nat) (outcome : Outcome) :
    Kindred likeness (left.finish id outcome) (right.finish id outcome) :=
  kindred.change (fun deployment => deployment.finish id outcome)
    (fun _ _ _ => rfl) kindred.stands

theorem setSource (source : Source) :
    Kindred likeness { left with source } { right with source } :=
  kindred.change (fun deployment => { deployment with source })
    (fun _ _ _ => rfl) kindred.stands

theorem setHolder (holder : Holder) :
    Kindred likeness { left with holder } { right with holder } :=
  kindred.change (fun deployment => { deployment with holder })
    (fun _ _ _ => rfl) kindred.stands

/-! ## The queue and the state of the service -/

theorem adopt (woken : List Actor) (queue : SubmissionQueue Actor Batch) :
    Kindred likeness (left.adopt woken queue) (right.adopt woken queue) :=
  (kindred.setSource _).wakeAll woken

theorem backlog : right.backlog = left.backlog := by
  rw [Deployment.backlog, Deployment.backlog, kindred.source]

theorem logStats (tag : String) : Kindred likeness (left.logStats tag) (right.logStats tag) := by
  unfold Deployment.logStats
  rw [kindred.source]
  cases left.source with
  | buffered queue => exact kindred.log _
  | scripted queue => exact kindred.note _

theorem requestStats (tag : String) :
    Kindred likeness (left.requestStats tag) (right.requestStats tag) :=
  (kindred.note _).logStats tag

/-- Kindred enter a state together, or are both refused. -/
theorem enter (next : ServiceState) :
    (∃ moved other, left.enter next = (.ok (), moved) ∧ right.enter next = (.ok (), other) ∧
      Kindred likeness moved other) ∨
    ∃ error, left.enter next = (.error error, left) ∧ right.enter next = (.error error, right) := by
  cases can : left.service.state.canBecome next with
  | true =>
      have canToo : right.service.state.canBecome next = true := by
        rw [kindred.state]
        exact can
      have entered := ((kindred.change
        (fun deployment =>
          { deployment with
            service :=
              { deployment.service with
                state := next, version := deployment.service.version + 1 } })
        (fun _ _ _ => rfl) kindred.stands).note (.entered next)).wakeAll
          (left.callersWith Call.observesState)
      refine Or.inl ⟨_, _, if_pos can, if_pos canToo, ?_⟩
      rw [kindred.callersWith]
      exact entered
  | false =>
      have cannotToo : right.service.state.canBecome next = false := by
        rw [kindred.state]
        exact can
      refine Or.inr ⟨_, enter_of_cannot can, ?_⟩
      rw [enter_of_cannot cannotToo, kindred.state]

theorem cancelWorker : Kindred likeness left.cancelWorker right.cancelWorker := by
  have told := kindred.change
    (fun deployment =>
      { deployment with service := { deployment.service with stopRequested := true } })
    (fun _ _ _ => rfl) kindred.stands
  unfold Deployment.cancelWorker
  rw [kindred.stopRequested, kindred.worker]
  dsimp only
  split
  · exact told.wake .worker
  · exact told

theorem requestStop : Kindred likeness left.requestStop right.requestStop := by
  unfold Deployment.requestStop
  rcases kindred.enter .stopping with
    ⟨moved, other, entered, enteredToo, later⟩ | ⟨_, refused, refusedToo⟩
  · rw [entered, enteredToo]
    exact (later.cancelWorker.log .stopRequested).requestStats stopTag
  · rw [refused, refusedToo]
    exact kindred.cancelWorker

/-! ## Steps of the worker's life -/

/-- Staffs that make the same choice, each in its own way, take a batch in hand alike. -/
theorem beginDispatch (phase : Phase) {batch : Batch} {choice otherChoice : Selection}
    (chooses : Selection.choose left.service.handlers left.service.fallback batch = choice)
    (choosesToo :
      Selection.choose right.service.handlers right.service.fallback batch = otherChoice)
    (chosen : choice.chosen = otherChoice.chosen)
    (staffs : likeness.staffs { left.service.staff with handlers := choice.handlers }
      { right.service.staff with handlers := otherChoice.handlers })
    (journals : likeness.journals choice.trace otherChoice.trace)
    (stands : likeness.workers (.dispatching phase { batch, pending := otherChoice.chosen })) :
    Kindred likeness (left.beginDispatch phase batch) (right.beginDispatch phase batch) := by
  have selected := kindred.served ⟨.dispatchBegun batch :: choice.trace, _⟩
    ⟨.dispatchBegun batch :: otherChoice.trace, _⟩ staffs
    (likeness.append (likeness.refl [.dispatchBegun batch]) journals)
  unfold Deployment.beginDispatch
  dsimp only
  rw [chooses, choosesToo, chosen]
  by_cases nobody : otherChoice.chosen.isEmpty = true
  · rw [if_pos nobody, if_pos nobody]
    exact (((selected.log _).count _ 1).note _).free phase.isFree_resume
  · rw [if_neg nobody, if_neg nobody]
    exact (selected.count _ 1).setWorker stands

theorem startUp : Kindred likeness left.startUp right.startUp := by
  unfold Deployment.startUp
  rw [kindred.length_handlers, kindred.fallback_name]
  have announced := kindred.log
    (.startingUp left.service.handlers.length left.service.fallback.name)
  dsimp only
  rcases announced.enter .running with
    ⟨moved, other, entered, enteredToo, later⟩ | ⟨_, refused, refusedToo⟩
  · rw [entered, enteredToo]
    exact (later.log _).free rfl
  · rw [refused, refusedToo]
    exact announced.free rfl

theorem missed (error : FailureError) :
    Kindred likeness (left.missed error) (right.missed error) := by
  have told := kindred.note (.contact (.fails error))
  unfold Deployment.missed
  dsimp only
  rw [told.backlog]
  split
  · exact (told.log _).free rfl
  · exact (told.log _).free rfl
  · exact (told.log _).free rfl

theorem tearDown (text : String) : Kindred likeness (left.tearDown text) (right.tearDown text) := by
  have gone : (Worker.aborted text).isFree = true := rfl
  unfold Deployment.tearDown
  rw [kindred.callersWith]
  exact (kindred.free gone).wakeAll _

theorem closeAccounts (drained : Nat) :
    Kindred likeness (left.closeAccounts drained) (right.closeAccounts drained) :=
  (kindred.count .drained drained).requestStats drainTag

theorem retire {worker : Worker} (free : worker.isFree = true) :
    Kindred likeness (left.retire worker) (right.retire worker) := by
  unfold Deployment.retire
  rw [kindred.callersWith]
  exact (kindred.free free).wakeAll _

theorem completeDrain (drained : Nat) :
    Kindred likeness (left.completeDrain drained) (right.completeDrain drained) := by
  have closed := ((kindred.note (.contact .givesNothing)).closeAccounts drained).log
    (.drained drained)
  unfold Deployment.completeDrain
  dsimp only
  rcases closed.enter .terminated with
    ⟨moved, other, entered, enteredToo, later⟩ | ⟨_, refused, refusedToo⟩
  · rw [entered, enteredToo]
    exact later.retire rfl
  · rw [refused, refusedToo]
    exact closed.retire rfl

theorem abandonDrain (drained : Nat) (error : FailureError) :
    Kindred likeness (left.abandonDrain drained error) (right.abandonDrain drained error) := by
  have closed := ((kindred.note (.contact (.fails error))).closeAccounts drained).log
    (.drainFailed error drained)
  unfold Deployment.abandonDrain
  dsimp only
  rcases closed.enter .failed with
    ⟨moved, other, entered, enteredToo, later⟩ | ⟨_, refused, refusedToo⟩
  · rw [entered, enteredToo]
    exact later.retire rfl
  · rw [refused, refusedToo]
    exact closed.retire rfl

/-! ## The worker's turn -/

section Turns

variable (turn : left.IsWorkersTurn)
include turn

theorem answerMain (answer : QueueAnswer) :
    Likewise likeness (.goesOn, left.answerMain answer) (.goesOn, right.answerMain answer) := by
  cases answer with
  | batch batch => exact .takes kindred turn rfl rfl
  | error error => exact .pairs ⟨rfl, kindred.missed error⟩
  | panic text => exact .pairs ⟨rfl, kindred.tearDown text⟩
  | nothing => exact .pairs ⟨rfl, kindred.free rfl⟩

theorem beginFetch : Likewise likeness left.beginFetch right.beginFetch := by
  have calling := kindred.note (.contact .waits)
  unfold Deployment.beginFetch
  rw [kindred.source]
  cases left.source with
  | buffered queue => exact .pairs ⟨rfl, calling.free rfl⟩
  | scripted queue =>
      have asked := calling.note .fetched
      dsimp only
      cases queue.waits with
      | nil => exact .pairs ⟨rfl, asked.free rfl⟩
      | cons reply rest =>
          have popped := asked.setSource (.scripted { queue with waits := rest })
          dsimp only
          split
          · exact popped.answerMain turn reply.answer
          · exact .pairs ⟨rfl, popped.freeUntil
              (fun time => .fetching (.delayed (time + reply.delay) reply.answer))
              fun _ => rfl⟩

theorem advanceFetch (fetch : Fetch) :
    Likewise likeness (left.advanceFetch fetch) (right.advanceFetch fetch) := by
  unfold Deployment.advanceFetch
  rw [kindred.source, kindred.stopRequested, kindred.now]
  cases fetch with
  | queued place =>
      cases left.source with
      | scripted queue => exact .pairs ⟨rfl, kindred⟩
      | buffered queue =>
          dsimp only
          cases left.service.stopRequested with
          | true => exact .pairs ⟨rfl, (kindred.adopt _ _).missed .cancelled⟩
          | false =>
              rcases queue.seek .worker place with ⟨batch | _ | place, woken, after⟩
              · exact .takes (kindred.adopt woken after) (turn.adopt woken after) rfl rfl
              · exact .pairs ⟨rfl, (kindred.adopt woken after).missed .queueClosed⟩
              · exact .pairs ⟨rfl, (kindred.adopt woken after).free rfl⟩
  | delayed time answer =>
      dsimp only
      split
      · exact kindred.answerMain turn answer
      · exact .pairs ⟨rfl, kindred⟩
  | forStop =>
      cases left.service.stopRequested with
      | true => exact .pairs ⟨rfl, kindred.missed .cancelled⟩
      | false => exact .pairs ⟨rfl, kindred⟩

theorem answerDrain (drained : Nat) (answer : QueueAnswer) :
    Likewise likeness (.goesOn, left.answerDrain drained answer)
      (.goesOn, right.answerDrain drained answer) := by
  cases answer with
  | batch batch => exact .takes kindred turn rfl rfl
  | error error => exact .pairs ⟨rfl, kindred.abandonDrain drained error⟩
  | panic text => exact .pairs ⟨rfl, kindred.tearDown text⟩
  | nothing => exact .pairs ⟨rfl, kindred.completeDrain drained⟩

theorem beginDrainFetch (drained : Nat) :
    Likewise likeness (left.beginDrainFetch drained) (right.beginDrainFetch drained) := by
  have calling := kindred.note (.contact (.waitsWithin left.service.drainWait))
  unfold Deployment.beginDrainFetch
  rw [kindred.source, kindred.now, kindred.drainWait]
  cases left.source with
  | buffered queue => exact .pairs ⟨rfl, calling.free rfl⟩
  | scripted queue =>
      have asked := calling.note (.fetchedWithin left.service.drainWait)
      dsimp only
      cases queue.drains with
      | nil => exact .pairs ⟨rfl, asked.completeDrain drained⟩
      | cons reply rest =>
          have popped := asked.setSource (.scripted { queue with drains := rest })
          dsimp only
          split
          · exact popped.answerDrain turn drained reply.answer
          · exact .pairs ⟨rfl, popped.freeUntil
              (fun time => .drainFetching drained (left.now + left.service.drainWait)
                (.delayed (time + reply.delay) reply.answer))
              fun _ => rfl⟩

theorem advanceDrainFetch (drained deadline : Nat) (fetch : Fetch) :
    Likewise likeness (left.advanceDrainFetch drained deadline fetch)
      (right.advanceDrainFetch drained deadline fetch) := by
  unfold Deployment.advanceDrainFetch
  rw [kindred.source, kindred.now]
  cases fetch with
  | queued place =>
      cases left.source with
      | scripted queue => exact .pairs ⟨rfl, kindred⟩
      | buffered queue =>
          dsimp only
          rcases queue.seek .worker place with ⟨batch | _ | place, woken, after⟩
          · exact .takes (kindred.adopt woken after) (turn.adopt woken after) rfl rfl
          · exact .pairs ⟨rfl, (kindred.adopt woken after).completeDrain drained⟩
          · have waiting := kindred.adopt woken after
            dsimp only
            split
            · exact .pairs ⟨rfl, (waiting.adopt _ _).completeDrain drained⟩
            · exact .pairs ⟨rfl, waiting.free rfl⟩
  | delayed time answer =>
      dsimp only
      split
      · exact kindred.answerDrain turn drained answer
      · exact .pairs ⟨rfl, kindred⟩
  | forStop => exact .pairs ⟨rfl, kindred⟩

/-- The workers of kindred deployments take the same turn, if they do so with a
batch in hand. -/
theorem advanceWorker
    (goesOn : ∀ phase dispatch, left.service.worker = .dispatching phase dispatch →
      Paired likeness (left.advanceDispatch phase dispatch)
        (right.advanceDispatch phase dispatch)) :
    Likewise likeness left.advanceWorker right.advanceWorker := by
  unfold Deployment.advanceWorker
  rw [kindred.worker, kindred.state, kindred.stopRequested]
  cases here : left.service.worker with
  | idle | done _ | failed _ | aborted _ => exact .pairs ⟨rfl, kindred⟩
  | fresh => exact .pairs ⟨rfl, kindred.startUp⟩
  | looping =>
      dsimp only
      split
      · exact kindred.beginFetch turn
      · exact .pairs ⟨rfl, (kindred.log _).free rfl⟩
  | fetching fetch => exact kindred.advanceFetch turn fetch
  | parked =>
      cases left.service.stopRequested with
      | true => exact .pairs ⟨rfl, kindred.free rfl⟩
      | false => exact .pairs ⟨rfl, kindred⟩
  | dispatching phase dispatch => exact .pairs (goesOn phase dispatch here)
  | draining drained => exact kindred.beginDrainFetch turn drained
  | drainFetching drained deadline fetch =>
      exact kindred.advanceDrainFetch turn drained deadline fetch

end Turns

end Kindred

end Parts

end Deployment
end FailureDispatch

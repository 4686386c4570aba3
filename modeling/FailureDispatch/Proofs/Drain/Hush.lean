import FailureDispatch.Proofs.Drain.Attendance

/-!
# A queue with nothing to come

When a drain ends, its queue is empty, nobody has a claim on a slot, and it is
closed or no submission is under way.  A queue that is closed then can receive
nothing any more, whatever is tried, and one that is still open receives nothing
from the calls that are under way.
-/

namespace FailureDispatch

theorem Call.Follows.isSubmission_eq {earlier later : Call} (follows : earlier.Follows later) :
    later.isSubmission = earlier.isSubmission := by
  cases follows with
  | submit | join => rfl
  | consume reached consumes => cases earlier <;> rfl

/-- A submission waits for a slot or must act first. -/
theorem Call.not_isSubmission {call : Call} (waits : call.waitsForSlot = false)
    (pending : call.isPending = false) : call.isSubmission = false := by
  cases call with
  | submit door batch begun =>
      cases begun with
      | true => cases waits
      | false => cases pending
  | _ => rfl

namespace Deployment

/-- The queue holds nothing, and no call under way brings anything. -/
structure Hushed (deployment : Deployment) (queue : SubmissionQueue Actor Batch) : Prop where
  empty : queue.buffer = []
  unclaimed : queue.slots.claimants = []
  shut : queue.isOpen = true → ∀ entry ∈ deployment.jobs, entry.2.call.isSubmission = false

section Hush

variable {before after : Deployment} {queue next : SubmissionQueue Actor Batch}

/-- The queue has received nothing, and is open only if it was. -/
structure BringsNothing (queue next : SubmissionQueue Actor Batch) : Prop where
  buffer : next.buffer = queue.buffer
  slots : next.slots = queue.slots
  shuts : next.isOpen = queue.isOpen ∨ next.isOpen = false

theorem BringsNothing.refl (queue : SubmissionQueue Actor Batch) : BringsNothing queue queue :=
  ⟨rfl, rfl, Or.inl rfl⟩

theorem BringsNothing.refuse (queue : SubmissionQueue Actor Batch) :
    BringsNothing queue queue.refuse :=
  ⟨rfl, rfl, Or.inl rfl⟩

theorem BringsNothing.close (queue : SubmissionQueue Actor Batch) :
    BringsNothing queue queue.close.2 := by
  rcases queue.close_eq with ⟨sleeper, same⟩
  rw [same]
  exact ⟨rfl, rfl, Or.inr rfl⟩

theorem ClosesBy.bringsNothing {door : Door} {woken : List Actor}
    (closes : ClosesBy queue door woken next) : BringsNothing queue next := by
  rcases closes with ⟨_, _, same⟩ | ⟨_, closed⟩
  · rw [same]
    exact .refl queue
  · rw [show next = queue.close.2 from congrArg Prod.snd closed]
    exact .close queue

theorem BringsNothing.closed (brings : BringsNothing queue next) (shut : queue.isOpen = false) :
    next.isOpen = false := by
  rcases brings.shuts with same | closed
  · rw [same]
    exact shut
  · exact closed

/-- The calls may go on as long as none becomes a submission. -/
theorem Hushed.goesOn (hushed : before.Hushed queue) (brings : BringsNothing queue next)
    (jobs : ∀ entry ∈ after.jobs, entry.2.call.isSubmission = true →
      ∃ old ∈ before.jobs, old.2.call.isSubmission = true) : after.Hushed next where
  empty := brings.buffer.trans hushed.empty
  unclaimed := by rw [brings.slots]; exact hushed.unclaimed
  shut := by
    intro stillOpen entry member
    cases submits : entry.2.call.isSubmission with
    | false => rfl
    | true =>
        rcases jobs entry member submits with ⟨old, present, submitted⟩
        have wasOpen : queue.isOpen = true := by
          cases shut : queue.isOpen with
          | true => rfl
          | false =>
              rw [brings.closed shut] at stillOpen
              cases stillOpen
        rw [hushed.shut wasOpen old present] at submitted
        cases submitted

theorem Hushed.of_jobs (hushed : before.Hushed queue) (jobs : after.jobs = before.jobs) :
    after.Hushed queue := by
  apply hushed.goesOn (.refl queue)
  intro entry member submits
  rw [jobs] at member
  exact ⟨entry, member, submits⟩

/-- A submission under way finds the queue closed and has not begun. -/
theorem Hushed.late (hushed : before.Hushed queue) (claimed : before.Claimed queue) {id : Nat}
    {door : Door} {batch : Batch} {begun doomed : Bool}
    (job : before.job? id = some ⟨.submit door batch begun, doomed⟩) :
    queue.isOpen = false ∧ begun = false := by
  have member := mem_of_job? job
  constructor
  · cases isOpen : queue.isOpen with
    | false => rfl
    | true =>
        have impossible := hushed.shut isOpen _ member
        cases impossible
  · cases begun with
    | false => rfl
    | true =>
        have claims := (claimed.claimants (.caller id)).mpr ⟨_, member, rfl, rfl⟩
        rw [hushed.unclaimed] at claims
        cases claims

/-- A submission that finds the queue closed is refused. -/
theorem attempt_late (shut : queue.isOpen = false) (who : Actor) (batch : Batch) :
    queue.attempt false who batch = (.refused .queueClosed, [], queue.refuse) := by
  simp only [SubmissionQueue.attempt, SubmissionQueue.submit, shut, Bool.false_eq_true, if_false]

theorem trySubmit_late (shut : queue.isOpen = false) (batch : Batch) :
    queue.trySubmit batch = (.error .queueClosed, [], queue.refuse) := by
  simp only [SubmissionQueue.trySubmit, shut, Bool.not_false, if_true]

/-- A caller brings nothing into such a queue. -/
theorem Hushed.turn_brings (hushed : before.Hushed queue) (claimed : before.Claimed queue)
    (sole : before.SoleConsumer) {id : Nat} (turn : CallerTurn before queue id after)
    (buffered : before.source = .buffered queue) :
    ∃ next, after.source = .buffered next ∧ BringsNothing queue next := by
  cases turn with
  | absent _ | lingers _ _ | givesUp _ _ | sees _ _ _ => exact ⟨queue, buffered, .refl queue⟩
  | accepted job tried | queues job tried =>
      rcases hushed.late claimed job with ⟨shut, fresh⟩
      rw [fresh, attempt_late shut] at tried
      cases tried
  | refused job tried _ =>
      rcases hushed.late claimed job with ⟨shut, fresh⟩
      rw [fresh, attempt_late shut] at tried
      cases tried
      simp only [adopt_eq, note, finish]
      exact ⟨_, rfl, .refuse queue⟩
  | withdraws job =>
      have impossible := (hushed.late claimed job).2
      cases impossible
  | catches job consumes _ | misses job consumes _ _ | stays job consumes _
  | departs job consumes _ | timesOut job consumes _ => exact absurd consumes (sole.no_place job)
  | @asks door stopFirst _ _ =>
      rcases toldBy_eq before stopFirst with ⟨_, _, _, _, _, same⟩
      rw [same]
      exact ⟨queue, buffered, .refl queue⟩
  | @joins door stopFirst count _ _ =>
      rcases toldBy_eq before stopFirst with ⟨_, _, _, _, _, same⟩
      have source : ((before.toldBy stopFirst).setJob id { call := .joining door }).source =
          .buffered queue := by
        rw [same]
        exact buffered
      rcases report_eq source id door count with ⟨_, next, _, _, closes, reported⟩
      rw [reported]
      exact ⟨next, rfl, closes.bringsNothing⟩
  | @learns door count _ _ =>
      rcases report_eq buffered id door count with ⟨_, next, _, _, closes, reported⟩
      rw [reported]
      exact ⟨next, rfl, closes.bringsNothing⟩
  | letsGo _ =>
      rcases requestStop_eq before with ⟨_, _, _, _, same⟩
      rw [same]
      exact ⟨queue, buffered, .refl queue⟩

theorem Hushed.caller_turn (hushed : before.Hushed queue) (claimed : before.Claimed queue)
    (sole : before.SoleConsumer) {id : Nat} (turn : CallerTurn before queue id after)
    (buffered : before.source = .buffered queue) (source : after.source = .buffered next) :
    after.Hushed next ∧ (queue.isOpen = false → next.isOpen = false) := by
  rcases hushed.turn_brings claimed sole turn buffered with ⟨same, sourceSame, brings⟩
  rw [source] at sourceSame
  cases sourceSame
  refine ⟨hushed.goesOn brings ?_, brings.closed⟩
  intro entry member submits
  rcases turn.jobs entry member with old | ⟨_, _, job, present, follows⟩
  · exact ⟨entry, old, submits⟩
  · exact ⟨_, mem_of_job? present, follows.isSubmission_eq.symm.trans submits⟩

/-- Nothing from outside brings anything into a closed queue. -/
theorem Outside.bringsNothing (outside : Outside before queue after)
    (buffered : before.source = .buffered queue) (source : after.source = .buffered next)
    (shut : queue.isOpen = false) : BringsNothing queue next := by
  cases outside with
  | aside _ _ _ _ | starts _ =>
      rw [show before.source = .buffered next from source] at buffered
      cases buffered
      exact .refl _
  | @accepts batch _ _ tried =>
      rw [trySubmit_late shut] at tried
      cases tried
  | @refuses batch _ _ _ tried =>
      rw [trySubmit_late shut] at tried
      cases tried
      simp only [adopt_eq, note] at source
      cases source
      exact .refuse queue
  | closes =>
      rw [adopt_eq] at source
      cases source
      exact .close queue
  | stops holder _ =>
      rcases requestStop_eq { before with holder } with ⟨_, _, _, _, same⟩
      rw [same, show before.source = _ from buffered] at source
      cases source
      exact .refl _

/-- A queue that is closed and holds nothing stays so, whatever begins. -/
theorem Hushed.closed (hushed : before.Hushed queue) (brings : BringsNothing queue next)
    (shut : queue.isOpen = false) : after.Hushed next ∧ next.isOpen = false := by
  have closed := brings.closed shut
  refine ⟨⟨brings.buffer.trans hushed.empty, ?_, ?_⟩, closed⟩
  · rw [brings.slots]
    exact hushed.unclaimed
  · intro impossible
    rw [closed] at impossible
    cases impossible

end Hush

end Deployment
end FailureDispatch

import FailureDispatch.Proofs.Ledger.SoleConsumer
import FailureDispatch.Proofs.Queue.Seat

/-!
# The worker in the only seat

A worker that is the only consumer of its queue holds the seat exactly while it
waits there.  So its looks at the queue are decided by the buffer, and a drain
that ends has found the buffer empty.
-/

namespace FailureDispatch

/-- Where the worker waits for a batch, or would begin to wait. -/
def Worker.place : Worker → SubmissionQueue.Place
  | .fetching (.queued place) | .drainFetching _ _ (.queued place) => place
  | _ => .line

theorem Phase.place_resume (phase : Phase) : phase.resume.place = .line := by
  cases phase <;> rfl

theorem Service.Seeks.place_eq {service : Service} {phase : Phase}
    {place : SubmissionQueue.Place} (seeks : service.Seeks phase place) :
    service.worker.place = place := by
  cases seeks with
  | main here _ =>
      rw [here]
      rfl
  | drain here =>
      rw [here]
      rfl

theorem Opens.place_eq {staff : Staff} {batch : Batch} {phase : Phase} {stretch : Account}
    {worker : Worker} (opens : Opens staff batch phase stretch worker) :
    worker.place = .line := by
  cases opens with
  | discards => exact phase.place_resume
  | calls _ _ => rfl

namespace Deployment

/-- The worker sits in the seat of the queue, or the seat is free. -/
def Seated (deployment : Deployment) (queue : SubmissionQueue Actor Batch) : Prop :=
  queue.SeatedAt deployment.service.worker.place

/-- What a call that does not consume does to the queue in one turn. -/
inductive SubmitterActs (queue : SubmissionQueue Actor Batch) (who : Actor) :
    List Actor → SubmissionQueue Actor Batch → Prop where
  | nothing : SubmitterActs queue who [] queue
  | attempts {begun batch submission woken next}
      (tried : queue.attempt begun who batch = (submission, woken, next)) :
      SubmitterActs queue who woken next
  | withdraws : SubmitterActs queue who (queue.withdraw who).1 (queue.withdraw who).2
  | closes : SubmitterActs queue who queue.close.1 queue.close.2

/-- What a turn of the worker does to the queue, apart from the seat: it takes the
first batch and passes the slot on, or does nothing. -/
inductive TakesAtMost (queue : SubmissionQueue Actor Batch) (woken : List Actor) :
    SubmissionQueue Actor Batch → Prop where
  | nothing {turn sleeper} : TakesAtMost queue woken { queue with turn, sleeper }
  | takes {batch rest turn} (front : queue.buffer = batch :: rest)
      (wakes : woken = (queue.slots.release 1).1) :
      TakesAtMost queue woken
        { queue with
          buffer := rest
          slots := (queue.slots.release 1).2
          turn
          consumed := queue.consumed + 1 }

section Turns

variable {before after : Deployment} {queue : SubmissionQueue Actor Batch}

theorem SoleConsumer.no_place {id : Nat} {call : Call} {doomed : Bool}
    {place : SubmissionQueue.Place} (sole : before.SoleConsumer)
    (job : before.job? id = some ⟨call, doomed⟩) : call.place? ≠ some place := by
  have apart := sole.apart _ (mem_of_job? job)
  rw [apart]
  intro impossible
  cases impossible

theorem submitterActs_of_closesBy {who : Actor} {door : Door} {woken : List Actor}
    {next : SubmissionQueue Actor Batch} (closes : ClosesBy queue door woken next) :
    SubmitterActs queue who woken next := by
  rcases closes with ⟨_, nobody, same⟩ | ⟨_, closed⟩
  · rw [nobody, same]
    exact .nothing
  · rw [show woken = queue.close.1 from congrArg Prod.fst closed,
      show next = queue.close.2 from congrArg Prod.snd closed]
    exact .closes

/-- Where nobody else consumes, a caller can only submit, withdraw and close. -/
theorem SoleConsumer.acts {id : Nat} (sole : before.SoleConsumer)
    (turn : CallerTurn before queue id after) (buffered : before.source = .buffered queue) :
    ∃ woken next, after.source = .buffered next ∧
      SubmitterActs queue (.caller id) woken next := by
  cases turn with
  | absent _ | lingers _ _ | givesUp _ _ | sees _ _ _ => exact ⟨_, queue, buffered, .nothing⟩
  | accepted _ tried | refused _ tried _ | queues _ tried =>
      simp only [adopt_eq, note, finish, setJob]
      exact ⟨_, _, rfl, .attempts tried⟩
  | withdraws _ =>
      simp only [adopt_eq, finish]
      exact ⟨_, _, rfl, .withdraws⟩
  | catches job consumes _ | misses job consumes _ _ | stays job consumes _
  | departs job consumes _ | timesOut job consumes _ => exact absurd consumes (sole.no_place job)
  | @asks door stopFirst _ _ =>
      rcases toldBy_eq before stopFirst with ⟨_, _, _, _, _, same⟩
      rw [same]
      exact ⟨_, queue, buffered, .nothing⟩
  | @joins door stopFirst count _ _ =>
      rcases toldBy_eq before stopFirst with ⟨_, _, _, _, _, same⟩
      have source : ((before.toldBy stopFirst).setJob id { call := .joining door }).source =
          .buffered queue := by
        rw [same]
        exact buffered
      rcases report_eq source id door count with ⟨_, next, _, _, closes, reported⟩
      rw [reported]
      exact ⟨_, next, rfl, submitterActs_of_closesBy closes⟩
  | @learns door count _ _ =>
      rcases report_eq buffered id door count with ⟨_, next, _, _, closes, reported⟩
      rw [reported]
      exact ⟨_, next, rfl, submitterActs_of_closesBy closes⟩
  | letsGo _ =>
      rcases requestStop_eq before with ⟨_, _, _, _, same⟩
      rw [same]
      exact ⟨_, queue, buffered, .nothing⟩

theorem SubmitterActs.turn_eq {who : Actor} {woken : List Actor}
    {next : SubmissionQueue Actor Batch} (acts : SubmitterActs queue who woken next) :
    next.turn = queue.turn := by
  cases acts with
  | nothing => rfl
  | @attempts begun batch _ _ _ tried =>
      have same : (queue.attempt begun who batch).2.2.turn = queue.turn := by
        cases begun with
        | true => exact queue.turn_resume who batch
        | false => exact queue.turn_submit who batch
      rw [tried] at same
      exact same
  | withdraws => exact queue.turn_withdraw who
  | closes => exact queue.turn_close

/-- The end of a drain whose worker is the only consumer. -/
theorem Gives.alone {place : SubmissionQueue.Place} {late : Prop} {woken : List Actor}
    {next : SubmissionQueue Actor Batch} (gives : Gives queue place late woken next)
    (seated : queue.SeatedAt place) :
    woken = [] ∧ (∃ sleeper, next = { queue with turn := ⟨1, [], []⟩, sleeper }) ∧
      queue.buffer = [] ∧ (queue.mayReceive = false ∨ late) := by
  have looks := SubmissionQueue.seek_alone seated Actor.worker
  cases gives with
  | exhausted looked =>
      rw [looked] at looks
      cases looks with
      | exhausted empty last => exact ⟨rfl, ⟨_, rfl⟩, empty, Or.inl last⟩
  | timedOut due looked =>
      rw [looked] at looks
      cases looks with
      | waits empty more =>
          have inSeat : SubmissionQueue.SeatedAt
              { queue with turn := ⟨0, [], []⟩, sleeper := some Actor.worker } .seat := rfl
          rcases SubmissionQueue.depart_alone inSeat Actor.worker with ⟨sleeper, left⟩
          rw [left]
          exact ⟨rfl, ⟨sleeper, rfl⟩, empty, Or.inr due⟩

/-- A worker that is the only consumer keeps its seat, and otherwise changes
nothing or takes a batch. -/
theorem WorkerTurn.alone {progress : Progress} {woken : List Actor}
    {next : SubmissionQueue Actor Batch} {service : Service} {trace : Journal}
    (turn : WorkerTurn before queue progress woken next service trace)
    (seated : before.Seated queue) :
    next.SeatedAt service.worker.place ∧ TakesAtMost queue woken next := by
  unfold Seated at seated
  cases turn with
  | rests _ => exact ⟨seated, .nothing⟩
  | startsUp here _ | startsLate here _ | turnsToQueue here _ _ | leavesLoop here _
  | unparks here _ | dispatches here _ _ _ | turnsToDrain here =>
      rw [here] at seated
      exact ⟨seated, .nothing⟩
  | finishes here _ =>
      rw [here] at seated
      rw [Phase.place_resume]
      exact ⟨seated, .nothing⟩
  | @interrupted place here _ =>
      rw [here] at seated
      change queue.SeatedAt place at seated
      rcases SubmissionQueue.depart_alone seated Actor.worker with ⟨sleeper, left⟩
      rw [left]
      exact ⟨rfl, .nothing⟩
  | shutOut seeks looked =>
      rw [seeks.place_eq] at seated
      have looks := SubmissionQueue.seek_alone seated Actor.worker
      rw [looked] at looks
      cases looks with
      | exhausted _ _ => exact ⟨rfl, .nothing⟩
  | waits seeks looked =>
      rw [seeks.place_eq] at seated
      have looks := SubmissionQueue.seek_alone seated Actor.worker
      rw [looked] at looks
      cases looks with
      | waits _ _ => exact ⟨rfl, .nothing⟩
  | @drainWaits _ _ place _ _ _ here _ looked =>
      rw [here] at seated
      change queue.SeatedAt place at seated
      have looks := SubmissionQueue.seek_alone seated Actor.worker
      rw [looked] at looks
      cases looks with
      | waits _ _ => exact ⟨rfl, .nothing⟩
  | takes seeks looked opens _ _ =>
      rw [seeks.place_eq] at seated
      have looks := SubmissionQueue.seek_alone seated Actor.worker
      rw [looked] at looks
      rw [opens.place_eq]
      cases looks with
      | item front => exact ⟨rfl, .takes front rfl⟩
  | completes here gives =>
      rw [here] at seated
      rcases (gives.alone seated).2.1 with ⟨sleeper, same⟩
      rw [same]
      exact ⟨rfl, .nothing⟩

/-- Nothing from outside touches the seat. -/
theorem Outside.seated (outside : Outside before queue after) (sound : before.OnCourse)
    (buffered : before.source = .buffered queue) (seated : before.Seated queue) :
    ∃ next, after.source = .buffered next ∧ after.Seated next := by
  unfold Seated at seated
  cases outside with
  | aside _ _ _ _ => exact ⟨queue, buffered, seated⟩
  | @accepts batch _ _ tried | @refuses batch _ _ _ tried =>
      have turn := queue.turn_trySubmit batch
      rw [tried] at turn
      simp only [adopt_eq, note]
      exact ⟨_, rfl, seated.of_turn turn⟩
  | closes =>
      rw [adopt_eq]
      exact ⟨_, rfl, seated.of_turn queue.turn_close⟩
  | starts new =>
      rw [(sound.course.idle_of_new new).1] at seated
      exact ⟨queue, buffered, seated⟩
  | stops holder _ =>
      rcases requestStop_eq { before with holder } with ⟨_, _, _, _, same⟩
      rw [same]
      exact ⟨queue, buffered, seated⟩

/-- A caller leaves the seat alone. -/
theorem Seated.caller_turn {id : Nat} (seated : before.Seated queue) (sole : before.SoleConsumer)
    (turn : CallerTurn before queue id after) (buffered : before.source = .buffered queue) :
    ∃ next, after.source = .buffered next ∧ after.Seated next := by
  rcases sole.acts turn buffered with ⟨_, next, source, acts⟩
  refine ⟨next, source, ?_⟩
  unfold Seated at seated ⊢
  rw [← turn.worker_eq buffered] at seated
  exact seated.of_turn acts.turn_eq

end Turns

end Deployment
end FailureDispatch

import FailureDispatch.Proofs.Course.Run
import FailureDispatch.Proofs.Queue.Balance

/-!
# Every move accounts for the queue

The journal says which batches were accepted and which were taken.  Every move
writes down exactly what it does to the buffer: `Accounts` is the balance of
the queue, read off the entries that the move makes.

A call accounts for it a second time by its outcome.  Only a submission that
ends well leaves its batch behind, and only a consumer that ends with a batch
has removed one.
-/

namespace FailureDispatch

/-- The batch that the end of a call has removed. -/
def Outcome.fetched : Outcome → List Batch
  | .took batch => [batch]
  | _ => []

/-- The batch that the end of a call leaves in the queue. -/
def Call.delivered (call : Call) : Outcome → List Batch
  | .done =>
      match call with
      | .submit _ batch _ => [batch]
      | _ => []
  | _ => []

namespace Deployment

/-- What a change does to the queue is what it writes down. -/
structure Accounts (before : Deployment) (queue : SubmissionQueue Actor Batch)
    (after : Deployment) (trace : Journal) : Prop where
  journal : after.journal = before.journal ++ trace
  balanced : ∃ next, after.source = .buffered next ∧
    queue.Balanced next trace.accepted trace.taken

/-- The end of a call says once more what the journal says about it. -/
def EndsAs (before after : Deployment) (id : Nat) (trace : Journal) : Prop :=
  (after.outcomes = before.outcomes ∧ trace.accepted = [] ∧ trace.taken = []) ∨
    ∃ job outcome, before.job? id = some job ∧
      after.outcomes = before.outcomes ++ [(id, outcome)] ∧
      trace.accepted = job.call.delivered outcome ∧ trace.taken = outcome.fetched ∧
      (outcome.fetched = [] ∨ job.call.place?.isSome = true)

section Turns

variable {before : Deployment} {queue : SubmissionQueue Actor Batch}

/-- A change that writes down nothing about batches must not touch them. -/
theorem Accounts.of_plain {after : Deployment} {next : SubmissionQueue Actor Batch}
    {trace : Journal} (plain : trace.Plain) (journal : after.journal = before.journal ++ trace)
    (source : after.source = .buffered next) (balanced : queue.Balanced next [] []) :
    Accounts before queue after trace := by
  refine ⟨journal, next, source, ?_⟩
  rw [plain.accepted_eq, plain.taken_eq]
  exact balanced

theorem Accounts.of_silent {after : Deployment} {next : SubmissionQueue Actor Batch}
    (journal : after.journal = before.journal) (source : after.source = .buffered next)
    (balanced : queue.Balanced next [] []) : Accounts before queue after [] :=
  .of_plain .nil (journal.trans (List.append_nil _).symm) source balanced

/-- The balance of a look at the queue, read off its answer. -/
theorem balanced_of_seek {who : Actor} {place : SubmissionQueue.Place}
    {caught : SubmissionQueue.Catch Batch} {woken : List Actor}
    {next : SubmissionQueue Actor Batch}
    (looked : queue.seek who place = (caught, woken, next)) :
    queue.Balanced next [] caught.obtained := by
  have balanced := queue.seek_balanced who place
  rwa [looked] at balanced

theorem balanced_of_attempt {begun : Bool} {who : Actor} {batch : Batch}
    {submission : SubmissionQueue.Submission} {woken : List Actor}
    {next : SubmissionQueue Actor Batch}
    (tried : queue.attempt begun who batch = (submission, woken, next)) :
    queue.Balanced next (submission.added batch) [] := by
  cases begun with
  | true =>
      have balanced := queue.resume_balanced who batch
      rwa [show queue.resume who batch = _ from tried] at balanced
  | false =>
      have balanced := queue.submit_balanced who batch
      rwa [show queue.submit who batch = _ from tried] at balanced

theorem Gives.balanced {place : SubmissionQueue.Place} {late : Prop} {woken : List Actor}
    {next : SubmissionQueue Actor Batch} (gives : Gives queue place late woken next) :
    queue.Balanced next [] [] := by
  cases gives with
  | exhausted looked => exact balanced_of_seek looked
  | timedOut due looked =>
      exact (balanced_of_seek looked).after_idle (SubmissionQueue.depart_balanced _ _ _)

theorem balanced_of_closesBy {door : Door} {woken : List Actor}
    {next : SubmissionQueue Actor Batch} (closes : ClosesBy queue door woken next) :
    queue.Balanced next [] [] := by
  rcases closes with ⟨_, _, same⟩ | ⟨_, closed⟩
  · rw [same]
    exact .refl queue
  · rw [show next = queue.close.2 from congrArg Prod.snd closed]
    exact queue.close_balanced

/-- The worker writes down what it takes. -/
theorem WorkerTurn.balanced {progress : Progress} {woken : List Actor}
    {next : SubmissionQueue Actor Batch} {service : Service} {trace : Journal}
    (turn : WorkerTurn before queue progress woken next service trace) :
    queue.Balanced next trace.accepted trace.taken := by
  cases turn with
  | rests _ | startsUp _ _ | startsLate _ _ | turnsToQueue _ _ _ | leavesLoop _ _
  | unparks _ _ | finishes _ _ | turnsToDrain _ => exact .refl queue
  | interrupted _ _ => exact queue.depart_balanced _ _
  | shutOut _ looked | waits _ looked | drainWaits _ _ looked => exact balanced_of_seek looked
  | @takes _ _ batch _ _ _ stretch _ looked _ ofDispatch _ =>
      have accepted : Journal.accepted (.contact (.gives batch) :: .taken batch :: stretch.trace) = [] :=
        ofDispatch.accepted_eq
      have taken :
          Journal.taken (.contact (.gives batch) :: .taken batch :: stretch.trace) = [batch] :=
        congrArg (batch :: ·) ofDispatch.taken_eq
      rw [accepted, taken]
      exact balanced_of_seek looked
  | dispatches _ _ inner _ =>
      rw [inner.ofDispatch.accepted_eq, inner.ofDispatch.taken_eq]
      exact .refl queue
  | completes _ gives => exact gives.balanced

/-- The worker begins to dispatch exactly what it takes. -/
theorem WorkerTurn.begun_eq {progress : Progress} {woken : List Actor}
    {next : SubmissionQueue Actor Batch} {service : Service} {trace : Journal}
    (turn : WorkerTurn before queue progress woken next service trace) :
    trace.begun = trace.taken := by
  cases turn with
  | @takes _ _ batch _ _ _ stretch _ _ _ ofDispatch begun =>
      have taken :
          Journal.taken (.contact (.gives batch) :: .taken batch :: stretch.trace) = [batch] :=
        congrArg (batch :: ·) ofDispatch.taken_eq
      exact Eq.trans begun taken.symm
  | dispatches _ _ inner _ => rw [inner.begun_eq, inner.ofDispatch.taken_eq]
  | _ => rfl

/-- A caller writes down what it submits and what it takes. -/
theorem CallerTurn.accounts {after : Deployment} {id : Nat}
    (turn : CallerTurn before queue id after) (buffered : before.source = .buffered queue) :
    ∃ trace, Accounts before queue after trace ∧ trace.Clerical ∧
      EndsAs before after id trace := by
  have silent := Journal.Plain.nil.clerical
  cases turn with
  | absent _ | lingers _ _ =>
      exact ⟨[], .of_silent rfl buffered (.refl queue), silent, Or.inl ⟨rfl, rfl, rfl⟩⟩
  | accepted job tried =>
      simp only [adopt_eq, note, finish]
      exact ⟨_, ⟨rfl, _, rfl, balanced_of_attempt tried⟩, .single rfl,
        Or.inr ⟨_, _, job, rfl, rfl, rfl, Or.inl rfl⟩⟩
  | refused job tried failed =>
      simp only [adopt_eq, note, finish]
      refine ⟨_, ⟨rfl, _, rfl, balanced_of_attempt tried⟩, .single rfl, Or.inr ?_⟩
      rcases failed with same | same <;> (rw [same]; exact ⟨_, _, job, rfl, rfl, rfl, Or.inl rfl⟩)
  | queues job tried =>
      rw [adopt_eq]
      exact ⟨[], .of_silent rfl rfl (balanced_of_attempt tried), silent, Or.inl ⟨rfl, rfl, rfl⟩⟩
  | withdraws job =>
      rw [adopt_eq]
      exact ⟨[], .of_silent rfl rfl (queue.withdraw_balanced _), silent,
        Or.inr ⟨_, _, job, rfl, rfl, rfl, Or.inl rfl⟩⟩
  | catches job consumes looked =>
      simp only [adopt_eq, note, finish]
      exact ⟨_, ⟨rfl, _, rfl, balanced_of_seek looked⟩, .single rfl,
        Or.inr ⟨_, _, job, rfl, rfl, rfl, Or.inr (Option.isSome_of_eq_some consumes)⟩⟩
  | misses job consumes looked failed =>
      rw [adopt_eq]
      refine ⟨[], .of_silent rfl rfl (balanced_of_seek looked), silent, Or.inr ?_⟩
      rcases failed with same | same <;> (rw [same]; exact ⟨_, _, job, rfl, rfl, rfl, Or.inl rfl⟩)
  | stays job consumes looked =>
      rw [adopt_eq]
      exact ⟨[], .of_silent rfl rfl (balanced_of_seek looked), silent, Or.inl ⟨rfl, rfl, rfl⟩⟩
  | departs job consumes failed =>
      rw [adopt_eq]
      refine ⟨[], .of_silent rfl rfl (queue.depart_balanced _ _), silent, Or.inr ?_⟩
      rcases failed with same | same <;> (rw [same]; exact ⟨_, _, job, rfl, rfl, rfl, Or.inl rfl⟩)
  | timesOut job consumes looked =>
      rw [adopt_eq, adopt_eq]
      exact ⟨[], .of_silent rfl rfl ((balanced_of_seek looked).after_idle
        (SubmissionQueue.depart_balanced _ _ _)), silent, Or.inr ⟨_, _, job, rfl, rfl, rfl, Or.inl rfl⟩⟩
  | @asks door stopFirst _ _ =>
      rcases toldBy_eq before stopFirst with ⟨_, _, trace, plain, _, same⟩
      rw [same]
      exact ⟨trace, .of_plain plain rfl buffered (.refl queue), plain.clerical,
        Or.inl ⟨rfl, plain.accepted_eq, plain.taken_eq⟩⟩
  | @joins door stopFirst count job _ =>
      rcases toldBy_eq before stopFirst with ⟨_, _, first, plain, _, same⟩
      have source : ((before.toldBy stopFirst).setJob id { call := .joining door }).source =
          .buffered queue := by
        rw [same]
        exact buffered
      rcases report_eq source id door count with ⟨_, next, later, plainLater, closing, reported⟩
      have whole := plain.append plainLater
      rw [reported, same]
      exact ⟨first ++ later,
        .of_plain whole (List.append_assoc _ _ _) rfl (balanced_of_closesBy closing),
        whole.clerical, Or.inr ⟨_, _, job, rfl, whole.accepted_eq, whole.taken_eq, Or.inl rfl⟩⟩
  | @learns door count job _ =>
      rcases report_eq buffered id door count with ⟨_, next, trace, plain, closing, same⟩
      rw [same]
      exact ⟨trace, .of_plain plain rfl rfl (balanced_of_closesBy closing), plain.clerical,
        Or.inr ⟨_, _, job, rfl, plain.accepted_eq, plain.taken_eq, Or.inl rfl⟩⟩
  | letsGo job =>
      rcases requestStop_eq before with ⟨_, _, trace, plain, same⟩
      rw [same]
      exact ⟨trace, .of_plain plain rfl buffered (.refl queue), plain.clerical,
        Or.inr ⟨_, _, job, rfl, plain.accepted_eq, plain.taken_eq, Or.inl rfl⟩⟩
  | givesUp job _ =>
      exact ⟨[], .of_silent rfl buffered (.refl queue), silent,
        Or.inr ⟨_, _, job, rfl, rfl, rfl, Or.inl rfl⟩⟩
  | @sees call _ job observes seen =>
      refine ⟨[], .of_silent rfl buffered (.refl queue), silent, Or.inr ?_⟩
      have nobody : [] = call.delivered .done := by
        cases call <;> first | rfl | cases observes
      rcases seen with same | ⟨error, same⟩ | ⟨state, same⟩
      · rw [same]
        exact ⟨_, _, job, rfl, nobody, rfl, Or.inl rfl⟩
      · rw [same]
        exact ⟨_, _, job, rfl, rfl, rfl, Or.inl rfl⟩
      · rw [same]
        exact ⟨_, _, job, rfl, rfl, rfl, Or.inl rfl⟩

/-- Nothing is taken from outside. -/
theorem Outside.accounts {after : Deployment} (outside : Outside before queue after)
    (buffered : before.source = .buffered queue) :
    ∃ trace, Accounts before queue after trace ∧ trace.Clerical ∧ trace.taken = [] := by
  have silent := Journal.Plain.nil.clerical
  cases outside with
  | aside _ _ plain _ =>
      exact ⟨_, .of_plain plain rfl buffered (.refl queue), plain.clerical, plain.taken_eq⟩
  | @accepts batch woken next tried =>
      have balanced := queue.trySubmit_balanced batch
      rw [tried] at balanced
      simp only [adopt_eq, note]
      exact ⟨_, ⟨rfl, _, rfl, balanced⟩, .single rfl, rfl⟩
  | @refuses batch error woken next tried =>
      have balanced := queue.trySubmit_balanced batch
      rw [tried] at balanced
      simp only [adopt_eq, note]
      exact ⟨_, ⟨rfl, _, rfl, balanced⟩, .single rfl, rfl⟩
  | closes =>
      rw [adopt_eq]
      exact ⟨[], .of_silent rfl rfl queue.close_balanced, silent, rfl⟩
  | starts _ => exact ⟨_, .of_plain (.cons rfl .nil) rfl buffered (.refl queue),
      (Journal.Plain.cons rfl .nil).clerical, rfl⟩
  | stops holder _ =>
      rcases requestStop_eq { before with holder } with ⟨_, _, trace, plain, same⟩
      rw [same]
      exact ⟨trace, .of_plain plain rfl buffered (.refl queue), plain.clerical, plain.taken_eq⟩

end Turns

end Deployment
end FailureDispatch

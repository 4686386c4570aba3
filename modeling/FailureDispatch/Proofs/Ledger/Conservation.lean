import FailureDispatch.Proofs.Ledger.Accounts

/-!
# Conservation of batches

Whatever callers, cancellations, timeouts and aborts do to a queue, the batches
taken from it followed by those in its buffer are the batches accepted by it.
`Conserved` says so, and every move keeps it because every move accounts for
what it does.

Nothing is lost in a consumer that gives up: the outcome of a call tells what
its last turn did to the buffer, and an outcome without a batch tells that it
did nothing.
-/

namespace FailureDispatch

/-- The third list merges the other two: it consists of their elements, and
the elements of each stand in the order in which they stand there. -/
inductive Merges {α : Type} : List α → List α → List α → Prop where
  | nil : Merges [] [] []
  | left {left right merged : List α} (last : α) (merges : Merges left right merged) :
      Merges (left ++ [last]) right (merged ++ [last])
  | right {left right merged : List α} (last : α) (merges : Merges left right merged) :
      Merges left (right ++ [last]) (merged ++ [last])

namespace Merges

variable {α : Type} {left right merged : List α}

theorem append_left (merges : Merges left right merged) (items : List α) :
    Merges (left ++ items) right (merged ++ items) := by
  induction items generalizing left merged with
  | nil => rwa [List.append_nil, List.append_nil]
  | cons item rest inductionHypothesis =>
      have extended := inductionHypothesis (merges.left item)
      rwa [List.append_assoc, List.append_assoc] at extended

theorem append_right (merges : Merges left right merged) (items : List α) :
    Merges left (right ++ items) (merged ++ items) := by
  induction items generalizing right merged with
  | nil => rwa [List.append_nil, List.append_nil]
  | cons item rest inductionHypothesis =>
      have extended := inductionHypothesis (merges.right item)
      rwa [List.append_assoc, List.append_assoc] at extended

theorem eq_of_left_nil (merges : Merges left right merged) (none : left = []) :
    merged = right := by
  induction merges with
  | nil => rfl
  | left last _ _ => exact absurd none (by simp)
  | right last _ inductionHypothesis => rw [inductionHypothesis none]

theorem eq_of_right_nil (merges : Merges left right merged) (none : right = []) :
    merged = left := by
  induction merges with
  | nil => rfl
  | left last _ inductionHypothesis => rw [inductionHypothesis none]
  | right last _ _ => exact absurd none (by simp)

end Merges

namespace Deployment

/-- The batches that were taken, followed by those in the buffer, are those
that were accepted, and the counters of the queue count them. -/
structure Conserved (deployment : Deployment) (queue : SubmissionQueue Actor Batch) : Prop where
  batches : deployment.journal.taken ++ queue.buffer = deployment.journal.accepted
  consumed : queue.consumed = deployment.journal.taken.length
  submitted : queue.submitted = deployment.journal.accepted.length

/-- The batches with which calls have ended, in the order of their ends. -/
def returned (deployment : Deployment) : List Batch :=
  deployment.outcomes.flatMap fun ended => ended.2.fetched

section Moves

variable {before after : Deployment} {queue : SubmissionQueue Actor Batch}

/-- What is accounted for is conserved. -/
theorem Accounts.conserves {trace : Journal} (accounts : Accounts before queue after trace)
    (conserved : before.Conserved queue) :
    ∃ next, after.source = .buffered next ∧ after.Conserved next := by
  rcases accounts.balanced with ⟨next, source, balanced⟩
  refine ⟨next, source, ?_, ?_, ?_⟩
  · calc after.journal.taken ++ next.buffer
        = before.journal.taken ++ (trace.taken ++ next.buffer) := by
          rw [accounts.journal, Journal.taken_append, List.append_assoc]
      _ = before.journal.taken ++ (queue.buffer ++ trace.accepted) := by rw [balanced.buffer]
      _ = before.journal.accepted ++ trace.accepted := by
          rw [← List.append_assoc, conserved.batches]
      _ = after.journal.accepted := by rw [accounts.journal, Journal.accepted_append]
  · rw [balanced.consumed, conserved.consumed, accounts.journal, Journal.taken_append,
      List.length_append]
  · rw [balanced.submitted, conserved.submitted, accounts.journal, Journal.accepted_append,
      List.length_append]

/-- Every move accounts for what it does to the queue. -/
theorem Move.accounts {others : Bool} (move : Move others before after) (sound : before.OnCourse)
    (buffered : before.source = .buffered queue) : ∃ trace, Accounts before queue after trace := by
  cases move with
  | turn =>
      have turned := tick_turned buffered sound.course
      generalize before.tick = after at turned ⊢
      cases turned with
      | nobody => exact ⟨[], .of_silent rfl buffered (.refl queue)⟩
      | @worker _ progress _ next _ trace gates _ turn =>
          refine ⟨trace, ?_⟩
          cases progress <;> exact ⟨rfl, next, rfl, turn.balanced⟩
      | caller _ turn =>
          rcases turn.accounts buffered with ⟨trace, accounts, _, _⟩
          exact ⟨trace, accounts.journal, accounts.balanced⟩
  | begins _ _ =>
      rw [wake_eq]
      exact ⟨[], .of_silent rfl buffered (.refl queue)⟩
  | abort _ =>
      rw [wake_eq]
      exact ⟨[], .of_silent rfl buffered (.refl queue)⟩
  | act act =>
      rcases (act.outside buffered).accounts buffered with ⟨trace, accounts, _, _⟩
      exact ⟨trace, accounts⟩

end Moves

theorem Unstarted.conserved {origin : Deployment} (unstarted : origin.Unstarted) :
    ∃ queue, origin.source = .buffered queue ∧ origin.Conserved queue := by
  rcases unstarted.buffered with ⟨capacity, source⟩
  refine ⟨_, source, ?_, ?_, ?_⟩
  · rw [unstarted.journal.accepted_eq, unstarted.journal.taken_eq]
    rfl
  · rw [unstarted.journal.taken_eq]
    rfl
  · rw [unstarted.journal.accepted_eq]
    rfl

/-- Every run conserves batches. -/
theorem reaches_conserves {others : Bool} {origin reached : Deployment}
    (unstarted : origin.Unstarted) (reaches : Reaches others origin reached) :
    ∃ queue, reached.source = .buffered queue ∧ reached.Conserved queue := by
  apply reaches.keeps _ unstarted.onCourse unstarted.conserved
  intro before after sound move conserved
  rcases conserved with ⟨queue, buffered, conserved⟩
  rcases move.accounts sound buffered with ⟨trace, accounts⟩
  exact accounts.conserves conserved

/-- A run only adds to the journal. -/
theorem Reaches.journal_prefix {others : Bool} {origin reached : Deployment}
    (reaches : Reaches others origin reached) (sound : origin.OnCourse) :
    origin.journal <+: reached.journal := by
  apply reaches.keeps _ sound List.prefix_rfl
  intro before after soundBefore move grown
  rcases soundBefore.buffered with ⟨queue, buffered⟩
  rcases move.accounts soundBefore buffered with ⟨trace, accounts⟩
  rw [accounts.journal]
  exact grown.trans (List.prefix_append _ _)

/-! ## What calls return -/

/-- Every batch that was taken went to a call or to the worker, in order. -/
structure Attributed (deployment : Deployment) : Prop where
  merges : Merges deployment.returned deployment.journal.begun deployment.journal.taken
  idle : deployment.service.worker = .idle → deployment.journal.begun = []

section Attribution

variable {before after : Deployment} {queue : SubmissionQueue Actor Batch}

/-- A worker that is idle after a turn was so before and did nothing. -/
theorem WorkerTurn.idle_eq {progress : Progress} {woken : List Actor}
    {next : SubmissionQueue Actor Batch} {service : Service} {trace : Journal}
    (turn : WorkerTurn before queue progress woken next service trace)
    (idle : service.worker = .idle) : before.service.worker = .idle ∧ trace = [] := by
  cases turn with
  | rests _ => exact ⟨idle, rfl⟩
  | takes _ _ opens _ _ => exact absurd idle opens.not_idle
  | @finishes phase _ _ _ => cases phase <;> cases idle
  | _ => cases idle

theorem Outside.idle_of_idle (outside : Outside before queue after)
    (idle : after.service.worker = .idle) : before.service.worker = .idle := by
  cases outside with
  | aside _ _ _ _ => exact idle
  | accepts _ | refuses _ | closes =>
      simp only [adopt_eq, note] at idle
      exact idle
  | starts _ => cases idle
  | stops holder _ =>
      rcases requestStop_eq { before with holder } with ⟨_, _, _, _, same⟩
      rw [same] at idle
      exact idle

/-- A change after which no other outcomes and batches are recorded. -/
theorem Attributed.silent (attributed : before.Attributed)
    (outcomes : after.outcomes = before.outcomes)
    (begun : after.journal.begun = before.journal.begun)
    (taken : after.journal.taken = before.journal.taken)
    (worker : after.service.worker = .idle → before.service.worker = .idle) :
    after.Attributed := by
  constructor
  · rw [returned, outcomes, begun, taken]
    exact attributed.merges
  · intro idle
    rw [begun]
    exact attributed.idle (worker idle)

theorem Attributed.caller_turn {id : Nat} (attributed : before.Attributed)
    (turn : CallerTurn before queue id after) (buffered : before.source = .buffered queue) :
    after.Attributed := by
  rcases turn.accounts buffered with ⟨trace, accounts, clerical, ends⟩
  have begun : after.journal.begun = before.journal.begun := by
    rw [accounts.journal, Journal.begun_append, clerical.begun_eq, List.append_nil]
  have worker := turn.worker_eq buffered
  have returned : after.returned = before.returned ++ trace.taken := by
    rcases ends with ⟨outcomes, _, taken⟩ | ⟨job, outcome, _, outcomes, _, taken, _⟩
    · rw [Deployment.returned, outcomes, taken, List.append_nil]
      rfl
    · rw [Deployment.returned, outcomes, taken, List.flatMap_append, List.flatMap_singleton]
      rfl
  constructor
  · rw [returned, begun, accounts.journal, Journal.taken_append]
    exact attributed.merges.append_left trace.taken
  · intro idle
    rw [begun]
    exact attributed.idle (worker.symm.trans idle)

theorem Attributed.worker_turn {progress : Progress} {woken : List Actor}
    {next : SubmissionQueue Actor Batch} {service : Service} {trace : Journal}
    (attributed : before.Attributed)
    (turn : WorkerTurn before queue progress woken next service trace)
    (gates : List (String × Permits Actor)) :
    Attributed ((before.worked woken next service gates trace).afterTurn progress) := by
  have worked : Attributed (before.worked woken next service gates trace) := by
    constructor
    · have merges := attributed.merges.append_right trace.begun
      simp only [Deployment.worked, Journal.begun_append, Journal.taken_append, ← turn.begun_eq]
      exact merges
    · intro idle
      rcases turn.idle_eq idle with ⟨already, silent⟩
      simp only [Deployment.worked, silent, List.append_nil]
      exact attributed.idle already
  cases progress with
  | goesOn => exact worked
  | rests => exact ⟨worked.merges, worked.idle⟩

theorem Attributed.outside (attributed : before.Attributed)
    (outside : Outside before queue after) (buffered : before.source = .buffered queue) :
    after.Attributed := by
  rcases outside.accounts buffered with ⟨trace, accounts, clerical, taken⟩
  apply attributed.silent outside.outcomes
  · rw [accounts.journal, Journal.begun_append, clerical.begun_eq, List.append_nil]
  · rw [accounts.journal, Journal.taken_append, taken, List.append_nil]
  · exact outside.idle_of_idle

end Attribution

/-- Every run attributes the batches that it takes. -/
theorem reaches_attributes {others : Bool} {origin reached : Deployment}
    (unstarted : origin.Unstarted) (reaches : Reaches others origin reached) :
    reached.Attributed := by
  have beginning : origin.Attributed := by
    have begun : origin.journal.begun = [] := unstarted.journal.clerical.begun_eq
    constructor
    · rw [returned, unstarted.outcomes, begun, unstarted.journal.taken_eq]
      exact .nil
    · intro idle
      exact begun
  apply reaches.keeps _ unstarted.onCourse beginning
  intro before after sound move attributed
  rcases sound.buffered with ⟨queue, buffered⟩
  cases move with
  | turn =>
      have turned := tick_turned buffered sound.course
      generalize before.tick = after at turned ⊢
      cases turned with
      | nobody => exact attributed
      | worker gates _ turn => exact attributed.worker_turn turn gates
      | caller _ turn =>
          have kept := attributed.caller_turn turn buffered
          exact ⟨kept.merges, kept.idle⟩
  | begins _ _ | abort _ =>
      rw [wake_eq]
      exact attributed.silent rfl rfl rfl id
  | act act => exact attributed.outside (act.outside buffered) buffered

/-! ## What giving up does -/

/-- The turn of a caller changes the buffer only as its outcome says, and says
nothing about a batch while it goes on waiting. -/
def TellsItsEffect (before : Deployment) (queue : SubmissionQueue Actor Batch) (id : Nat) : Prop :=
  ∃ next, before.tick.source = .buffered next ∧
    ((before.tick.outcomes = before.outcomes ∧ next.buffer = queue.buffer) ∨
      ∃ job outcome, before.job? id = some job ∧
        before.tick.outcomes = before.outcomes ++ [(id, outcome)] ∧
        queue.buffer ++ job.call.delivered outcome = outcome.fetched ++ next.buffer)

/-- The turn of a caller ends its call in this way and leaves the buffer alone. -/
def EndsUntouched (before : Deployment) (queue : SubmissionQueue Actor Batch) (id : Nat)
    (outcome : Outcome) : Prop :=
  ∃ next, before.tick.source = .buffered next ∧ next.buffer = queue.buffer ∧
    before.tick.outcomes = before.outcomes ++ [(id, outcome)]

/-- A submission without waiting adds a batch to the buffer exactly if it says
that it succeeded. -/
def AnswersItsEffect (before : Deployment) (queue : SubmissionQueue Actor Batch) (door : Door)
    (draft : Draft) : Prop :=
  ∃ next, (before.submitNow door draft).2.source = .buffered next ∧
    ((∃ batch, draft.build = .ok batch ∧ (before.submitNow door draft).1 = .ok ∧
        next.buffer = queue.buffer ++ [batch]) ∨
      ((before.submitNow door draft).1 ≠ .ok ∧ next.buffer = queue.buffer))

section Effects

variable {before : Deployment} {queue : SubmissionQueue Actor Batch} {id : Nat}
  {rest : List Actor}

theorem tellsItsEffect (sound : before.OnCourse) (buffered : before.source = .buffered queue)
    (line : before.ready = .caller id :: rest) : TellsItsEffect before queue id := by
  have same : before.tick = (before.advanceCaller id).stepBack := by
    simp only [tick, line]
  rcases (advanceCaller_turn buffered sound.course).accounts buffered with
    ⟨trace, accounts, clerical, ends⟩
  rcases accounts.balanced with ⟨next, source, balanced⟩
  have buffer := balanced.buffer
  rw [TellsItsEffect, same]
  refine ⟨next, source, ?_⟩
  rcases ends with ⟨outcomes, accepted, taken⟩ | ⟨job, outcome, present, outcomes, accepted, taken, _⟩
  · rw [accepted, taken, List.append_nil] at buffer
    exact Or.inl ⟨outcomes, buffer.symm⟩
  · rw [accepted, taken] at buffer
    exact Or.inr ⟨job, outcome, present, outcomes, buffer⟩

/-- A call with a cancelled token is not even looked for a batch. -/
theorem cancelled_untouched (buffered : before.source = .buffered queue)
    (line : before.ready = .caller id :: rest) {token : String} {place : SubmissionQueue.Place}
    (job : before.job? id = some ⟨.consume token place, false⟩)
    (cancelled : token ∈ before.cancelled) :
    EndsUntouched before queue id (.failed .cancelled) := by
  have same : before.tick = ((before.adopt (queue.depart (.caller id) place).1
      (queue.depart (.caller id) place).2).finish id (.failed .cancelled)).stepBack := by
    simp only [tick, line, advanceCaller, job, advanceCall, buffered, if_pos cancelled]
  rw [EndsUntouched, same, adopt_eq]
  exact ⟨_, rfl, queue.buffer_depart _ _, rfl⟩

/-- A call that is torn down leaves the buffer alone. -/
theorem doomed_untouched (buffered : before.source = .buffered queue)
    (line : before.ready = .caller id :: rest) {call : Call}
    (job : before.job? id = some ⟨call, true⟩) : EndsUntouched before queue id .aborted := by
  have same : before.tick = (before.dismantle id call).stepBack := by
    simp only [tick, line, advanceCaller, job]
  rw [EndsUntouched, same]
  cases call with
  | submit door batch begun =>
      cases begun with
      | true =>
          simp only [dismantle, buffered, adopt_eq]
          exact ⟨_, rfl, queue.buffer_withdraw _, rfl⟩
      | false => exact ⟨queue, buffered, rfl, rfl⟩
  | consume token place | consumeWithin deadline place =>
      simp only [dismantle, buffered, adopt_eq]
      exact ⟨_, rfl, queue.buffer_depart _ _, rfl⟩
  | join door stopFirst =>
      rcases requestStop_eq before with ⟨_, _, _, _, told⟩
      simp only [dismantle, told]
      exact ⟨queue, buffered, rfl, rfl⟩
  | joining door | awaitRunning | awaitTerminated => exact ⟨queue, buffered, rfl, rfl⟩

theorem answersItsEffect (buffered : before.source = .buffered queue) (door : Door)
    (draft : Draft) : AnswersItsEffect before queue door draft := by
  unfold AnswersItsEffect submitNow
  simp only [buffered]
  cases built : draft.build with
  | error error =>
      refine ⟨queue, buffered, Or.inr ⟨?_, rfl⟩⟩
      intro impossible
      cases impossible
  | ok batch =>
      dsimp only
      have balanced := (queue.trySubmit_balanced batch).buffer
      rcases tried : queue.trySubmit batch with ⟨error | accepted, woken, next⟩
      · rw [tried] at balanced
        simp only [adopt_eq]
        refine ⟨next, rfl, Or.inr ⟨?_, balanced.symm.trans (List.append_nil _)⟩⟩
        intro impossible
        cases door <;> cases impossible
      · rw [tried] at balanced
        simp only [adopt_eq]
        exact ⟨next, rfl, Or.inl ⟨batch, rfl, trivial, balanced.symm⟩⟩

end Effects

/-- In every state that a queue can reach, with any number of submitters and
consumers, the batches taken from it followed by those in its buffer are the
batches it has accepted, in the order of acceptance.  Whatever was taken has
been returned by a call, in the same order, as long as no worker consumes too.
A turn that ends a call without a batch has removed none, a submission that
does not succeed has added none, and a consumer whose token is cancelled gives
up even if a batch is there. -/
theorem batches_conserved {capacity : Nat} {origin reached : Deployment}
    (made : ofQueue capacity = .ok origin) (reaches : Reaches true origin reached) :
    ∃ queue, reached.source = .buffered queue ∧
      reached.journal.taken ++ queue.buffer = reached.journal.accepted ∧
      queue.consumed = reached.journal.taken.length ∧
      queue.submitted = reached.journal.accepted.length ∧
      Merges reached.returned reached.journal.begun reached.journal.taken ∧
      (reached.service.worker = .idle → reached.returned = reached.journal.taken) ∧
      (∀ id rest, reached.ready = .caller id :: rest →
        TellsItsEffect reached queue id ∧
        (∀ token place, reached.job? id = some ⟨.consume token place, false⟩ →
          token ∈ reached.cancelled → EndsUntouched reached queue id (.failed .cancelled)) ∧
        (∀ call, reached.job? id = some ⟨call, true⟩ →
          EndsUntouched reached queue id .aborted)) ∧
      ∀ door draft, AnswersItsEffect reached queue door draft := by
  have unstarted := unstarted_ofQueue made
  have sound := unstarted.onCourse.reaches reaches
  have attributed := reaches_attributes unstarted reaches
  rcases reaches_conserves unstarted reaches with ⟨queue, buffered, conserved⟩
  refine ⟨queue, buffered, conserved.batches, conserved.consumed, conserved.submitted,
    attributed.merges, ?_, ?_, answersItsEffect buffered⟩
  · intro idle
    exact (attributed.merges.eq_of_right_nil (attributed.idle idle)).symm
  · intro id rest line
    refine ⟨tellsItsEffect sound buffered line, ?_, ?_⟩
    · intro token place job cancelled
      exact cancelled_untouched buffered line job cancelled
    · intro call job
      exact doomed_untouched buffered line job

/-- A waiting consumer is sent a batch, and its token is cancelled before it has
its turn. -/
def overtaken : Deployment :=
  (narrow.run 0 [some (.consume "stop"), some (.trySubmit .single), some (.cancel "stop")]).2

/-- The consumer gives up, and the batch stays where it is. -/
theorem batches_conserved_overtaken :
    ∃ queue, overtaken.source = .buffered queue ∧ queue.buffer.length = 1 ∧
      EndsUntouched overtaken queue 0 (.failed .cancelled) := by
  have reaches : Reaches true narrow overtaken :=
    reaches_run unstarted_narrow.onCourse unstarted_narrow.numbered _ (fun _ _ _ => rfl)
  rcases batches_conserved (show ofQueue 1 = .ok narrow from rfl) reaches with
    ⟨queue, source, _, _, _, _, _, turns, _⟩
  have filled : stock overtaken.source = 1 := by decide +kernel
  rw [source] at filled
  have line : overtaken.ready = [.caller 0] := by decide +kernel
  have job : overtaken.job? 0 = some ⟨.consume "stop" .seat, false⟩ := by decide +kernel
  have cancelled : "stop" ∈ overtaken.cancelled := by decide +kernel
  exact ⟨queue, source, filled, (turns 0 [] line).2.1 "stop" .seat job cancelled⟩

end Deployment
end FailureDispatch

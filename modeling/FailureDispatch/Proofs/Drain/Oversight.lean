import FailureDispatch.Proofs.Custody.Guarded
import FailureDispatch.Proofs.Drain.Count
import FailureDispatch.Proofs.Drain.Hush

/-!
# Turns of a service that a runtime holds

A runtime gives its service away exactly once, to the call that shuts it down,
and nobody else can stop it.  So while a runtime is held nobody has asked for a
stop, and a drain that ends has somebody waiting for it or nobody to wait.

`Overseen` follows this from turn to turn while the clock stands still.  A drain
is in time, so it ends only when the queue is exhausted; or its time has just
run out, and then the worker is the only one in line and nobody else can act
before it.  In both cases nothing is left and nothing more comes, until the
call that waits has closed the queue.
-/

namespace FailureDispatch

theorem Phase.not_fetching (phase : Phase) (count deadline : Nat) (fetch : Fetch) :
    phase.resume ≠ .drainFetching count deadline fetch := by
  intro impossible
  cases phase <;> cases impossible

theorem Opens.not_fetching {staff : Staff} {batch : Batch} {phase : Phase} {stretch : Account}
    {worker : Worker} (opens : Opens staff batch phase stretch worker) (count deadline : Nat)
    (fetch : Fetch) : worker ≠ .drainFetching count deadline fetch := by
  cases opens with
  | discards => exact phase.not_fetching count deadline fetch
  | calls _ _ =>
      intro impossible
      cases impossible

namespace Deployment

structure Overseen (deployment : Deployment) (queue : SubmissionQueue Actor Batch) : Prop where
  waits : 0 < deployment.service.drainWait
  timely : ∀ count deadline place,
    deployment.service.worker = .drainFetching count deadline (.queued place) →
      deployment.now < deadline ∨ deployment.ready = [.worker]
  unasked : deployment.holder ≠ .nobody → deployment.Unasked
  through : ∀ entry ∈ deployment.jobs, entry.2.call.door? ≠ some .service
  ended : deployment.service.worker.isGone = true →
    deployment.Hushed queue ∨ ∀ entry ∈ deployment.jobs, entry.2.call.isJoin = false
  told : ∀ ended ∈ deployment.outcomes, ∀ count, ended.2 = .drained count →
    deployment.Hushed queue ∧ queue.isOpen = false

section Turns

variable {before after : Deployment} {queue next : SubmissionQueue Actor Batch}

/-! ## The worker -/

section Worker

variable {progress : Progress} {woken : List Actor} {service : Service} {trace : Journal}
  (turn : WorkerTurn before queue progress woken next service trace)
include turn

theorem WorkerTurn.drainWait_eq : service.drainWait = before.service.drainWait := by
  cases turn <;> rfl

/-- A drain that goes on looking at the queue after a turn has time left. -/
theorem WorkerTurn.early (waits : 0 < before.service.drainWait) {count deadline : Nat}
    {place : SubmissionQueue.Place}
    (there : service.worker = .drainFetching count deadline (.queued place)) :
    before.now < deadline := by
  cases turn with
  | rests still =>
      rcases still with here | ⟨_, here⟩ | ⟨here, _⟩ <;>
        (rw [here] at there; cases there)
  | takes _ _ opens _ _ => exact absurd there (opens.not_fetching _ _ _)
  | @finishes phase _ _ _ => exact absurd there (phase.not_fetching _ _ _)
  | drainWaits _ early _ =>
      cases there
      exact early
  | turnsToDrain _ =>
      cases there
      exact Nat.lt_add_of_pos_right waits
  | _ => cases there

end Worker

/-- Where nobody else can act, an empty buffer stays empty. -/
theorem Undisturbed.hushed (undisturbed : before.Undisturbed queue)
    (nobody : ∀ id, .caller id ∉ before.ready) (empty : queue.buffer = []) :
    before.Hushed queue := by
  have claimed := undisturbed.claimed
  have attended := undisturbed.attended
  have ungranted : queue.slots.granted = [] := by
    apply List.eq_nil_iff_forall_not_mem.mpr
    intro actor member
    have claims := List.mem_append_right queue.slots.line member
    rcases (claimed.claimants actor).mp claims with ⟨entry, _, who, _⟩
    have stands := attended.granted actor member
    rw [who] at stands
    exact nobody entry.1 stands
  have unclaimed : queue.slots.claimants = [] :=
    SubmissionQueue.isQuiet_iff.mp (claimed.roomy.isQuiet empty ungranted)
  refine ⟨empty, unclaimed, ?_⟩
  intro _ entry member
  apply Call.not_isSubmission
  · exact claimed.not_waitsForSlot unclaimed entry member
  · apply Bool.eq_false_iff.mpr
    intro pending
    exact nobody entry.1 (attended.pending entry member pending)

/-- The end of a drain leaves a queue with nothing to come. -/
theorem Overseen.completes (overseen : before.Overseen queue)
    (undisturbed : before.Undisturbed queue) {count deadline : Nat}
    {place : SubmissionQueue.Place}
    (here : before.service.worker = .drainFetching count deadline (.queued place))
    {woken : List Actor} (gives : Gives queue place (deadline ≤ before.now) woken next) :
    before.Hushed next := by
  have seated := undisturbed.seated
  unfold Seated at seated
  rw [here] at seated
  rcases gives.alone seated with ⟨_, ⟨sleeper, same⟩, empty, reason⟩
  have hushed : before.Hushed queue := by
    rcases reason with last | due
    · have quiet : queue.isOpen = false ∧ queue.slots.isQuiet = true := by
        simpa [SubmissionQueue.mayReceive] using last
      refine ⟨empty, SubmissionQueue.isQuiet_iff.mp quiet.2, ?_⟩
      intro impossible
      rw [quiet.1] at impossible
      cases impossible
    · rcases overseen.timely _ _ _ here with early | alone
      · exact absurd due (Nat.not_le_of_lt early)
      · apply undisturbed.hushed _ empty
        intro id member
        rw [alone] at member
        cases List.mem_singleton.mp member
  rw [same]
  exact ⟨hushed.empty, hushed.unclaimed, hushed.shut⟩

theorem Overseen.worker_turn (overseen : before.Overseen queue)
    (undisturbed : before.Undisturbed queue) (declares : before.Declares)
    {progress : Progress} {woken : List Actor} {service : Service} {trace : Journal}
    (turn : WorkerTurn before queue progress woken next service trace)
    (gates : List (String × Permits Actor)) :
    Overseen ((before.worked woken next service gates trace).afterTurn progress) next := by
  have ended (gone : service.worker.isGone = true) : before.Hushed next ∨
      ∀ entry ∈ before.jobs, entry.2.call.isJoin = false := by
    cases going : before.service.worker.isGone with
    | true =>
        rw [(turn.rests_of_gone going).1]
        exact overseen.ended going
    | false =>
        rcases turn.completes_of_ends going gone with ⟨_, _, _, _, here, gives, _⟩
        exact Or.inl (overseen.completes undisturbed here gives)
  have told (ended) (member : ended ∈ before.outcomes) (count : Nat)
      (drained : ended.2 = .drained count) : before.Hushed next ∧ next.isOpen = false := by
    have gone : before.service.worker.isGone = true := by
      rw [declares.outcomes ended member count drained]
      rfl
    rw [(turn.rests_of_gone gone).1]
    exact overseen.told ended member count drained
  have unasked (held : before.holder ≠ .nobody) :
      service.stopRequested = false ∧ ∀ entry ∈ before.jobs, entry.2.call.isJoin = false :=
    ⟨turn.told_eq.trans (overseen.unasked held).untold, (overseen.unasked held).nobody⟩
  have waits : 0 < service.drainWait := turn.drainWait_eq.symm ▸ overseen.waits
  have early (count deadline : Nat) (place : SubmissionQueue.Place)
      (there : service.worker = .drainFetching count deadline (.queued place)) :
      before.now < deadline := turn.early overseen.waits there
  generalize worked : (before.worked woken next service gates trace).afterTurn progress = after
  have jobs : after.jobs = before.jobs := by rw [← worked]; cases progress <;> rfl
  have outcomes : after.outcomes = before.outcomes := by rw [← worked]; cases progress <;> rfl
  have holder : after.holder = before.holder := by rw [← worked]; cases progress <;> rfl
  have now : after.now = before.now := by rw [← worked]; cases progress <;> rfl
  have same : after.service = service := by rw [← worked]; cases progress <;> rfl
  refine ⟨?_, ?_, ?_, ?_, ?_, ?_⟩
  · rw [same]
    exact waits
  · rw [same, now]
    intro count deadline place there
    exact Or.inl (early count deadline place there)
  · rw [holder]
    intro held
    refine ⟨?_, ?_⟩
    · rw [same]
      exact (unasked held).1
    · rw [jobs]
      exact (unasked held).2
  · rw [jobs]
    exact overseen.through
  · rw [same, jobs]
    intro gone
    exact (ended gone).imp_left fun hushed => hushed.of_jobs jobs
  · rw [outcomes]
    intro ended member count drained
    rcases told ended member count drained with ⟨hushed, shut⟩
    exact ⟨hushed.of_jobs jobs, shut⟩

/-! ## Callers -/

/-- Where nobody joins, nobody begins to. -/
theorem no_joins_after {id : Nat} (turn : CallerTurn before queue id after)
    (nobody : ∀ entry ∈ before.jobs, entry.2.call.isJoin = false) :
    ∀ entry ∈ after.jobs, entry.2.call.isJoin = false := by
  intro entry member
  rcases turn.jobs entry member with old | ⟨_, _, job, present, follows⟩
  · exact nobody entry old
  · rw [follows.isJoin_eq]
    exact nobody _ (mem_of_job? present)

/-- Where nobody joins, no caller stops the service. -/
theorem Unasked.caller_turn (unasked : before.Unasked) {id : Nat}
    (turn : CallerTurn before queue id after) (buffered : before.source = .buffered queue) :
    after.Unasked := by
  refine ⟨?_, no_joins_after turn unasked.nobody⟩
  rcases turn.byCaller buffered with ⟨_, _, _, _, _, _, _, owner, same⟩
  rw [same]
  rcases owner with untouched | ⟨job, present, joins⟩
  · rw [untouched]
    exact unasked.untold
  · rw [unasked.nobody _ (mem_of_job? present)] at joins
    cases joins

/-- Who learns how the drain went leaves a closed queue with nothing to come. -/
theorem Overseen.learns (overseen : before.Overseen queue)
    (undisturbed : before.Undisturbed queue) {id : Nat} (turn : CallerTurn before queue id after)
    (source : after.source = .buffered next) (ended : Nat × Outcome)
    (member : ended ∈ after.outcomes) (count : Nat) (drained : ended.2 = .drained count) :
    after.Hushed next ∧ next.isOpen = false := by
  have buffered := undisturbed.buffered
  have keeps (hushed : before.Hushed queue) :=
    hushed.caller_turn undisturbed.claimed undisturbed.sole turn buffered source
  have earlier (old : ended ∈ before.outcomes) : after.Hushed next ∧ next.isOpen = false := by
    rcases overseen.told ended old count drained with ⟨hushed, shut⟩
    exact ⟨(keeps hushed).1, (keeps hushed).2 shut⟩
  rcases turn.outcomes buffered with same | ⟨job, outcome, present, endsWith, same⟩
  · rw [same] at member
    exact earlier member
  · rw [same] at member
    rcases List.mem_append.mp member with old | new
    · exact earlier old
    · rw [List.mem_singleton.mp new] at drained
      cases endsWith with
      | apart _ other =>
          rw [show outcome = .drained count from drained] at other
          cases other
      | aborted => cases drained
      | drained joins done closes =>
          have there := mem_of_job? present
          have gone : before.service.worker.isGone = true := by
            rw [done]
            rfl
          rcases overseen.ended gone with hushed | nobody
          · have through : job.call.door? = some .runtime := by
              have service := overseen.through _ there
              cases door : job.call.door? with
              | none =>
                  rw [Call.isJoin_eq_isSome, door] at joins
                  cases joins
              | some door' =>
                  cases door' with
                  | service => exact absurd door service
                  | runtime => rfl
            rcases closes through with ⟨closed, sourceClosed, shut⟩
            rw [source] at sourceClosed
            cases sourceClosed
            exact ⟨(keeps hushed).1, shut⟩
          · rw [nobody _ there] at joins
            cases joins

theorem Overseen.caller_turn (overseen : before.Overseen queue)
    (undisturbed : before.Undisturbed queue) {id : Nat} {rest : List Actor}
    (line : before.ready = .caller id :: rest) (turn : CallerTurn before queue id after)
    (source : after.source = .buffered next) : after.stepBack.Overseen next := by
  have buffered := undisturbed.buffered
  have worker := turn.worker_eq buffered
  have kept : after.now = before.now ∧ after.holder = before.holder ∧
      after.service.drainWait = before.service.drainWait := by
    rcases turn.byCaller buffered with ⟨_, _, _, _, _, _, maybe, _, same⟩
    rw [same]
    refine ⟨rfl, rfl, ?_⟩
    cases maybe <;> rfl
  rcases kept with ⟨now, holder, drainWait⟩
  refine ⟨?_, ?_, ?_, ?_, ?_, ?_⟩
  · exact drainWait.symm ▸ overseen.waits
  · intro count deadline place there
    refine Or.inl ?_
    rw [show after.stepBack.now = before.now from now]
    rcases overseen.timely count deadline place (worker.symm.trans there) with early | alone
    · exact early
    · rw [line] at alone
      cases alone
  · intro held
    have unasked := (overseen.unasked (holder ▸ held)).caller_turn turn buffered
    exact ⟨unasked.untold, unasked.nobody⟩
  · intro entry member
    rcases turn.jobs entry member with old | ⟨_, _, job, present, follows⟩
    · exact overseen.through entry old
    · rw [follows.door?_eq]
      exact overseen.through _ (mem_of_job? present)
  · intro gone
    have goneBefore : before.service.worker.isGone = true := worker ▸ gone
    rcases overseen.ended goneBefore with hushed | nobody
    · have still := hushed.caller_turn undisturbed.claimed undisturbed.sole turn buffered source
      exact Or.inl (still.1.of_jobs rfl)
    · have none := no_joins_after turn nobody
      exact Or.inr none
  · intro ended member count drained
    rcases overseen.learns undisturbed turn source ended member count drained with ⟨hushed, shut⟩
    exact ⟨hushed.of_jobs rfl, shut⟩

/-! ## Settling -/

/-- What every turn keeps while the clock stands still. -/
structure Supervised (deployment : Deployment) (queue : SubmissionQueue Actor Batch) : Prop where
  undisturbed : deployment.Undisturbed queue
  overseen : deployment.Overseen queue
  declares : deployment.Declares

theorem Supervised.tick (supervised : before.Supervised queue) :
    ∃ next, before.tick.Supervised next := by
  rcases supervised with ⟨undisturbed, overseen, declares⟩
  have buffered := undisturbed.buffered
  have sound := undisturbed.sound
  have turned := tick_turned buffered sound.course
  have moved := Move.turn.moved sound undisturbed.sole buffered
  rcases undisturbed.move .turn with ⟨next, undisturbedNext⟩
  refine ⟨next, undisturbedNext, ?_, declares.moved moved⟩
  have source := undisturbedNext.buffered
  generalize before.tick = after at turned source ⊢
  cases turned with
  | nobody _ =>
      rw [buffered] at source
      cases source
      exact overseen
  | @worker _ progress _ reached _ _ gates _ turn =>
      have kept := overseen.worker_turn undisturbed declares turn gates
      have same : reached = next := by cases progress <;> exact Source.buffered.inj source
      rw [← same]
      exact kept
  | caller line turn => exact overseen.caller_turn undisturbed line turn source

end Turns

end Deployment
end FailureDispatch

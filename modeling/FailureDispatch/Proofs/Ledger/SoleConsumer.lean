import FailureDispatch.Proofs.Ledger.Conservation

/-!
# The worker as the only consumer

Where no call takes batches from the queue, the worker takes them all: the
batches whose dispatch has begun are those that were taken.  No call turns into
one that consumes, so it is enough that none begins as one.
-/

namespace FailureDispatch

/-- A call that does not consume never will. -/
theorem Call.Follows.apart {earlier later : Call} (follows : earlier.Follows later)
    (apart : earlier.place? = none) : later.place? = none := by
  cases follows with
  | submit | join => rfl
  | consume reached consumes =>
      rw [apart] at consumes
      cases consumes

namespace Deployment

/-- No call consumes, and none has done so. -/
structure SoleConsumer (deployment : Deployment) : Prop where
  apart : ∀ entry ∈ deployment.jobs, entry.2.call.place? = none
  returned : deployment.returned = []

theorem SoleConsumer.caller_turn {before after : Deployment}
    {queue : SubmissionQueue Actor Batch} {id : Nat} (sole : before.SoleConsumer)
    (turn : CallerTurn before queue id after) (buffered : before.source = .buffered queue) :
    after.SoleConsumer := by
  constructor
  · intro entry member
    rcases turn.jobs entry member with old | ⟨_, _, job, present, follows⟩
    · exact sole.apart entry old
    · exact follows.apart (sole.apart _ (mem_of_job? present))
  · rcases turn.accounts buffered with ⟨trace, _, _, ends⟩
    rcases ends with ⟨outcomes, _, _⟩ | ⟨job, outcome, present, outcomes, _, _, single⟩
    · rw [Deployment.returned, outcomes]
      exact sole.returned
    · have nothing : outcome.fetched = [] := by
        rcases single with none | consumes
        · exact none
        · rw [sole.apart _ (mem_of_job? present)] at consumes
          cases consumes
      rw [Deployment.returned, outcomes, List.flatMap_append, List.flatMap_singleton, nothing,
        List.append_nil]
      exact sole.returned

theorem SoleConsumer.move {before after : Deployment} (sole : before.SoleConsumer)
    (sound : before.OnCourse) (move : Move false before after) : after.SoleConsumer := by
  rcases sound.buffered with ⟨queue, buffered⟩
  cases move with
  | turn =>
      have turned := tick_turned buffered sound.course
      generalize before.tick = after at turned ⊢
      cases turned with
      | nobody => exact sole
      | @worker _ progress _ _ _ _ gates _ turn =>
          cases progress <;> exact ⟨sole.apart, sole.returned⟩
      | caller _ turn =>
          have kept := sole.caller_turn turn buffered
          exact ⟨kept.apart, kept.returned⟩
  | @begins id call fresh may =>
      rw [wake_eq]
      refine ⟨?_, sole.returned⟩
      intro entry member
      rcases List.mem_append.mp member with old | new
      · exact sole.apart entry old
      · rw [List.mem_singleton.mp new]
        apply Option.not_isSome_iff_eq_none.mp
        intro consumes
        exact Bool.false_ne_true (may.consumes consumes)
  | abort known =>
      rw [wake_eq]
      refine ⟨?_, sole.returned⟩
      intro entry member
      rcases mem_setJob member with ⟨old, _⟩ | same
      · exact sole.apart entry old
      · have apart := sole.apart _ (mem_of_job? known)
        rw [same]
        exact apart
  | act act =>
      have outside := act.outside buffered
      constructor
      · rw [outside.jobs]
        exact sole.apart
      · rw [Deployment.returned, outside.outcomes]
        exact sole.returned

theorem Unstarted.soleConsumer {origin : Deployment} (unstarted : origin.Unstarted) :
    origin.SoleConsumer := by
  constructor
  · intro entry member
    rw [unstarted.jobs] at member
    cases member
  · rw [returned, unstarted.outcomes]
    rfl

theorem reaches_soleConsumer {origin reached : Deployment} (unstarted : origin.Unstarted)
    (reaches : Reaches false origin reached) : reached.SoleConsumer := by
  apply reaches.keeps _ unstarted.onCourse unstarted.soleConsumer
  intro before after sound move sole
  exact sole.move sound move

/-- The batches that the worker began to dispatch are all that were taken. -/
theorem reaches_begun_eq_taken {origin reached : Deployment} (unstarted : origin.Unstarted)
    (reaches : Reaches false origin reached) : reached.journal.begun = reached.journal.taken := by
  have merges := (reaches_attributes unstarted reaches).merges
  exact (merges.eq_of_left_nil (reaches_soleConsumer unstarted reaches).returned).symm

end Deployment
end FailureDispatch

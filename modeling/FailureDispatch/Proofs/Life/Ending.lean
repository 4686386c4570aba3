import FailureDispatch.Proofs.Life.Lifecycle

/-!
# The end of the worker and the end of the service

A worker that comes to the end of its drain leaves its service in a final state.
A worker that its queue tears down by a panic does not: the service stays where
it was until somebody joins.  Whoever has the handle may keep it or drop it, and
then those who wait for the end wait for ever.

What holds is that nobody who joins is forgotten.  Once the worker is gone and
nobody can act any more, everyone who has joined has learned of the end or has
been aborted, and the first to learn of it has let the service fail.
-/

namespace FailureDispatch

/-- A call that joins waits for the worker from its first turn on. -/
theorem Call.Follows.awaitsWorker_of_isJoin {earlier later : Call}
    (follows : earlier.Follows later) (joins : earlier.isJoin = true) :
    later.awaitsWorker = true := by
  cases follows with
  | submit => cases joins
  | consume reached consumes =>
      rw [Call.isJoin_of_place? consumes] at joins
      cases joins
  | join => rfl

namespace Deployment

/-- Whoever has joined stands in line if he can act: at first, and when the worker
is gone. -/
def Heeded (deployment : Deployment) : Prop :=
  ∀ id job, deployment.job? id = some job → job.call.isJoin = true →
    (job.call.awaitsWorker = true → deployment.service.worker.isGone = true) →
      .caller id ∈ deployment.ready

section Heeded

variable {before after origin reached : Deployment}

theorem Works.heeded (works : Works before after) (heeded : before.Heeded) : after.Heeded := by
  intro id job known joins ripe
  have present : before.job? id = some job :=
    (congrArg (List.lookup id) works.jobs).symm.trans known
  by_cases settled : job.call.awaitsWorker = true → before.service.worker.isGone = true
  · exact works.waits (heeded id job present joins settled)
  · replace settled := Classical.not_imp.mp settled
    have going : before.service.worker.isGone = false := Bool.eq_false_iff.mpr settled.2
    apply works.tells going (ripe settled.1)
    exact List.mem_map.mpr ⟨(id, job),
      List.mem_filter.mpr ⟨mem_of_job? present, settled.1⟩, rfl⟩

/-- Those who have not had their turn are still in line when somebody leaves it. -/
theorem Unfolds.mem_stepBack (unfolds : Unfolds before after) {head actor : Actor}
    {rest : List Actor} (line : before.ready = head :: rest) (different : actor ≠ head)
    (stands : actor ∈ after.ready) : actor ∈ after.stepBack.ready := by
  rcases unfolds.line with ⟨woken, grown⟩
  rw [line] at grown
  rw [grown] at stands
  rw [stepBack, grown]
  apply (mem_tail_lineUpAll different).mpr
  rcases mem_lineUpAll.mp stands with already | awoken
  · exact Or.inl (List.mem_of_ne_of_mem different already)
  · exact Or.inr awoken

theorem Visits.heeded {id : Nat} {rest : List Actor} (visits : Visits before id after)
    (line : before.ready = .caller id :: rest) (heeded : before.Heeded) :
    after.stepBack.Heeded := by
  intro other job known joins ripe
  have sameWorker : after.stepBack.service.worker.isGone = before.service.worker.isGone :=
    congrArg Worker.isGone visits.worker
  rw [sameWorker] at ripe
  replace known : after.job? other = some job := known
  have others (different : other ≠ id) (present : before.job? other = some job) :
      .caller other ∈ after.stepBack.ready :=
    visits.toUnfolds.mem_stepBack line (fun same => different (Actor.caller.inj same))
      (visits.toUnfolds.waits (heeded other job present joins ripe))
  -- Whoever had the turn either has ended or waits for a worker that goes on.
  have waits {property : Prop} (awaits : job.call.awaitsWorker = true)
      (going : before.service.worker.isGone = false) : property := by
    rw [ripe awaits] at going
    cases going
  by_cases own : other = id
  · subst own
    cases visits.visit with
    | rests jobs _ patient =>
        have present := (congrArg (List.lookup other) jobs).symm.trans known
        rcases patient job present joins with ⟨awaits, going⟩
        exact waits awaits going
    | @stays call next found follows jobs _ patient =>
        have present := (congrArg (List.lookup other) jobs).symm.trans known
        rw [show List.lookup other _ = _ from job?_setJob found { call := next }] at present
        cases present
        have asked := follows.isJoin_eq.symm.trans joins
        exact waits (follows.awaitsWorker_of_isJoin asked) (patient asked)
    | @ends ended outcome _ _ jobs _ =>
        have present := (congrArg (List.lookup other) jobs).symm.trans known
        rw [show List.lookup other _ = _ from job?_finish_self outcome] at present
        cases present
  · apply others own
    cases visits.visit with
    | rests jobs _ _ => exact (congrArg (List.lookup other) jobs).symm.trans known
    | stays _ _ jobs _ _ =>
        exact (job?_setJob_of_ne own _).symm.trans
          ((congrArg (List.lookup other) jobs).symm.trans known)
    | ends _ _ jobs _ =>
        exact (job?_finish_of_ne own _).symm.trans
          ((congrArg (List.lookup other) jobs).symm.trans known)

theorem Passes.heeded (passes : Passes before after) (heeded : before.Heeded) :
    after.Heeded := by
  cases passes with
  | works works => exact works.heeded heeded
  | rests line works =>
      intro id job known joins ripe
      have there := works.heeded heeded id job known joins ripe
      apply works.toUnfolds.mem_stepBack line _ there
      intro impossible
      cases impossible
  | visits line visits => exact visits.heeded line heeded
  | begins id call _ =>
      intro other job known joins ripe
      rw [wake_eq] at known ripe ⊢
      apply mem_lineUp.mpr
      by_cases own : other = id
      · exact Or.inr (congrArg Actor.caller own)
      · refine Or.inl (heeded other job ?_ joins ripe)
        have single : List.lookup other [(id, ({ call } : Job))] = none := by
          rw [List.lookup_cons, beq_false_of_ne own]
          rfl
        unfold job? at known ⊢
        simp only [addJob, List.lookup_append, single, Option.or_none] at known
        exact known
  | @aborts id aborted present =>
      intro other job known joins ripe
      rw [wake_eq] at known ripe ⊢
      apply mem_lineUp.mpr
      by_cases own : other = id
      · exact Or.inr (congrArg Actor.caller own)
      · exact Or.inl (heeded other job ((job?_setJob_of_ne own _).symm.trans known) joins ripe)

theorem Untouched.heeded (untouched : origin.Untouched) (evolves : Evolves origin reached) :
    reached.Heeded := by
  induction evolves with
  | refl =>
      intro id job known
      unfold job? at known
      rw [untouched.jobs] at known
      cases known
  | tail earlier event inductionHypothesis =>
      exact ((untouched.regular.persists earlier).passes event).heeded inductionHypothesis

end Heeded

/-! ## Whoever joins -/

/-- A call that has joined is still under way, or has been aborted, or the service
has ended. -/
def Joined (id : Nat) (deployment : Deployment) : Prop :=
  (∃ job, deployment.job? id = some job ∧ job.call.isJoin = true) ∨
    (id, .aborted) ∈ deployment.outcomes ∨ deployment.service.state.isTerminal = true

section Joined

variable {before after middle reached : Deployment} {id : Nat}

theorem Joined.passes (joined : Joined id before) (regular : before.Regular)
    (event : Event before after) : Joined id after := by
  have passes := regular.passes event
  rcases joined with ⟨job, known, joins⟩ | aborted | ended
  · rcases passes.follows known with ⟨later, present, same⟩ | ⟨_, outcome, concludes, outcomes⟩
    · exact Or.inl ⟨later, present, same.trans joins⟩
    · cases concludes with
      | apart single =>
          rw [joins] at single
          cases single
      | aborted =>
          refine Or.inr (Or.inl ?_)
          rw [outcomes]
          exact List.mem_append_right _ List.mem_cons_self
      | told _ _ ended => exact Or.inr (Or.inr ended)
  · exact Or.inr (Or.inl (passes.outcomes aborted))
  · have rest := regular.atRest (.single event) ended
    refine Or.inr (Or.inr ?_)
    rw [rest.state]
    exact ended

theorem Joined.evolves (joined : Joined id middle) (regular : middle.Regular)
    (evolves : Evolves middle reached) : Joined id reached := by
  induction evolves with
  | refl => exact joined
  | tail earlier event inductionHypothesis =>
      exact inductionHypothesis.passes (regular.persists earlier) event

end Joined

/-- Once the worker is gone and nobody can act, the service has ended, unless its
queue tore the worker down by a panic and nobody has learned of it.  Nobody who
has joined is still waiting; if anybody has joined and was not aborted, the
service has ended. -/
theorem ended_or_torn_down {origin reached : Deployment} (untouched : origin.Untouched)
    (evolves : Evolves origin reached) (settled : reached.Settled)
    (gone : reached.service.worker.isGone = true) :
    (reached.service.state.isTerminal = true ∨
      ((∃ text, reached.service.worker = .aborted text) ∧
        (reached.service.state = .running ∨ reached.service.state = .stopping))) ∧
    (∀ id job, reached.job? id = some job → job.call.isJoin = false) ∧
    ∀ middle id job, Evolves origin middle → Evolves middle reached →
      middle.job? id = some job → job.call.isJoin = true →
        (id, .aborted) ∈ reached.outcomes ∨ reached.service.state.isTerminal = true := by
  have regular := untouched.regular.persists evolves
  have nobody (id : Nat) (job : Job) (known : reached.job? id = some job) :
      job.call.isJoin = false := by
    cases joins : job.call.isJoin with
    | false => rfl
    | true =>
        have stands := untouched.heeded evolves id job known joins fun _ => gone
        rw [show reached.ready = [] from settled] at stands
        cases stands
  refine ⟨?_, nobody, ?_⟩
  · cases here : reached.service.worker with
    | done count =>
        have standing := regular.lawful.at_worker here
        exact Or.inl (by rw [standing.1]; rfl)
    | failed error =>
        have standing := regular.lawful.at_worker here
        exact Or.inl (by rw [standing.1]; rfl)
    | aborted text =>
        have standing := regular.lawful.at_worker here
        rcases standing with (⟨running, _⟩ | ⟨stopping, _⟩) | failed
        · exact Or.inr ⟨⟨text, rfl⟩, Or.inl running⟩
        · exact Or.inr ⟨⟨text, rfl⟩, Or.inr stopping⟩
        · exact Or.inl (by rw [show reached.service.state = _ from failed]; rfl)
    | _ =>
        rw [here] at gone
        cases gone
  · intro middle id job there later known joins
    have joined := Joined.evolves (Or.inl ⟨job, known, joins⟩)
      (untouched.regular.persists there) later
    rcases joined with ⟨waiting, present, still⟩ | ended
    · rw [nobody id waiting present] at still
      cases still
    · exact ended

/-- A service whose queue panics, and whose handle is kept. -/
def withoutJoining : List (Option Step) := [some .start, some .awaitTerminated]

/-- The worker is gone, and the service goes on running. -/
theorem ended_or_torn_down_withoutJoining :
    ((panicky.run 0 withoutJoining).2.Settled ∧
        (panicky.run 0 withoutJoining).2.service.worker.isGone = true) ∧
      ((panicky.run 0 withoutJoining).2.service.state.isTerminal = true ∨
        ((∃ text, (panicky.run 0 withoutJoining).2.service.worker = .aborted text) ∧
          ((panicky.run 0 withoutJoining).2.service.state = .running ∨
            (panicky.run 0 withoutJoining).2.service.state = .stopping))) := by
  have settled : (panicky.run 0 withoutJoining).2.Settled := by decide +kernel
  have gone : (panicky.run 0 withoutJoining).2.service.worker.isGone = true := by decide +kernel
  exact ⟨⟨settled, gone⟩, (ended_or_torn_down untouched_panicky
    (evolves_run untouched_panicky.regular 0 withoutJoining) settled gone).1⟩

/-- A worker that is gone does not always leave an ended service behind: whoever
waits for the end of this one is still waiting. -/
theorem running_without_worker :
    (panicky.run 0 withoutJoining).2.Settled ∧
      (panicky.run 0 withoutJoining).2.service.worker.isGone = true ∧
      (panicky.run 0 withoutJoining).2.service.state.isTerminal = false ∧
      (panicky.run 0 withoutJoining).2.pending = [1] := by
  decide +kernel

end Deployment
end FailureDispatch

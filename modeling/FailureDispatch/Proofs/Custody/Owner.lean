import FailureDispatch.Proofs.Custody.Orphan
import FailureDispatch.Proofs.Life.Assembly
import FailureDispatch.Proofs.Life.Proclamation

/-!
# The one who can stop the service

There is one handle.  Whoever holds the service is alone in owning it, and of the
calls under way at most one does.  So nobody learns that the worker was torn down,
and lets the service fail, while somebody else could still stop it.

It follows that every service that has been told to stop was told so while it could
be stopped.  The first request is therefore the one that leaves its marks, and there
is none without them.
-/

namespace FailureDispatch
namespace Deployment

/-! ## Who can fail -/

/-- A worker that nobody has told to stop does not let its service fail. -/
theorem state_advanceWorker_of_untold {before : Deployment} (lawful : before.service.Lawful)
    (untold : before.service.stopRequested = false)
    (failed : before.advanceWorker.2.service.state = .failed) :
    before.service.state = .failed := by
  unfold advanceWorker at failed
  -- The worker cannot be in the drain.
  have drains {worker : Worker} (here : before.service.worker = worker)
      (standing : Service.Lawful { before.service with worker } →
        before.service.stopRequested = true) : False := by
    have told := standing (lawful.at_worker here)
    rw [untold] at told
    cases told
  cases here : before.service.worker with
  | idle | done _ | failed _ | aborted _ =>
      rw [here] at failed
      exact failed
  | fresh =>
      rw [here] at failed
      dsimp only [startUp] at failed
      generalize announcing : before.log (.startingUp before.service.handlers.length
        before.service.fallback.name) = announced at failed
      have same : announced.service = before.service := by
        rw [← announcing]
        rfl
      cases can : announced.service.state.canBecome .running with
      | true =>
          rw [enter_of_canBecome can] at failed
          cases failed
      | false =>
          rw [enter_of_cannot can] at failed
          exact (congrArg Service.state same).symm.trans failed
  | looping =>
      rw [here] at failed
      dsimp only at failed
      split at failed
      · exact (quiet_beginFetch before).state.symm.trans failed
      · exact failed
  | fetching fetch =>
      rw [here] at failed
      exact (quiet_advanceFetch before fetch).state.symm.trans failed
  | parked =>
      rw [here] at failed
      dsimp only at failed
      split at failed <;> exact failed
  | dispatching phase dispatch =>
      rw [here] at failed
      exact (quiet_advanceDispatch before here).state.symm.trans failed
  | draining count => exact (drains here fun standing => standing.2).elim
  | drainFetching count deadline fetch => exact (drains here fun standing => standing.2).elim

/-- A service whose worker goes on has not failed. -/
theorem isGone_of_failed {service : Service} (lawful : service.Lawful)
    (failed : service.state = .failed) : service.worker.isGone = true := by
  rcases lawful.stop_and_end.2.2.2 failed with ⟨error, here⟩ | ⟨text, here⟩ <;>
    (rw [here]; rfl)

/-- Whoever offers a batch concerns only the queue. -/
theorem around_submitNow (before : Deployment) (door : Door) (draft : Draft) :
    (before.submitNow door draft).2.service = before.service ∧
      (before.submitNow door draft).2.holder = before.holder := by
  rcases submitNow_cases before door draft with
    same | ⟨queue, woken, next, batch, entry, _, _, same⟩ <;> rw [same]
  · exact ⟨rfl, rfl⟩
  · rw [adopt_eq]
    exact ⟨rfl, rfl⟩

/-- What an act comes to for whoever can stop the service. -/
theorem Act.leads {before after : Deployment} (act : Act before after) :
    (after.service = before.service ∧ (after.holder ≠ .nobody → before.holder ≠ .nobody)) ∨
      (before.holder ≠ .nobody ∧ after.service.stopRequested = true) ∨
        (before.service.state = .new ∧ after.service.state = .starting) := by
  have around {later : Deployment} (service : later.service = before.service)
      (holder : later.holder = before.holder) :
      later.service = before.service ∧ (later.holder ≠ .nobody → before.holder ≠ .nobody) :=
    ⟨service, fun held => holder ▸ held⟩
  cases act with
  | clock time actors _ =>
      rw [wakeAll_eq]
      exact Or.inl (around rfl rfl)
  | release gate count =>
      rw [wakeAll_eq]
      exact Or.inl (around rfl rfl)
  | cancel token =>
      rw [wakeAll_eq]
      exact Or.inl (around rfl rfl)
  | submitNow door draft =>
      rcases around_submitNow before door draft with ⟨service, holder⟩
      exact Or.inl (around service holder)
  | close buffered =>
      rw [adopt_eq]
      exact Or.inl (around rfl rfl)
  | logStats tag =>
      rw [logStats_eq]
      exact Or.inl (around rfl rfl)
  | start =>
      cases can : before.service.state.canBecome .starting with
      | true =>
          have new : before.service.state = .new := by
            cases state : before.service.state <;> first | rfl | (rw [state] at can; cases can)
          refine Or.inr (Or.inr ⟨new, ?_⟩)
          simp only [Deployment.start, enter_of_canBecome can, setWorker, wake_eq]
      | false =>
          have same : before.start.2 = before := by
            simp only [Deployment.start, enter_of_cannot can]
          rw [same]
          exact Or.inl (around rfl rfl)
  | stop held => exact Or.inr (Or.inl ⟨held, told_requestStop before⟩)
  | drop =>
      unfold dropHolder
      cases holder : before.holder with
      | nobody => exact Or.inl ⟨rfl, fun held => absurd holder held⟩
      | handle | runtime =>
          refine Or.inr (Or.inl ⟨?_, told_requestStop _⟩)
          intro impossible
          cases impossible
  | handOver holder held => exact Or.inl ⟨rfl, fun _ => held⟩
  | announce settings held =>
      refine Or.inl ⟨?_, fun _ => held⟩
      unfold Deployment.announce
      dsimp only
      split <;> rfl
  | watch watches => exact Or.inl (around rfl rfl)

/-! ## One owner -/

/-- Beyond what there was before, the first request to stop has left its marks, and nothing
else has. -/
def Marked (past : Journal) (deployment : Deployment) : Prop :=
  deployment.journal.stopMarks =
    past ++ if deployment.service.stopRequested then Journal.firstStop else []

/-- The calls under way leave the service alone, and it has not failed behind the back of
whoever could stop it. -/
structure Uncontested (past : Journal) (deployment : Deployment) : Prop where
  nobody : ∀ entry ∈ deployment.jobs, entry.2.call.isJoin = false
  failed : deployment.service.state = .failed → deployment.service.stopRequested = true
  marked : Marked past deployment

/-- Whoever owns the handle is the only one, and the service has not failed behind his
back.  So the first request to stop finds a service that can be stopped. -/
structure Owned (past : Journal) (deployment : Deployment) : Prop where
  held : deployment.holder ≠ .nobody →
    ∀ entry ∈ deployment.jobs, entry.2.call.isJoin = false
  single : ∀ entry ∈ deployment.jobs, ∀ other ∈ deployment.jobs,
    entry.2.call.isJoin = true → other.2.call.isJoin = true → entry.1 = other.1
  failed : ¬ deployment.Lost → deployment.service.state = .failed →
    deployment.service.stopRequested = true
  marked : Marked past deployment

/-- Nobody joins a service that has not been started, and nobody holds it. -/
theorem lost_of_new {deployment : Deployment} (regular : deployment.Regular)
    (new : deployment.service.state = .new) : deployment.Lost where
  nobody := by
    cases holder : deployment.holder with
    | nobody => rfl
    | _ => exact absurd new (regular.held (by rw [holder]; exact nofun))
  unowned := by
    intro entry member
    cases joins : entry.2.call.isJoin with
    | false => rfl
    | true => exact absurd new (regular.joins entry member joins)

/-- Whoever owns a service that has not been told to stop can stop it. -/
theorem Owned.stoppable {past : Journal} {deployment : Deployment} (owned : Owned past deployment)
    (regular : deployment.Regular) (owner : ¬ deployment.Lost)
    (untold : deployment.service.stopRequested = false) :
    deployment.service.state.canBecome .stopping = true := by
  have started : deployment.service.state ≠ .new := fun new => owner (lost_of_new regular new)
  have told {property : Prop} (told : deployment.service.stopRequested = true) : property := by
    rw [untold] at told
    cases told
  rcases regular.lawful.stop_and_end with ⟨_, stopping, terminated, _⟩
  cases state : deployment.service.state with
  | new => exact absurd state started
  | starting | running => rfl
  | stopping => exact told (stopping state)
  | terminated =>
      rcases terminated state with ⟨count, here⟩
      exact told (regular.lawful.at_worker here).2
  | failed => exact told (owned.failed owner state)

section Marks

variable {past : Journal} {before after : Deployment}

/-- No stop has been requested. -/
theorem Marked.same (marked : Marked past before)
    (told : after.service.stopRequested = before.service.stopRequested)
    (marks : after.journal.stopMarks = before.journal.stopMarks) : Marked past after := by
  unfold Marked
  rw [told, marks]
  exact marked

theorem Quiet.marked (quiet : Quiet before after) (marked : Marked past before) : Marked past after :=
  marked.same quiet.told quiet.marks

/-- The worker is told to stop only by whoever owns the service. -/
theorem Owned.marks (owned : Owned past before) (regular : before.Regular)
    (proclaims : Proclaims before after)
    (owner : after.service.stopRequested = before.service.stopRequested ∨ ¬ before.Lost) :
    Marked past after := by
  have marked := owned.marked
  rcases proclaims.stops with ⟨told, marks⟩ | ⟨told, marks⟩
  · exact marked.same told marks
  · unfold Marked at marked ⊢
    rw [told, marks, marked]
    cases already : before.service.stopRequested with
    | true =>
        -- Whoever has been told cannot be stopped again.
        cases can : before.service.state.canBecome .stopping with
        | true =>
            rw [regular.lawful.untold_of_stoppable can] at already
            cases already
        | false => exact List.append_nil _
    | false =>
        have kept : ¬ before.Lost := owner.resolve_left (by rw [told, already]; exact nofun)
        rw [owned.stoppable regular kept already]
        exact congrArg (· ++ Journal.firstStop) (List.append_nil past)

end Marks

section Turns

variable {past : Journal} {before after : Deployment} {id : Nat}

theorem Uncontested.owned (uncontested : Uncontested past before) : Owned past before where
  held := fun _ => uncontested.nobody
  single := by
    intro entry member _ _ joins
    rw [uncontested.nobody entry member] at joins
    cases joins
  failed := fun _ => uncontested.failed
  marked := uncontested.marked

/-- Only the calls, the service and the journal decide. -/
theorem Uncontested.around (uncontested : Uncontested past before) (jobs : after.jobs = before.jobs)
    (service : after.service = before.service) (journal : after.journal = before.journal) :
    Uncontested past after :=
  ⟨jobs ▸ uncontested.nobody, service ▸ uncontested.failed,
    uncontested.marked.same (congrArg Service.stopRequested service)
      (congrArg Journal.stopMarks journal)⟩

/-- Beyond what happens to the calls that do not join nothing has happened. -/
theorem Owned.keeps (owned : Owned past before) (old : NoNewJoin before after)
    (holder : after.holder = before.holder) (service : after.service = before.service)
    (journal : after.journal = before.journal) : Owned past after := by
  refine ⟨?_, old.single owned.single, ?_, owned.marked.same
    (congrArg Service.stopRequested service) (congrArg Journal.stopMarks journal)⟩
  · intro held
    rw [holder] at held
    exact old.nobody (owned.held held)
  · intro kept
    rw [service]
    apply owned.failed
    intro lost
    exact kept ⟨holder.trans lost.nobody, old.nobody lost.unowned⟩

theorem Owned.around (owned : Owned past before) (holder : after.holder = before.holder)
    (jobs : after.jobs = before.jobs) (service : after.service = before.service)
    (journal : after.journal = before.journal) : Owned past after :=
  owned.keeps (.of_jobs jobs) holder service journal

theorem failed_advanceWorker (regular : before.Regular)
    (calm : before.service.state = .failed → before.service.stopRequested = true)
    (failed : before.advanceWorker.2.service.state = .failed) :
    before.advanceWorker.2.service.stopRequested = true := by
  rw [told_of_custody before.custody_advanceWorker]
  cases told : before.service.stopRequested with
  | true => rfl
  | false =>
      have already := calm (state_advanceWorker_of_untold regular.lawful told failed)
      rw [told] at already
      exact already

theorem Uncontested.tick (uncontested : Uncontested past before) (regular : before.Regular) :
    Uncontested past before.tick := by
  have heralds := heralds_advanceWorker before
  apply tick_keeps (Uncontested past)
  · exact fun _ _ kept => kept.around rfl rfl rfl
  · refine ⟨?_, failed_advanceWorker regular uncontested.failed,
      uncontested.marked.same heralds.told heralds.marks⟩
    rw [(works_advanceWorker regular.lawful).jobs]
    exact uncontested.nobody
  · intro id
    have quiet : Quiet before (before.advanceCaller id) := by
      cases known : before.job? id with
      | none =>
          unfold advanceCaller
          rw [known]
          exact .refl before
      | some job =>
          exact quiet_advanceCaller before id known (uncontested.nobody _ (mem_of_job? known))
    refine ⟨(NoNewJoin.advanceCaller regular id).nobody uncontested.nobody, ?_,
      quiet.marked uncontested.marked⟩
    rw [quiet.state, quiet.told]
    exact uncontested.failed
  · exact uncontested

/-- Whoever goes on waiting for the worker has not learned that it is gone. -/
theorem going_of_joins (regular : before.Regular) (owned : Owned past before) {job : Job}
    (known : before.job? id = some job) (joined : job.call.isJoin = true) {entry : Nat × Job}
    (member : entry ∈ (before.advanceCaller id).jobs) (joins : entry.2.call.isJoin = true) :
    before.service.worker.isGone = false := by
  have visits : Visits before id (before.advanceCaller id) :=
    visits_advanceCaller regular.lawful regular.joins
  cases visits.visit with
  | rests _ _ patient => exact (patient job known joined).2
  | stays found _ _ _ patient =>
      rw [known] at found
      cases found
      exact patient joined
  | ends found _ jobs _ =>
      rw [jobs] at member
      rcases mem_finish.mp member with ⟨old, different⟩
      exact absurd (owned.single entry old _ (mem_of_job? known) joins joined) different

/-- The owner is alone, so the handle that a joining call has is in nobody else's hands. -/
theorem nobody_of_joins (owned : Owned past before) {job : Job}
    (known : before.job? id = some job) (joined : job.call.isJoin = true) :
    before.holder = .nobody := by
  cases holds : before.holder with
  | nobody => rfl
  | _ =>
      have apart := owned.held (by rw [holds]; exact nofun) _ (mem_of_job? known)
      rw [joined] at apart
      cases apart

/-- Whoever learns that the worker is gone and lets the service fail is the owner, and lets
go of it. -/
theorem lost_of_failed (owned : Owned past before) (regular : before.Regular) {job : Job}
    (known : before.job? id = some job) (joined : job.call.isJoin = true)
    (failed : (before.advanceCaller id).service.state = .failed) :
    (before.advanceCaller id).Lost := by
  have visits : Visits before id (before.advanceCaller id) :=
    visits_advanceCaller regular.lawful regular.joins
  rcases visits.deeds with ⟨_, deeds, _⟩
  have gone := isGone_of_failed (deeds.lawful regular.lawful) failed
  rw [visits.worker] at gone
  refine ⟨(holder_advanceCaller before id).trans (nobody_of_joins owned known joined), ?_⟩
  intro entry member
  cases joins : entry.2.call.isJoin with
  | false => rfl
  | true =>
      rw [going_of_joins regular owned known joined member joins] at gone
      cases gone

theorem Owned.advanceCaller (owned : Owned past before) (regular : before.Regular) :
    Owned past (before.advanceCaller id) := by
  have old := NoNewJoin.advanceCaller regular id
  have holder := holder_advanceCaller before id
  refine ⟨?_, old.single owned.single, ?_, ?_⟩
  · intro held
    rw [holder] at held
    exact old.nobody (owned.held held)
  · intro kept failed
    -- Whatever owns the service now owned it before.
    have owner : ¬ before.Lost := fun lost =>
      kept ⟨holder.trans lost.nobody, old.nobody lost.unowned⟩
    cases known : before.job? id with
    | none =>
        unfold Deployment.advanceCaller at failed ⊢
        rw [known] at failed ⊢
        exact owned.failed owner failed
    | some job =>
        cases joined : job.call.isJoin with
        | false =>
            have quiet := quiet_advanceCaller before id known joined
            rw [quiet.told]
            exact owned.failed owner (quiet.state.symm.trans failed)
        | true => exact absurd (lost_of_failed owned regular known joined failed) kept
  · apply owned.marks regular (proclaims_advanceCaller before id)
    rcases before.custody_advanceCaller id with same | ⟨_, job, known, joins⟩
    · exact Or.inl (told_of_custody same)
    · refine Or.inr fun lost => ?_
      rw [lost.unowned _ (mem_of_job? known)] at joins
      cases joins

theorem Owned.tick (owned : Owned past before) (regular : before.Regular) : Owned past before.tick := by
  have heralds := heralds_advanceWorker before
  apply tick_keeps (Owned past)
  · exact fun _ _ kept => kept.around rfl rfl rfl rfl
  · have jobs := (works_advanceWorker regular.lawful).jobs
    have holder := holder_of_custody before.custody_advanceWorker
    refine ⟨?_, jobs ▸ owned.single, ?_, owned.marked.same heralds.told heralds.marks⟩
    · rw [holder, jobs]
      exact owned.held
    · intro kept
      apply failed_advanceWorker regular
      apply owned.failed
      intro lost
      exact kept ⟨holder.trans lost.nobody, jobs ▸ lost.unowned⟩
  · exact fun _ => owned.advanceCaller regular
  · exact owned

end Turns

/-! ## Runs -/

namespace Owned

variable {past : Journal} {bound id : Nat} {before after : Deployment}

theorem settle (tidy : Tidy bound before) (owned : Owned past before) : Owned past before.settle :=
  tidy.keeps_settle (fun _ regular kept => kept.tick regular) owned

theorem passTime (tidy : Tidy bound before) (owned : Owned past before) (remaining : Nat) :
    Owned past (Deployment.passTime remaining before) :=
  tidy.keeps_passTime (fun _ regular kept => kept.tick regular)
    (fun _ _ _ kept => kept.around rfl rfl rfl rfl) owned remaining

theorem act (regular : before.Regular) (owned : Owned past before) (act : Act before after) :
    Owned past after := by
  have jobs := (regular.works_of_act act).jobs
  have marked (owner : after.service.stopRequested = before.service.stopRequested ∨
      ¬ before.Lost) : Marked past after := by
    rcases act.proclaims with proclaims | ⟨watches, same⟩
    · exact owned.marks regular proclaims owner
    · rw [same]
      exact owned.marked
  rcases act.leads with ⟨service, holder⟩ | ⟨held, told⟩ | ⟨new, starting⟩
  · refine ⟨?_, jobs ▸ owned.single, ?_, marked (Or.inl (congrArg _ service))⟩
    · rw [jobs]
      exact fun held => owned.held (holder held)
    · intro kept
      rw [service]
      apply owned.failed
      intro lost
      refine kept ⟨?_, jobs ▸ lost.unowned⟩
      cases holds : after.holder with
      | nobody => rfl
      | _ => exact absurd lost.nobody (holder (by rw [holds]; exact nofun))
  · refine ⟨?_, jobs ▸ owned.single, fun _ _ => told,
      marked (Or.inr fun lost => held lost.nobody)⟩
    rw [jobs]
    exact fun _ => owned.held held
  · have apart := (lost_of_new regular new).unowned
    refine ⟨fun _ => jobs ▸ apart, jobs ▸ owned.single, ?_, marked (Or.inl ?_)⟩
    · intro _ failed
      rw [starting] at failed
      cases failed
    · rw [(regular.lawful.of_new new).2]
      have there := (regular.passes (.act act)).regular regular
      cases told : after.service.stopRequested with
      | false => rfl
      | true =>
          rcases there.lawful.stop_and_end.1 told with state | state | state <;>
            (rw [starting] at state; cases state)

theorem abort (owned : Owned past before) {other : Nat} {job : Job}
    (known : before.job? other = some job) :
    Owned past ((before.setJob other { job with doomed := true }).wake (.caller other)) := by
  have old := NoNewJoin.abort known
  rw [wake_eq] at old ⊢
  exact owned.keeps old rfl rfl rfl

/-- A call begins that does not join. -/
theorem begins (owned : Owned past before) (id : Nat) {call : Call} (single : call.isJoin = false) :
    Owned past ((before.addJob id call).wake (.caller id)) := by
  have old := NoNewJoin.begins before id single
  rw [wake_eq] at old ⊢
  exact owned.keeps old rfl rfl rfl

/-- The handle is given to a call. -/
theorem given (uncontested : Uncontested past before) (nobody : before.holder = .nobody) (id : Nat)
    (call : Call) : Owned past ((before.addJob id call).wake (.caller id)) := by
  rw [wake_eq]
  have joins {entry : Nat × Job} (member : entry ∈ (before.addJob id call).jobs)
      (joined : entry.2.call.isJoin = true) : entry.1 = id := by
    rcases List.mem_append.mp member with old | new
    · rw [uncontested.nobody entry old] at joined
      cases joined
    · rw [List.mem_singleton.mp new]
  refine ⟨fun held => absurd nobody held, ?_, fun _ => uncontested.failed, uncontested.marked⟩
  intro entry member other present joined alike
  exact (joins member joined).trans (joins present alike).symm

/-- Whoever holds the service lets go of it. -/
theorem uncontested (owned : Owned past before) (held : before.holder ≠ .nobody) :
    Uncontested past before :=
  ⟨owned.held held, owned.failed fun lost => held lost.nobody, owned.marked⟩

theorem taken (tidy : Tidy id before) (owned : Owned past before) {step : Step}
    (taken : Taken before id step after) : Owned past after := by
  cases taken with
  | acts atOnce _ => exact owned.act tidy.regular atOnce.act
  | settles => exact owned.settle tidy
  | advances duration => exact (owned.settle tidy).passTime tidy.settle duration
  | aborts _ known => exact (owned.abort known).settle (tidy.abort known)
  | begins _ _ _ single =>
      refine Owned.settle (tidy.begins ?_) ((owned.settle tidy).begins id single)
      intro joins
      rw [single] at joins
      cases joins
  | joins given _ =>
      have held := Holder.ne_nobody given
      have handed := tidy.hand held
      have begins : Uncontested past { before with holder := .nobody } :=
        (owned.uncontested held).around rfl rfl rfl
      have settled : Uncontested past ({ before with holder := .nobody } : Deployment).settle :=
        handed.keeps_settle (fun _ regular kept => kept.tick regular) begins
      exact (Owned.given settled (holder_settle _) id _).settle
        (handed.begins fun _ => tidy.regular.held held)

theorem run (tidy : Tidy id before) (owned : Owned past before) (steps : List (Option Step)) :
    Owned past (before.run id steps).2 := by
  induction steps generalizing id before with
  | nil => exact owned
  | cons step rest inductionHypothesis =>
      cases step with
      | none => exact inductionHypothesis (tidy.mono (Nat.le_succ id)) owned
      | some step =>
          have taken : Taken before id step (before.take id step).2 := take_taken id step
          exact inductionHypothesis (tidy.taken taken) (owned.taken tidy taken)

end Owned

/-! ## Beginnings -/

/-- A service without calls that has not failed or been told to stop has an owner at
most. -/
theorem owned_of_new {origin : Deployment} (jobs : origin.jobs = [])
    (going : origin.service.state ≠ .failed) (untold : origin.service.stopRequested = false) :
    Owned origin.journal.stopMarks origin := by
  apply Uncontested.owned
  refine ⟨?_, fun failed => absurd failed going, ?_⟩
  · rw [jobs]
    exact nofun
  · unfold Marked
    rw [untold]
    exact (List.append_nil _).symm

theorem Delivered.owned {origin : Deployment} (delivered : origin.Delivered) :
    Owned origin.journal.stopMarks origin := by
  cases delivered with
  | untouched untouched =>
      apply owned_of_new untouched.jobs _ untouched.untold
      rw [untouched.state]
      exact nofun
  | @assembled settings registry acknowledger origin made =>
      rcases eq_of_assemble made with ⟨_, same⟩
      rw [settle_start_prepared] at same
      subst same
      exact owned_of_new rfl nofun rfl

end Deployment
end FailureDispatch

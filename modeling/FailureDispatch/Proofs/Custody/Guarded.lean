import FailureDispatch.Proofs.Course.Evolution
import FailureDispatch.Proofs.Custody.Holder

/-!
# Who will stop the service

A service that has been started is guarded as long as somebody holds it or a call
that owns the handle is under way.  Such a call guards it in two ways.  Before its
first turn it stops the service when it is torn down, because the handle is still
whole.  After its first turn it waits for the end of the worker; torn down then, it
takes the handle with it and stops nothing.

`Guarded.taken` follows this through a step.  The one step that can leave a service
unguarded is the abort of a call that waits for a worker which nobody has told to
stop.
-/

namespace FailureDispatch

/-- The call owns the handle, and does not lose it: torn down, it would stop the service. -/
structure Job.Guards (job : Job) : Prop where
  joins : job.call.isJoin = true
  whole : job.doomed = true → job.call.awaitsWorker = false

/-- A call that joins and does not wait yet has not acted. -/
theorem Call.eq_join {call : Call} (joins : call.isJoin = true)
    (whole : call.awaitsWorker = false) : ∃ door stopFirst, call = .join door stopFirst := by
  cases call with
  | join door stopFirst => exact ⟨door, stopFirst, rfl⟩
  | joining door => cases whole
  | _ => cases joins

theorem Worker.isGone_of_verdict? {worker : Worker} {result : Except FailureError Nat}
    (verdict : worker.verdict? = some result) : worker.isGone = true := by
  cases worker with
  | done _ | failed _ | aborted _ => rfl
  | _ => cases verdict

namespace Deployment

section Jobs

variable {before : Deployment} {id other : Nat} {call : Call}

/-- A call that begins stands behind those that are under way. -/
theorem job?_addJob (before : Deployment) (id : Nat) (call : Call) (other : Nat) :
    (before.addJob id call).job? other =
      (before.job? other).or ([(id, { call })].lookup other) :=
  List.lookup_append

theorem job?_addJob_of_some {job : Job} (known : before.job? other = some job) :
    (before.addJob id call).job? other = some job := by
  rw [job?_addJob, known, Option.some_or]

theorem job?_of_fresh (fresh : ∀ entry ∈ before.jobs, entry.1 ≠ id) : before.job? id = none := by
  cases known : before.job? id with
  | none => rfl
  | some job => exact absurd rfl (fresh (id, job) (mem_of_job? known))

theorem job?_addJob_self (fresh : before.job? id = none) (call : Call) :
    (before.addJob id call).job? id = some { call } := by
  rw [job?_addJob, fresh, Option.none_or, List.lookup_cons_self]

/-- The turn of a caller leaves the calls of others as they are. -/
theorem Visit.job?_of_ne {after : Deployment} (visit : Visit before id after)
    (different : other ≠ id) : after.job? other = before.job? other := by
  cases visit with
  | rests jobs _ _ => exact congrArg (List.lookup other) jobs
  | stays _ _ jobs _ _ =>
      exact (congrArg (List.lookup other) jobs).trans (job?_setJob_of_ne different _)
  | ends _ _ jobs _ =>
      exact (congrArg (List.lookup other) jobs).trans (job?_finish_of_ne different _)

theorem job?_advanceCaller_of_ne (regular : before.Regular) (different : other ≠ id) :
    (before.advanceCaller id).job? other = before.job? other :=
  (visits_advanceCaller regular.lawful regular.joins).visit.job?_of_ne different

end Jobs

/-! ## Runs over any queue -/

/-- What every step of a run keeps, whatever the queue is: the numbers of the calls under
way are below that of the step to come. -/
structure Tidy (bound : Nat) (deployment : Deployment) : Prop where
  regular : deployment.Regular
  below : ∀ entry ∈ deployment.jobs, entry.1 < bound

namespace Tidy

variable {bound id : Nat} {before after : Deployment}

theorem job?_eq_none (tidy : Tidy id before) : before.job? id = none := by
  apply List.lookup_eq_none_iff.mpr
  intro entry member
  exact bne_iff_ne.mpr (Ne.symm (Nat.ne_of_lt (tidy.below entry member)))

theorem lt_of_job? (tidy : Tidy bound before) {number : Nat} {job : Job}
    (known : before.job? number = some job) : number < bound :=
  tidy.below _ (mem_of_job? known)

theorem mono (tidy : Tidy bound before) {higher : Nat} (le : bound ≤ higher) :
    Tidy higher before :=
  ⟨tidy.regular, fun entry member => Nat.lt_of_lt_of_le (tidy.below entry member) le⟩

/-- Turns give no call a number that none has had. -/
theorem tick (tidy : Tidy bound before) : Tidy bound before.tick := by
  have regular := tidy.regular
  refine ⟨regular.passes_tick.regular regular, ?_⟩
  apply tick_keeps fun later => ∀ entry ∈ later.jobs, entry.1 < bound
  · exact fun _ _ below => below
  · rw [(works_advanceWorker regular.lawful).jobs]
    exact tidy.below
  · intro id entry member
    cases (visits_advanceCaller regular.lawful regular.joins).visit with
    | rests jobs _ _ =>
        rw [jobs] at member
        exact tidy.below entry member
    | stays known _ jobs _ _ =>
        rw [jobs] at member
        rcases mem_setJob member with ⟨old, _⟩ | new
        · exact tidy.below entry old
        · rw [new]
          exact tidy.lt_of_job? known
    | ends _ _ jobs _ =>
        rw [jobs] at member
        exact tidy.below entry (mem_finish.mp member).1
  · exact tidy.below

theorem settle (tidy : Tidy bound before) : Tidy bound before.settle :=
  settle_keeps (fun _ kept => kept.tick) tidy

theorem around (tidy : Tidy bound before) (now : Nat) (ready : List Actor) :
    Tidy bound { before with now, ready } :=
  ⟨⟨tidy.regular.lawful, tidy.regular.held, tidy.regular.joins⟩, tidy.below⟩

theorem passTime (tidy : Tidy bound before) (remaining : Nat) :
    Tidy bound (Deployment.passTime remaining before) :=
  passTime_keeps (fun _ kept => kept.tick) (fun _ now ready kept => kept.around now ready) tidy
    remaining

/-- What every turn of a regular deployment keeps is kept by settling. -/
theorem keeps_settle {property : Deployment → Prop} (tidy : Tidy bound before)
    (ticks : ∀ deployment, deployment.Regular → property deployment → property deployment.tick)
    (holds : property before) : property before.settle := by
  have keeps (deployment : Deployment) (kept : Tidy bound deployment ∧ property deployment) :
      Tidy bound deployment.tick ∧ property deployment.tick :=
    ⟨kept.1.tick, ticks deployment kept.1.regular kept.2⟩
  exact (settle_keeps keeps ⟨tidy, holds⟩).2

theorem keeps_passTime {property : Deployment → Prop} (tidy : Tidy bound before)
    (ticks : ∀ deployment, deployment.Regular → property deployment → property deployment.tick)
    (around : ∀ deployment now ready, property deployment →
      property { deployment with now, ready })
    (holds : property before) (remaining : Nat) :
    property (Deployment.passTime remaining before) := by
  have keeps (deployment : Deployment) (kept : Tidy bound deployment ∧ property deployment) :
      Tidy bound deployment.tick ∧ property deployment.tick :=
    ⟨kept.1.tick, ticks deployment kept.1.regular kept.2⟩
  have moves (deployment : Deployment) (now : Nat) (ready : List Actor)
      (kept : Tidy bound deployment ∧ property deployment) :
      Tidy bound { deployment with now, ready } ∧ property { deployment with now, ready } :=
    ⟨kept.1.around now ready, around deployment now ready kept.2⟩
  exact (passTime_keeps keeps moves ⟨tidy, holds⟩ remaining).2

theorem act (tidy : Tidy bound before) (act : Act before after) : Tidy bound after := by
  have regular := tidy.regular
  refine ⟨(regular.passes (.act act)).regular regular, ?_⟩
  rw [(regular.works_of_act act).jobs]
  exact tidy.below

theorem abort (tidy : Tidy bound before) {other : Nat} {job : Job}
    (known : before.job? other = some job) :
    Tidy bound ((before.setJob other { job with doomed := true }).wake (.caller other)) := by
  refine ⟨(Passes.aborts known).regular tidy.regular, ?_⟩
  rw [wake_eq]
  intro entry member
  rcases mem_setJob member with ⟨old, _⟩ | new
  · exact tidy.below entry old
  · rw [new]
    exact tidy.lt_of_job? known

/-- A call begins in a settled deployment, under a number that no other has. -/
theorem begins (tidy : Tidy id before) {call : Call}
    (owned : call.isJoin = true → before.service.state ≠ .new) :
    Tidy (id + 1) ((before.settle.addJob id call).wake (.caller id)) := by
  have settled := tidy.settle
  have started (joins : call.isJoin = true) : before.settle.service.state ≠ .new :=
    tidy.regular.started (evolves_settle before) (owned joins)
  refine ⟨(Passes.begins id call started).regular settled.regular, ?_⟩
  rw [wake_eq]
  intro entry member
  rcases List.mem_append.mp member with old | new
  · exact Nat.lt_succ_of_lt (settled.below entry old)
  · rw [List.mem_singleton.mp new]
    exact Nat.lt_succ_self id

theorem hand (tidy : Tidy bound before) (held : before.holder ≠ .nobody) :
    Tidy bound { before with holder := .nobody } :=
  tidy.act (.handOver .nobody held)

theorem taken (tidy : Tidy id before) {step : Step} (taken : Taken before id step after) :
    Tidy (id + 1) after := by
  have higher := Nat.le_succ id
  cases taken with
  | acts atOnce _ => exact (tidy.act atOnce.act).mono higher
  | settles => exact tidy.settle.mono higher
  | advances duration => exact (tidy.settle.passTime duration).mono higher
  | aborts _ known => exact (tidy.abort known).settle.mono higher
  | begins _ _ _ single =>
      apply (tidy.begins _).settle
      intro joins
      rw [single] at joins
      cases joins
  | joins given _ =>
      have held := Holder.ne_nobody given
      exact ((tidy.hand held).begins fun _ => tidy.regular.held held).settle

theorem run (tidy : Tidy id before) (steps : List (Option Step)) :
    Tidy (id + steps.length) (before.run id steps).2 := by
  induction steps generalizing id before with
  | nil => exact tidy
  | cons step rest inductionHypothesis =>
      rw [List.length_cons, Nat.add_comm rest.length, ← Nat.add_assoc]
      cases step with
      | none => exact inductionHypothesis (tidy.mono (Nat.le_succ id))
      | some step => exact inductionHypothesis (tidy.taken (take_taken id step))

end Tidy

/-! ## Joining calls -/

/-- Whoever joins after a while joined before, under the same number. -/
def NoNewJoin (before after : Deployment) : Prop :=
  ∀ entry ∈ after.jobs, entry.2.call.isJoin = true →
    ∃ earlier ∈ before.jobs, earlier.1 = entry.1 ∧ earlier.2.call.isJoin = true

namespace NoNewJoin

variable {before after : Deployment}

theorem of_jobs (jobs : after.jobs = before.jobs) : NoNewJoin before after := by
  intro entry member joins
  rw [jobs] at member
  exact ⟨entry, member, rfl, joins⟩

theorem nobody (old : NoNewJoin before after)
    (apart : ∀ entry ∈ before.jobs, entry.2.call.isJoin = false) :
    ∀ entry ∈ after.jobs, entry.2.call.isJoin = false := by
  intro entry member
  cases joins : entry.2.call.isJoin with
  | false => rfl
  | true =>
      rcases old entry member joins with ⟨earlier, present, _, joined⟩
      rw [apart earlier present] at joined
      cases joined

theorem single (old : NoNewJoin before after)
    (alone : ∀ entry ∈ before.jobs, ∀ other ∈ before.jobs,
      entry.2.call.isJoin = true → other.2.call.isJoin = true → entry.1 = other.1) :
    ∀ entry ∈ after.jobs, ∀ other ∈ after.jobs,
      entry.2.call.isJoin = true → other.2.call.isJoin = true → entry.1 = other.1 := by
  intro entry member other present joins joined
  rcases old entry member joins with ⟨first, known, same, does⟩
  rcases old other present joined with ⟨second, found, alike, doesToo⟩
  rw [← same, ← alike]
  exact alone first known second found does doesToo

/-- No caller begins to join at his turn. -/
theorem advanceCaller (regular : before.Regular) (id : Nat) :
    NoNewJoin before (before.advanceCaller id) := by
  intro entry member joins
  have visits : Visits before id (before.advanceCaller id) :=
    visits_advanceCaller regular.lawful regular.joins
  cases visits.visit with
  | rests jobs _ _ =>
      rw [jobs] at member
      exact ⟨entry, member, rfl, joins⟩
  | stays known follows jobs _ _ =>
      rw [jobs] at member
      rcases mem_setJob member with ⟨old, _⟩ | new
      · exact ⟨entry, old, rfl, joins⟩
      · rw [new] at joins ⊢
        exact ⟨_, mem_of_job? known, rfl, follows.isJoin_eq.symm.trans joins⟩
  | ends _ _ jobs _ =>
      rw [jobs] at member
      exact ⟨entry, (mem_finish.mp member).1, rfl, joins⟩

theorem abort {other : Nat} {job : Job} (known : before.job? other = some job) :
    NoNewJoin before ((before.setJob other { job with doomed := true }).wake (.caller other)) := by
  rw [wake_eq]
  intro entry member joins
  rcases mem_setJob member with ⟨old, _⟩ | new
  · exact ⟨entry, old, rfl, joins⟩
  · rw [new] at joins ⊢
    exact ⟨_, mem_of_job? known, rfl, joins⟩

/-- A call begins that does not join. -/
theorem begins (before : Deployment) (id : Nat) {call : Call} (single : call.isJoin = false) :
    NoNewJoin before ((before.addJob id call).wake (.caller id)) := by
  rw [wake_eq]
  intro entry member joins
  rcases List.mem_append.mp member with old | new
  · exact ⟨entry, old, rfl, joins⟩
  · rw [List.mem_singleton.mp new, single] at joins
    cases joins

end NoNewJoin

/-! ## Requests to stop -/

/-- Nobody has asked the service to stop, and no call under way will. -/
structure Unasked (deployment : Deployment) : Prop where
  untold : deployment.service.stopRequested = false
  nobody : ∀ entry ∈ deployment.jobs, entry.2.call.isJoin = false

namespace Unasked

variable {before after : Deployment}

/-- Only the calls and the service decide. -/
theorem around (unasked : before.Unasked) (jobs : after.jobs = before.jobs)
    (service : after.service = before.service) : after.Unasked :=
  ⟨service ▸ unasked.untold, jobs ▸ unasked.nobody⟩

/-- Where nobody joins, no caller stops the service or begins to join. -/
theorem advanceCaller (unasked : before.Unasked) (regular : before.Regular) (id : Nat) :
    (before.advanceCaller id).Unasked := by
  refine ⟨?_, (NoNewJoin.advanceCaller regular id).nobody unasked.nobody⟩
  rcases before.custody_advanceCaller id with same | ⟨_, job, known, joins⟩
  · exact (told_of_custody same).trans unasked.untold
  · rw [unasked.nobody _ (mem_of_job? known)] at joins
    cases joins

/-- Where nobody asks, the first in line does not ask either. -/
theorem tick (unasked : before.Unasked) (regular : before.Regular) : before.tick.Unasked := by
  apply tick_keeps Unasked
  · exact fun _ _ kept => kept.around rfl rfl
  · exact ⟨(told_of_custody before.custody_advanceWorker).trans unasked.untold,
      (works_advanceWorker regular.lawful).jobs ▸ unasked.nobody⟩
  · exact unasked.advanceCaller regular
  · exact unasked

theorem abort (unasked : before.Unasked) {other : Nat} {job : Job}
    (known : before.job? other = some job) :
    ((before.setJob other { job with doomed := true }).wake (.caller other)).Unasked := by
  refine ⟨?_, (NoNewJoin.abort known).nobody unasked.nobody⟩
  rw [wake_eq]
  exact unasked.untold

theorem begins (unasked : before.Unasked) (id : Nat) {call : Call}
    (single : call.isJoin = false) : ((before.addJob id call).wake (.caller id)).Unasked := by
  refine ⟨?_, (NoNewJoin.begins before id single).nobody unasked.nobody⟩
  rw [wake_eq]
  exact unasked.untold

end Unasked

/-! ## Guards -/

/-- Somebody can stop the service or will, or there is nothing left to stop. -/
inductive Guarded (deployment : Deployment) : Prop where
  | held (holds : deployment.holder ≠ .nobody)
  | given {id : Nat} {job : Job} (known : deployment.job? id = some job) (guards : job.Guards)
  | told (told : deployment.service.stopRequested = true)
  | idle (here : deployment.service.worker = .idle)
  | gone (gone : deployment.service.worker.isGone = true)

/-- The call is all that could stop the service, and would take the handle with it. -/
structure Exposed (deployment : Deployment) (id : Nat) : Prop where
  waits : ∃ job, deployment.job? id = some job ∧ job.call.awaitsWorker = true
  untold : deployment.service.stopRequested = false
  going : deployment.service.worker.isGone = false

namespace Guarded

variable {bound id : Nat} {before after : Deployment}

/-- Only the holder, the calls and the service decide. -/
theorem around (guarded : before.Guarded) (holder : after.holder = before.holder)
    (jobs : after.jobs = before.jobs) (service : after.service = before.service) :
    after.Guarded := by
  cases guarded with
  | held holds => exact .held (holder ▸ holds)
  | given known guards => exact .given ((congrArg (List.lookup _) jobs).trans known) guards
  | told told => exact .told (service ▸ told)
  | idle here => exact .idle (service ▸ here)
  | gone gone => exact .gone (service ▸ gone)

theorem advanceWorker (regular : before.Regular) (guarded : before.Guarded) :
    before.advanceWorker.2.Guarded := by
  have custody := before.custody_advanceWorker
  cases guarded with
  | held holds =>
      apply Guarded.held
      rw [holder_of_custody custody]
      exact holds
  | given known guards =>
      have jobs := (works_advanceWorker regular.lawful).jobs
      exact .given ((congrArg (List.lookup _) jobs).trans known) guards
  | told told => exact .told ((told_of_custody custody).trans told)
  | idle here =>
      apply Guarded.idle
      simp only [Deployment.advanceWorker, here]
  | gone gone =>
      apply Guarded.gone
      unfold Deployment.advanceWorker
      cases here : before.service.worker with
      | done _ | failed _ | aborted _ => exact (congrArg Worker.isGone here).trans rfl
      | _ =>
          rw [here] at gone
          cases gone

/-- A call that guards the service goes on, or stops it, or learns of its end. -/
theorem advanceCaller (regular : before.Regular) (guarded : before.Guarded) :
    (before.advanceCaller id).Guarded := by
  have visits : Visits before id (before.advanceCaller id) :=
    visits_advanceCaller regular.lawful regular.joins
  cases guarded with
  | held holds =>
      apply Guarded.held
      rw [holder_advanceCaller]
      exact holds
  | told told => exact .told (told_advanceCaller before id told)
  | idle here => exact .idle (visits.worker.trans here)
  | gone gone => exact .gone ((congrArg Worker.isGone visits.worker).trans gone)
  | @given guard job known guards =>
      by_cases own : guard = id
      · subst own
        cases visits.visit with
        | rests jobs _ _ => exact .given ((congrArg (List.lookup _) jobs).trans known) guards
        | @stays call later present follows jobs _ _ =>
            rw [known] at present
            cases present
            have there := (congrArg (List.lookup guard) jobs).trans
              (job?_setJob known { call := later })
            refine .given there ⟨follows.isJoin_eq.trans guards.joins, ?_⟩
            intro doomed
            cases doomed
        | @ends ended outcome present concludes jobs _ =>
            rw [known] at present
            cases present
            cases concludes with
            | apart single =>
                rw [guards.joins] at single
                cases single
            | told _ verdict _ =>
                exact .gone (Worker.isGone_of_verdict? verdict)
            | aborted =>
                rcases Call.eq_join guards.joins (guards.whole rfl) with ⟨door, stopFirst, same⟩
                subst same
                apply Guarded.told
                unfold Deployment.advanceCaller
                rw [known]
                exact before.told_requestStop
      · exact .given ((job?_advanceCaller_of_ne regular own).trans known) guards

theorem tick (regular : before.Regular) (guarded : before.Guarded) : before.tick.Guarded := by
  apply tick_keeps Guarded
  · exact fun _ _ kept => kept.around rfl rfl rfl
  · exact guarded.advanceWorker regular
  · exact fun _ => guarded.advanceCaller regular
  · exact guarded

/-- Nobody loses the service at the turns that settle it. -/
theorem settle (tidy : Tidy bound before) (guarded : before.Guarded) : before.settle.Guarded :=
  tidy.keeps_settle (fun _ regular kept => kept.tick regular) guarded

theorem passTime (tidy : Tidy bound before) (guarded : before.Guarded) (remaining : Nat) :
    (Deployment.passTime remaining before).Guarded :=
  tidy.keeps_passTime (fun _ regular kept => kept.tick regular)
    (fun _ _ _ kept => kept.around rfl rfl rfl) guarded remaining

/-- The service is guarded by a call that is given the handle, and by any call that guarded
it before. -/
theorem begins {call : Call} (fresh : before.job? id = none)
    (guarded : before.Guarded ∨ call.isJoin = true) :
    ((before.addJob id call).wake (.caller id)).Guarded := by
  rw [wake_eq]
  rcases guarded with guarded | joins
  · cases guarded with
    | held holds => exact .held holds
    | given known guards => exact .given (job?_addJob_of_some known) guards
    | told told => exact .told told
    | idle here => exact .idle here
    | gone gone => exact .gone gone
  · refine .given (job?_addJob_self fresh call) ⟨joins, ?_⟩
    intro doomed
    cases doomed

/-- The abort of a call leaves the service guarded, unless the call waits for the worker
and is all that could stop it. -/
theorem abort {other : Nat} {job : Job} (guarded : before.Guarded)
    (known : before.job? other = some job) :
    ((before.setJob other { job with doomed := true }).wake (.caller other)).Guarded ∨
      before.Exposed other := by
  rw [wake_eq]
  cases guarded with
  | held holds => exact Or.inl (.held holds)
  | told told => exact Or.inl (.told told)
  | idle here => exact Or.inl (.idle here)
  | gone gone => exact Or.inl (.gone gone)
  | @given guard guarding found guards =>
      by_cases own : guard = other
      · subst own
        rw [known] at found
        cases found
        cases waits : job.call.awaitsWorker with
        | false => exact Or.inl (.given (job?_setJob known _) ⟨guards.joins, fun _ => waits⟩)
        | true =>
            cases told : before.service.stopRequested with
            | true => exact Or.inl (.told told)
            | false =>
                cases gone : before.service.worker.isGone with
                | true => exact Or.inl (.gone gone)
                | false => exact Or.inr ⟨⟨job, known, waits⟩, told, gone⟩
      · exact Or.inl (.given ((job?_setJob_of_ne own _).trans found) guards)

/-- A request leaves the service guarded: whoever lets go of the handle stops the service. -/
theorem acts (regular : before.Regular) (guarded : before.Guarded) (atOnce : AtOnce before after) :
    after.Guarded := by
  have jobs := (regular.works_of_act atOnce.act).jobs
  rcases atOnce.custody with ⟨holder, service⟩ | ⟨_, told⟩ | ⟨_, handle⟩
  · exact guarded.around holder jobs service
  · exact .told told
  · apply Guarded.held
    rw [handle]
    intro impossible
    cases impossible

/-- A step leaves the service guarded, unless it aborts the call that is all that could
stop it. -/
theorem taken (tidy : Tidy id before) (guarded : before.Guarded) {step : Step}
    (taken : Taken before id step after) :
    after.Guarded ∨ ∃ other, step = .abort other ∧ before.Exposed other := by
  cases taken with
  | acts atOnce _ => exact Or.inl (guarded.acts tidy.regular atOnce)
  | settles => exact Or.inl (guarded.settle tidy)
  | advances duration =>
      exact Or.inl ((guarded.settle tidy).passTime tidy.settle duration)
  | aborts asked known =>
      rcases guarded.abort known with kept | exposed
      · exact Or.inl (kept.settle (tidy.abort known))
      · exact Or.inr ⟨_, asked, exposed⟩
  | @begins call _ _ _ single =>
      have owned (joins : call.isJoin = true) : before.service.state ≠ .new := by
        rw [single] at joins
        cases joins
      refine Or.inl (Guarded.settle (tidy.begins owned) ?_)
      exact begins tidy.settle.job?_eq_none (Or.inl (guarded.settle tidy))
  | joins given _ =>
      have held := Holder.ne_nobody given
      have handed := tidy.hand held
      refine Or.inl (Guarded.settle (handed.begins fun _ => tidy.regular.held held) ?_)
      exact begins handed.settle.job?_eq_none (Or.inr rfl)

/-- A run leaves the service guarded, unless one of its steps aborts the call that is all
that could stop it. -/
theorem run (tidy : Tidy id before) (guarded : before.Guarded) (steps : List (Option Step)) :
    (before.run id steps).2.Guarded ∨ ∃ earlier other later,
      steps = earlier ++ some (.abort other) :: later ∧
        (before.run id earlier).2.Exposed other := by
  induction steps generalizing id before with
  | nil => exact Or.inl guarded
  | cons step rest inductionHypothesis =>
      -- An abort in the rest of the run is one of the whole run.
      have further {middle : Deployment} (first : ∀ later, (before.run id (step :: later)).2 =
            (middle.run (id + 1) later).2)
          (there : Tidy (id + 1) middle) (kept : middle.Guarded) :
          (before.run id (step :: rest)).2.Guarded ∨ ∃ earlier other later,
            step :: rest = earlier ++ some (.abort other) :: later ∧
              (before.run id earlier).2.Exposed other := by
        rcases inductionHypothesis there kept with kept | ⟨earlier, other, later, split, exposed⟩
        · exact Or.inl (first rest ▸ kept)
        · refine Or.inr ⟨step :: earlier, other, later, ?_, first earlier ▸ exposed⟩
          rw [split, List.cons_append]
      cases step with
      | none => exact further (fun _ => rfl) (tidy.mono (Nat.le_succ id)) guarded
      | some step =>
          have taken : Taken before id step (before.take id step).2 := take_taken id step
          rcases guarded.taken tidy taken with kept | ⟨other, asked, exposed⟩
          · exact further (fun _ => rfl) (tidy.taken taken) kept
          · exact Or.inr ⟨[], other, rest, by rw [asked, List.nil_append], exposed⟩

end Guarded

end Deployment
end FailureDispatch

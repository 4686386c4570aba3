import FailureDispatch.Proofs.Submission.Accounting

/-!
# What it means that a queue is closed

To those who submit, a queue is closed from the moment it is closed: whoever
begins afterwards is refused.  To those who consume it is closed later.  The
submissions that were waiting for a slot at that moment keep their claims, and
as long as one of them waits, or a batch is left in the buffer, there is
something to wait for.

In between, arbitrarily much can happen: batches are taken, submissions and
consumers are torn down, tokens are cancelled.  What does not happen is that
somebody joins those who wait (`begun_before`), so the line for the slots only
gets shorter, by its first whenever a batch is accepted (`Remains`).
-/

namespace FailureDispatch

namespace Deployment

section Following

variable {before after : Deployment} {queue next : SubmissionQueue Actor Batch} {id : Nat}
  {sitter : Option Actor} {door : Door} {batch : Batch} {begun doomed : Bool}

/-! ## Turns -/

/-- A turn that is not a caller's touches neither the calls nor the clock nor the tokens. -/
structure Untouching (before after : Deployment) : Prop where
  jobs : after.jobs = before.jobs
  outcomes : after.outcomes = before.outcomes
  cancelled : after.cancelled = before.cancelled
  now : after.now = before.now

theorem tick_cases (buffered : before.source = .buffered queue)
    (course : before.service.OnCourse) :
    Untouching before before.tick ∨
      ∃ id, before.tick = (before.advanceCaller id).stepBack := by
  unfold tick
  cases before.ready with
  | nil => exact Or.inl ⟨rfl, rfl, rfl, rfl⟩
  | cons head rest =>
      cases head with
      | worker =>
          rcases advanceWorker_turn buffered course with
            ⟨progress, woken, next, service, gates, trace, same, _, _⟩
          rw [same]
          cases progress <;> exact Or.inl ⟨rfl, rfl, rfl, rfl⟩
      | caller id => exact Or.inr ⟨id, rfl⟩

/-- A turn ends no call but the own. -/
theorem Visit.lookup_ended {other : Nat} (visit : Visit before id after) (different : other ≠ id) :
    (before.ended after).lookup other = none := by
  cases visit with
  | rests _ outcomes _ | stays _ _ _ outcomes _ =>
      rw [ended_of_same outcomes]
      rfl
  | ends _ _ _ outcomes =>
      rw [ended_of_one outcomes, List.lookup_cons, beq_false_of_ne different]
      rfl

/-- How a submission can end at a closed queue, by whether it has begun to wait and whether it is
to be torn down. -/
inductive EndsLate : Bool → Bool → Outcome → Prop where
  | aborted {begun : Bool} : EndsLate begun true .aborted
  | accepted : EndsLate true false .done
  | refused {outcome : Outcome} (error : outcome.error? = some .queueClosed) :
      EndsLate false false outcome

/-- At a closed queue a submission that is just beginning does not go on. -/
theorem Handles.not_stays (handles : Handles before queue id after next)
    (closed : queue.isOpen = false)
    (known : before.job? id = some ⟨.submit door batch false, false⟩)
    (outcomes : after.outcomes = before.outcomes) : False := by
  have nothing {outcome : Outcome}
      (ended : after.outcomes = before.outcomes ++ [(id, outcome)]) : False := by
    have lengths := congrArg List.length (outcomes.symm.trans ended)
    simp at lengths
  cases handles with
  | aside _ _ _ begins => exact begins closed outcomes door batch known
  | accepts _ _ _ _ ended => exact nothing ended
  | refuses _ _ _ _ _ ended => exact nothing ended

/-- At a closed queue nobody begins to wait in a turn. -/
theorem Handles.begun_before (handles : Handles before queue id after next)
    (visit : Visit before id after) (closed : queue.isOpen = false)
    (known : after.job? id = some ⟨.submit door batch true, doomed⟩) :
    ∃ earlier, before.job? id = some ⟨.submit door batch true, earlier⟩ ∧
      (earlier = true → doomed = true) := by
  cases visit with
  | rests jobs _ _ =>
      exact ⟨doomed, (congrArg (List.lookup id) jobs).symm.trans known, fun same => same⟩
  | @stays call later present follows jobs outcomes _ =>
      have there : (before.setJob id { call := later }).job? id = some { call := later } :=
        job?_setJob present _
      have same := there.symm.trans ((congrArg (List.lookup id) jobs).symm.trans known)
      have told : later = .submit door batch true := congrArg Job.call (Option.some.inj same)
      rcases follows.submission told with ⟨begun, same⟩
      subst same
      cases begun with
      | true => exact ⟨false, present, fun impossible => nomatch impossible⟩
      | false => exact (handles.not_stays closed present outcomes).elim
  | @ends _ outcome _ _ jobs _ =>
      have gone : (before.finish id outcome).job? id = none := job?_finish_self outcome
      cases gone.symm.trans ((congrArg (List.lookup id) jobs).symm.trans known)

/-- At a closed queue a submission goes on as it is or ends late. -/
theorem Handles.late (handles : Handles before queue id after next)
    (visit : Visit before id after) (closed : queue.isOpen = false)
    (known : before.job? id = some ⟨.submit door batch begun, doomed⟩) :
    (after.outcomes = before.outcomes ∧
        ∃ later, after.job? id = some ⟨.submit door batch begun, later⟩) ∨
      ∃ outcome, EndsLate begun doomed outcome ∧
        after.outcomes = before.outcomes ++ [(id, outcome)] := by
  cases visit with
  | rests jobs outcomes _ =>
      exact Or.inl ⟨outcomes, doomed, (congrArg (List.lookup id) jobs).trans known⟩
  | @stays call later present follows jobs outcomes _ =>
      have there : (before.setJob id { call := later }).job? id = some { call := later } :=
        job?_setJob present _
      have same := (congrArg (List.lookup id) jobs).trans there
      cases known.symm.trans present
      have begun : begun = true := by
        cases begun with
        | true => rfl
        | false => exact (handles.not_stays closed present outcomes).elim
      subst begun
      cases follows with
      | submit => exact Or.inl ⟨outcomes, false, same⟩
      | consume _ consumes => cases consumes
  | @ends job outcome present _ jobs outcomes =>
      cases known.symm.trans present
      refine Or.inr ?_
      cases handles with
      | aside _ _ ends _ =>
          rcases ends _ outcome known rfl outcomes with ⟨torn, aborted⟩
          have torn : doomed = true := torn
          subst torn aborted
          exact ⟨.aborted, .aborted, outcomes⟩
      | accepts job may _ _ done =>
          cases known.symm.trans job
          cases may closed
          exact ⟨.done, .accepted, done⟩
      | refuses job _ _ _ error refused =>
          cases known.symm.trans job
          exact ⟨_, .refused error, refused⟩

/-! ## Whatever happens -/

/-- Whose call something that happens is about. -/
inductive Concerns (before : Deployment) (queue : SubmissionQueue Actor Batch)
    (after : Deployment) : Prop where
  | nobody (jobs : after.jobs = before.jobs) (outcomes : after.outcomes = before.outcomes)
  | newcomer {id call} (fresh : before.job? id = none) (new : call.isNew = true)
      (jobs : after.jobs = (before.addJob id call).jobs) (outcomes : after.outcomes = before.outcomes)
  | dooms {id job} (known : before.job? id = some job)
      (jobs : after.jobs = (before.setJob id { job with doomed := true }).jobs)
      (outcomes : after.outcomes = before.outcomes)
  | visits {id turned next} (handles : Handles before queue id turned next)
      (visit : Visit before id turned) (same : after = turned.stepBack)

theorem Civil.concerns (civil : before.Civil queue sitter) (happening : Happening before after) :
    Concerns before queue after := by
  have outside (act : Act before after) : Concerns before queue after :=
    .nobody (act.outside civil.buffered).jobs (act.outside civil.buffered).outcomes
  have regular := civil.composed.sound.regular
  cases happening with
  | turn =>
      rcases tick_cases civil.buffered civil.composed.sound.course with untouching | ⟨id, same⟩
      · exact .nobody untouching.jobs untouching.outcomes
      · rcases (advanceCaller_turn civil.buffered civil.composed.sound.course).handles
          civil.buffered with ⟨next, _, handles⟩
        exact .visits handles (visits_advanceCaller regular.lawful regular.joins).visit same
  | begins fresh may =>
      rw [wake_eq]
      exact .newcomer (job?_of_fresh fresh) may.isNew rfl rfl
  | aborts known =>
      rw [wake_eq]
      exact .dooms known rfl rfl
  | rings time later => exact outside (.clock time _ later)
  | passes time later => exact outside (.clock time [] later)
  | requests request => exact outside request.act
  | handsOver holder held => exact outside (.handOver holder held)
  | announces settings held => exact outside (.announce settings held)

/-- Calls only end. -/
theorem Concerns.outcomes (concerns : Concerns before queue after) :
    after.outcomes = before.outcomes ++ before.ended after := by
  have none (outcomes : after.outcomes = before.outcomes) :
      after.outcomes = before.outcomes ++ before.ended after := by
    rw [ended_of_same outcomes, List.append_nil, outcomes]
  cases concerns with
  | nobody _ outcomes | newcomer _ _ _ outcomes | dooms _ _ outcomes => exact none outcomes
  | visits _ visit same =>
      subst same
      cases visit with
      | rests _ outcomes _ | stays _ _ _ outcomes _ => exact none outcomes
      | ends _ _ _ outcomes =>
          exact outcomes.trans (congrArg _ (ended_of_one outcomes).symm)

/-- At a closed queue nobody begins to wait. -/
theorem Concerns.begun_before (concerns : Concerns before queue after)
    (closed : queue.isOpen = false)
    (known : after.job? id = some ⟨.submit door batch true, doomed⟩) :
    ∃ earlier, before.job? id = some ⟨.submit door batch true, earlier⟩ ∧
      (earlier = true → doomed = true) := by
  cases concerns with
  | nobody jobs _ =>
      exact ⟨doomed, (congrArg (List.lookup id) jobs).symm.trans known, fun same => same⟩
  | @newcomer other call fresh new jobs _ =>
      have there : (before.addJob other call).job? id = some ⟨.submit door batch true, doomed⟩ :=
        (congrArg (List.lookup id) jobs).symm.trans known
      by_cases own : id = other
      · subst own
        cases (job?_addJob_self fresh call).symm.trans there
        cases new
      · have absent : [(other, ({ call } : Job))].lookup id = none := by
          rw [List.lookup_cons, beq_false_of_ne own]
          rfl
        rw [job?_addJob, absent, Option.or_none] at there
        exact ⟨doomed, there, fun same => same⟩
  | @dooms other job present jobs _ =>
      have there := (congrArg (List.lookup id) jobs).symm.trans known
      by_cases own : id = other
      · subst own
        have set : (before.setJob id { job with doomed := true }).job? id =
            some { job with doomed := true } := job?_setJob present _
        have same := Option.some.inj (set.symm.trans there)
        rcases job with ⟨call, earlier⟩
        cases same
        exact ⟨earlier, present, fun _ => rfl⟩
      · exact ⟨doomed, (job?_setJob_of_ne own _).symm.trans there, fun same => same⟩
  | @visits own turned next handles visit same =>
      subst same
      by_cases mine : id = own
      · subst mine
        exact handles.begun_before visit closed known
      · refine ⟨doomed, ?_, fun same => same⟩
        exact (visit.job?_of_ne mine).symm.trans known

/-- Whose call has ended is not under way any more. -/
theorem Concerns.gone (concerns : Concerns before queue after) {outcome : Outcome}
    (ended : (before.ended after).lookup id = some outcome) : after.job? id = none := by
  have nothing (outcomes : after.outcomes = before.outcomes) : after.job? id = none := by
    rw [ended_of_same outcomes] at ended
    cases ended
  cases concerns with
  | nobody _ outcomes | newcomer _ _ _ outcomes | dooms _ _ outcomes => exact nothing outcomes
  | @visits own turned next _ visit same =>
      subst same
      by_cases mine : id = own
      · subst mine
        cases visit with
        | rests _ outcomes _ | stays _ _ _ outcomes _ => exact nothing outcomes
        | @ends _ last _ _ jobs _ =>
            exact (congrArg (List.lookup id) jobs).trans (job?_finish_self last)
      · cases (visit.lookup_ended mine).symm.trans ended

/-- At a closed queue a submission goes on as it is or ends late. -/
theorem Concerns.late (concerns : Concerns before queue after) (closed : queue.isOpen = false)
    (known : before.job? id = some ⟨.submit door batch begun, doomed⟩) :
    ((before.ended after).lookup id = none ∧
        ∃ later, after.job? id = some ⟨.submit door batch begun, later⟩) ∨
      ∃ outcome, EndsLate begun doomed outcome ∧ (before.ended after).lookup id = some outcome := by
  have still (outcomes : after.outcomes = before.outcomes) {later : Bool}
      (there : after.job? id = some ⟨.submit door batch begun, later⟩) :
      (before.ended after).lookup id = none ∧
        ∃ later, after.job? id = some ⟨.submit door batch begun, later⟩ := by
    rw [ended_of_same outcomes]
    exact ⟨rfl, later, there⟩
  cases concerns with
  | nobody jobs outcomes =>
      exact Or.inl (still outcomes ((congrArg (List.lookup id) jobs).trans known))
  | newcomer _ _ jobs outcomes =>
      exact Or.inl (still outcomes
        ((congrArg (List.lookup id) jobs).trans (job?_addJob_of_some known)))
  | @dooms other job present jobs outcomes =>
      refine Or.inl ?_
      by_cases own : id = other
      · subst own
        cases known.symm.trans present
        exact still outcomes ((congrArg (List.lookup id) jobs).trans (job?_setJob known _))
      · exact still outcomes ((congrArg (List.lookup id) jobs).trans
          ((job?_setJob_of_ne own _).trans known))
  | @visits own turned next handles visit same =>
      subst same
      by_cases mine : id = own
      · subst mine
        rcases handles.late visit closed known with
          ⟨outcomes, later, there⟩ | ⟨outcome, late, outcomes⟩
        · exact Or.inl (still outcomes there)
        · refine Or.inr ⟨outcome, late, ?_⟩
          rw [show before.ended turned.stepBack = [(id, outcome)] from ended_of_one outcomes]
          exact List.lookup_cons_self
      · exact Or.inl ⟨visit.lookup_ended mine, doomed, (visit.job?_of_ne mine).trans known⟩

/-! ## What is accepted at a closed queue -/

/-- Whoever waits for a slot has a call under way. -/
theorem job_of_submits {actor : Actor} (waits : before.role actor = .submits true) :
    ∃ id door batch, actor = .caller id ∧
      before.job? id = some ⟨.submit door batch true, false⟩ := by
  cases actor with
  | worker => exact absurd waits (before.service.worker.role_ne_submits true)
  | caller id =>
      cases known : before.job? id with
      | none =>
          rw [role_of_absent known] at waits
          cases waits
      | some job =>
          rw [role_of_job? known] at waits
          rcases job with ⟨call, doomed⟩
          cases doomed with
          | true => exact absurd waits (Role.doomed_ne_submits _ true)
          | false =>
              cases call with
              | submit door batch begun =>
                  have begun : begun = true := Role.submits.inj waits
                  subst begun
                  exact ⟨id, door, batch, rfl, known⟩
              | _ => cases waits

/-- Whoever does not wait is refused and counted, and nothing else happens. -/
theorem submitNow_closed (buffered : before.source = .buffered queue)
    (closed : queue.isOpen = false) (door : Door) (batch : Batch) :
    before.submitNow door batch.draft = (refusal door .queueClosed,
      { before with
        source := .buffered queue.refuse, journal := before.journal ++ [.refused batch] }) := by
  have late : queue.trySubmit batch = (.error .queueClosed, [], queue.refuse) :=
    trySubmit_late closed batch
  simp only [submitNow, buffered, batch.build_draft, late, adopt_eq]
  rfl

/-- Only a submission that has been waiting is accepted by a closed queue. -/
theorem Civil.accepts_waiting (civil : before.Civil queue sitter) (closed : queue.isOpen = false)
    (happening : Happening before after) :
    (after.journal.accepted = before.journal.accepted ∧
        ∀ id ∈ before.submitters, (before.ended after).lookup id ≠ some .done) ∨
      ∃ id door batch, before.job? id = some ⟨.submit door batch true, false⟩ ∧
        after.journal.accepted = before.journal.accepted ++ [batch] ∧
        before.ended after = [(id, .done)] := by
  have still (accepted : after.journal.accepted = before.journal.accepted)
      (outcomes : after.outcomes = before.outcomes) :
      after.journal.accepted = before.journal.accepted ∧
        ∀ id ∈ before.submitters, (before.ended after).lookup id ≠ some .done := by
    rw [ended_of_same outcomes]
    exact ⟨accepted, fun _ _ => nofun⟩
  cases happening.occasion with
  | tries door batch same =>
      rw [submitNow_closed civil.buffered closed] at same
      refine Or.inl (still ?_ (same ▸ rfl))
      rw [same]
      exact (Journal.accepted_append _ _).trans (List.append_nil _)
  | enters id door batch same =>
      rw [wake_eq] at same
      exact Or.inl (still (same ▸ rfl) (same ▸ rfl))
  | besides besides =>
      rcases civil.treatment besides with ⟨next, treatment⟩
      cases treatment.treats with
      | aside _ accepted ends =>
          refine Or.inl ⟨accepted, fun id member done => ?_⟩
          cases ends _ (mem_of_lookup done) member
      | refuses _ _ _ accepted error ended =>
          refine Or.inl ⟨accepted, fun id member done => ?_⟩
          have alone := List.mem_singleton.mp (ended ▸ mem_of_lookup done)
          cases alone
          cases error
      | @accepts id door batch begun job may _ accepted ended =>
          cases may closed
          exact Or.inr ⟨id, door, batch, job, accepted, ended⟩

/-- The line for the slots after something that happens at a closed queue: some have given up, or
the first has been accepted. -/
theorem Civil.line_shortens (civil : before.Civil queue sitter) (closed : queue.isOpen = false)
    {other : SubmissionQueue Actor Batch} {later : Option Actor} (there : after.Civil other later)
    (counted : queue.submitted = before.journal.accepted.length)
    (recounted : other.submitted = after.journal.accepted.length)
    (happening : Happening before after) :
    (after.journal.accepted = before.journal.accepted ∧
        (∀ id ∈ before.submitters, (before.ended after).lookup id ≠ some .done) ∧
        after.submissionLine.Sublist before.submissionLine) ∨
      ∃ id door batch, before.job? id = some ⟨.submit door batch true, false⟩ ∧
        after.journal.accepted = before.journal.accepted ++ [batch] ∧
        before.ended after = [(id, .done)] ∧
        before.submissionLine = .caller id :: after.submissionLine := by
  have concerns := civil.concerns happening
  have served : before.submissions < after.submissions ↔
      before.journal.accepted.length < after.journal.accepted.length := by
    simp only [submissions, civil.buffered, there.buffered, counted, recounted]
  have inTurn := civil.submissions_inTurn happening
  rw [served] at inTurn
  rcases civil.accepts_waiting closed happening with
    ⟨same, undone⟩ | ⟨id, door, batch, job, accepted, ended⟩
  · refine Or.inl ⟨same, undone, ?_⟩
    rw [same] at inTurn
    cases inTurn with
    | stays kept _ => exact kept
    | serves _ something => exact absurd something (Nat.lt_irrefl _)
    | @comes who new last _ =>
        -- Whoever is new in the line would have begun to wait.
        have waits := (there.mem_submissionLine who).mp
          (last ▸ List.mem_append_right _ List.mem_cons_self)
        rcases job_of_submits waits with ⟨id, door, batch, own, known⟩
        rcases concerns.begun_before closed known with ⟨earlier, present, doomed⟩
        have whole : earlier = false := by
          cases earlier with
          | false => rfl
          | true => cases doomed rfl
        subst whole
        refine absurd ((civil.mem_submissionLine who).mpr ?_) new
        rw [own]
        exact role_of_job? present
  · refine Or.inr ⟨id, door, batch, job, accepted, ended, ?_⟩
    have stood : .caller id ∈ before.submissionLine :=
      (civil.mem_submissionLine _).mpr (role_of_job? job)
    have gone : .caller id ∉ after.submissionLine := by
      intro stays
      have absent : after.job? id = none :=
        concerns.gone (show (before.ended after).lookup id = some .done by
          rw [ended]
          exact List.lookup_cons_self)
      have waits := (there.mem_submissionLine _).mp stays
      rw [role_of_absent absent] at waits
      cases waits
    rw [accepted, List.length_append] at inTurn
    have something : before.journal.accepted.length <
        before.journal.accepted.length + [batch].length := Nat.lt_succ_self _
    cases inTurn with
    | stays _ same => exact absurd (same something ▸ stood) gone
    | comes _ _ nothing => exact absurd something nothing
    | @serves who first _ =>
        rw [first] at stood ⊢
        rcases List.mem_cons.mp stood with own | stays
        · rw [own]
        · exact absurd stays gone

/-! ## What a closed queue comes to -/

/-- Of the submissions that waited for a slot, these have been accepted meanwhile. -/
structure Served (reached later : Deployment) (served : List (Nat × Batch)) : Prop where
  /-- They have been accepted in the order in which they waited, before those who still wait. -/
  inOrder : (served.map (fun entry => Actor.caller entry.1) ++ later.submissionLine).Sublist
    reached.submissionLine
  /-- Nothing else has been accepted. -/
  accepted : later.journal.accepted = reached.journal.accepted ++ served.map Prod.snd
  waited : ∀ entry ∈ served,
    ∃ door, reached.job? entry.1 = some ⟨.submit door entry.2 true, false⟩
  done : ∀ entry ∈ served, (reached.ended later).lookup entry.1 = some .done
  /-- Nobody else who waited has been told so. -/
  told : ∀ id door batch doomed, reached.job? id = some ⟨.submit door batch true, doomed⟩ →
    (reached.ended later).lookup id = some .done → (id, batch) ∈ served

/-- A submission has ended late at a closed queue, and this is how it was before. -/
structure EndsSince (reached later : Deployment) (id : Nat) (door : Door) (batch : Batch)
    (begun : Bool) (outcome : Outcome) : Prop where
  told : (reached.ended later).lookup id = some outcome
  before : ∃ between doomed, Happens reached between ∧ Happens between later ∧
    between.job? id = some ⟨.submit door batch begun, doomed⟩ ∧ EndsLate begun doomed outcome

/-- What has become of the submissions that were under way at a closed queue. -/
structure Remains (reached later : Deployment) : Prop where
  happens : Happens reached later
  outcomes : later.outcomes = reached.outcomes ++ reached.ended later
  /-- They go on as they are or end late. -/
  late : ∀ id door batch begun doomed,
    reached.job? id = some ⟨.submit door batch begun, doomed⟩ →
      ((reached.ended later).lookup id = none ∧
          ∃ doomed, later.job? id = some ⟨.submit door batch begun, doomed⟩) ∨
        ∃ outcome, EndsSince reached later id door batch begun outcome
  /-- Nobody has begun to wait. -/
  traced : ∀ id door batch doomed, later.job? id = some ⟨.submit door batch true, doomed⟩ →
    (reached.ended later).lookup id = none ∧
      ∃ earlier, reached.job? id = some ⟨.submit door batch true, earlier⟩ ∧
        (earlier = true → doomed = true)
  served : ∃ served, Served reached later served

/-- What has ended in two stretches. -/
theorem ended_trans {reached : Deployment}
    (first : before.outcomes = reached.outcomes ++ reached.ended before)
    (second : after.outcomes = before.outcomes ++ before.ended after) :
    reached.ended after = reached.ended before ++ before.ended after := by
  have whole : after.outcomes =
      reached.outcomes ++ (reached.ended before ++ before.ended after) := by
    rw [second, first, List.append_assoc]
  rw [ended, whole, List.drop_left]

theorem remains_refl (before : Deployment) : Remains before before := by
  have nothing : before.ended before = [] := ended_of_same rfl
  refine ⟨.refl, ?_, ?_, ?_, [], List.Sublist.refl _, (List.append_nil _).symm, nofun, nofun, ?_⟩
  · rw [nothing, List.append_nil]
  · intro id door batch begun doomed known
    rw [nothing]
    exact Or.inl ⟨rfl, doomed, known⟩
  · intro id door batch doomed known
    rw [nothing]
    exact ⟨rfl, doomed, known, fun same => same⟩
  · intro id door batch doomed _ told
    rw [nothing] at told
    cases told

/-- What happens next at a closed queue. -/
theorem Remains.goesOn {reached : Deployment} (remains : Remains reached before)
    (civil : before.Civil queue sitter) (closed : queue.isOpen = false)
    {other : SubmissionQueue Actor Batch} {later : Option Actor} (there : after.Civil other later)
    (counted : queue.submitted = before.journal.accepted.length)
    (recounted : other.submitted = after.journal.accepted.length)
    (happening : Happening before after) : Remains reached after := by
  have concerns := civil.concerns happening
  have ends : reached.ended after = reached.ended before ++ before.ended after :=
    ended_trans remains.outcomes concerns.outcomes
  have lookup (id : Nat) : (reached.ended after).lookup id =
      ((reached.ended before).lookup id).or ((before.ended after).lookup id) := by
    rw [ends, List.lookup_append]
  refine ⟨remains.happens.tail happening, ?_, ?_, ?_, ?_⟩
  · rw [ends, ← List.append_assoc, ← remains.outcomes]
    exact concerns.outcomes
  · intro id door batch begun doomed known
    rcases remains.late id door batch begun doomed known with
      ⟨none, doomed, present⟩ | ⟨outcome, told, between, torn, first, second, present, late⟩
    · have same := lookup id
      rw [none, Option.none_or] at same
      rcases concerns.late closed present with ⟨still, later, goesOn⟩ | ⟨outcome, late, told⟩
      · exact Or.inl ⟨same.trans still, later, goesOn⟩
      · exact Or.inr ⟨outcome, same.trans told, before, doomed, remains.happens, .single happening,
          present, late⟩
    · refine Or.inr ⟨outcome, ?_, between, torn, first, second.tail happening, present, late⟩
      rw [lookup id, told, Option.some_or]
  · intro id door batch doomed known
    rcases concerns.begun_before closed known with ⟨between, present, doomed⟩
    rcases remains.traced id door batch between present with ⟨none, earlier, first, doomed'⟩
    refine ⟨?_, earlier, first, fun torn => doomed (doomed' torn)⟩
    rw [lookup id, none, Option.none_or]
    cases told : (before.ended after).lookup id with
    | none => rfl
    | some outcome => cases known.symm.trans (concerns.gone told)
  · rcases remains.served with ⟨served, inOrder, accepted, waited, done, told⟩
    have kept : ∀ entry ∈ served, (reached.ended after).lookup entry.1 = some .done := by
      intro entry member
      rw [lookup, done entry member, Option.some_or]
    rcases civil.line_shortens closed there counted recounted happening with
      ⟨same, undone, shorter⟩ | ⟨own, door, batch, job, adds, alone, first⟩
    · refine ⟨served, ((List.Sublist.refl _).append shorter).trans inOrder, same.trans accepted,
        waited, kept, ?_⟩
      intro id door batch doomed known done
      rcases remains.late id door batch true doomed known with
        ⟨none, _, present⟩ | ⟨outcome, earlier, _⟩
      · rw [lookup id, none, Option.none_or] at done
        exact absurd done
          (undone id ((mem_submitters civil.composed.distinct).mpr ⟨_, present, rfl⟩))
      · rw [lookup id, earlier, Option.some_or] at done
        exact told id door batch doomed known (earlier.trans done)
    · rcases remains.traced own door batch false job with ⟨none, earlier, known, doomed⟩
      have whole : earlier = false := by
        cases earlier with
        | false => rfl
        | true => cases doomed rfl
      subst whole
      refine ⟨served ++ [(own, batch)], ?_, ?_, ?_, ?_, ?_⟩
      · rw [List.map_append, List.append_assoc]
        rw [first] at inOrder
        exact inOrder
      · rw [adds, accepted, List.map_append, List.append_assoc]
        rfl
      · intro entry member
        rcases List.mem_append.mp member with earlier | new
        · exact waited entry earlier
        · rw [List.mem_singleton.mp new]
          exact ⟨door, known⟩
      · intro entry member
        rcases List.mem_append.mp member with earlier | new
        · exact kept entry earlier
        · rw [List.mem_singleton.mp new, lookup, none, Option.none_or, alone]
          exact List.lookup_cons_self
      · intro id other item doomed waits done
        rcases remains.late id other item true doomed waits with
          ⟨none, _, present⟩ | ⟨outcome, earlier, _⟩
        · rw [lookup id, none, Option.none_or, alone] at done
          have mine := List.mem_singleton.mp (mem_of_lookup done)
          cases mine
          cases job.symm.trans present
          exact List.mem_append_right _ List.mem_cons_self
        · rw [lookup id, earlier, Option.some_or] at done
          exact List.mem_append_left _ (told id other item doomed waits (earlier.trans done))

/-- Whatever happens after a queue has been closed. -/
theorem Vacant.remains {origin reached later : Deployment} (vacant : origin.Vacant)
    (happens : Happens origin reached) (shut : reached.Shut) (further : Happens reached later) :
    Remains reached later := by
  have unstarted := vacant.unstarted
  have books {deployment : Deployment} (happened : Happens origin deployment) :
      ∃ queue sitter, deployment.Civil queue sitter ∧
        queue.submitted = deployment.journal.accepted.length := by
    rcases vacant.happens happened with ⟨queue, sitter, civil⟩
    rcases reaches_conserves unstarted happened.reaches with ⟨_, source, conserved⟩
    cases civil.buffered.symm.trans source
    exact ⟨queue, sitter, civil, conserved.submitted⟩
  induction further with
  | refl => exact remains_refl reached
  | @tail before after earlier happening inductionHypothesis =>
      rcases books (happens.trans earlier) with ⟨queue, sitter, civil, counted⟩
      rcases books ((happens.trans earlier).tail happening) with ⟨_, _, there, recounted⟩
      rcases shut.reaches (unstarted.onCourse.reaches happens.reaches)
        (Happens.reaches earlier) with ⟨_, source, closed⟩
      cases civil.buffered.symm.trans source
      exact inductionHypothesis.goesOn civil closed there counted recounted happening

end Following

end Deployment
end FailureDispatch

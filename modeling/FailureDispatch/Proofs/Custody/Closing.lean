import FailureDispatch.Proofs.Custody.Orphan
import FailureDispatch.Proofs.Life.Ending
import FailureDispatch.Proofs.Queue.Closing

/-!
# Which ends of a runtime close its queue

A queue that is closed stays closed, and refuses whatever is submitted afterwards.

The queue of a runtime is closed by the call that shuts the runtime down, once the
worker has ended.  Whoever lets go of the runtime without such a call, or aborts it,
stops the service and leaves the queue open.  `Covered` follows who will close the
queue: while the runtime is held nobody has asked for a stop, and from then on it is
the call to which the runtime was given.

That call can be aborted at any point of its progress, so what becomes of the queue is settled
over dealings.  Runs say at which step the runtime was let go of.
-/

namespace FailureDispatch
namespace Deployment

/-- The queue is closed. -/
def Shut (deployment : Deployment) : Prop :=
  ∃ queue, deployment.source = .buffered queue ∧ queue.isOpen = false

instance (deployment : Deployment) : Decidable deployment.Shut :=
  match buffered : deployment.source with
  | .buffered queue =>
      decidable_of_iff (queue.isOpen = false)
        ⟨fun closed => ⟨queue, buffered, closed⟩,
          fun ⟨_, same, closed⟩ => Source.buffered.inj (buffered.symm.trans same) ▸ closed⟩
  | .scripted _ => isFalse fun ⟨_, same, _⟩ => nomatch buffered.symm.trans same

section Shut

variable {before after : Deployment} {queue next : SubmissionQueue Actor Batch} {id : Nat}

theorem Shut.of_source (shut : before.Shut) (same : after.source = before.source) : after.Shut := by
  rcases shut with ⟨queue, buffered, closed⟩
  exact ⟨queue, same.trans buffered, closed⟩

theorem source_adopt (deployment : Deployment) (woken : List Actor)
    (queue : SubmissionQueue Actor Batch) :
    (deployment.adopt woken queue).source = .buffered queue := by
  rw [adopt_eq]

/-- The worker does not open the queue. -/
theorem WorkerTurn.isOpen_eq {progress : Progress} {woken : List Actor} {service : Service}
    {trace : Journal} (turn : WorkerTurn before queue progress woken next service trace) :
    next.isOpen = queue.isOpen := by
  have seeks {place : SubmissionQueue.Place} {result : SubmissionQueue.Catch Batch}
      {actors : List Actor} {later : SubmissionQueue Actor Batch}
      (looked : queue.seek .worker place = (result, actors, later)) :
      later.isOpen = queue.isOpen := by
    have same := queue.isOpen_seek .worker place
    rwa [looked] at same
  cases turn with
  | interrupted _ _ => exact queue.isOpen_depart .worker _
  | shutOut _ looked | waits _ looked | drainWaits _ _ looked | takes _ looked _ _ _ =>
      exact seeks looked
  | completes _ gives =>
      cases gives with
      | exhausted looked => exact seeks looked
      | timedOut _ looked => exact (SubmissionQueue.isOpen_depart _ .worker _).trans (seeks looked)
  | _ => rfl

/-- No caller opens the queue. -/
theorem CallerTurn.shut (turn : CallerTurn before queue id after)
    (buffered : before.source = .buffered queue) (shut : queue.isOpen = false) : after.Shut := by
  have adopts {later : SubmissionQueue Actor Batch} (woken : List Actor)
      (same : later.isOpen = queue.isOpen) : (before.adopt woken later).Shut :=
    ⟨later, source_adopt before woken later, same.trans shut⟩
  have attempts {begun : Bool} {batch : Batch} {submission : SubmissionQueue.Submission}
      {woken : List Actor} {later : SubmissionQueue Actor Batch}
      (tried : queue.attempt begun (.caller id) batch = (submission, woken, later)) :
      (before.adopt woken later).Shut := by
    apply adopts
    have same : (queue.attempt begun (.caller id) batch).2.2.isOpen = queue.isOpen := by
      cases begun with
      | true => exact queue.isOpen_resume _ batch
      | false => exact queue.isOpen_submit _ batch
    rwa [tried] at same
  have seeks {place : SubmissionQueue.Place} {result : SubmissionQueue.Catch Batch}
      {woken : List Actor} {later : SubmissionQueue Actor Batch}
      (looked : queue.seek (.caller id) place = (result, woken, later)) :
      later.isOpen = queue.isOpen := by
    have same := queue.isOpen_seek (.caller id) place
    rwa [looked] at same
  have told (stopFirst : Bool) : (before.toldBy stopFirst).source = .buffered queue := by
    rcases toldBy_eq before stopFirst with ⟨_, _, _, _, _, same⟩
    rw [same]
    exact buffered
  have reports {deployment : Deployment} (there : deployment.source = .buffered queue)
      (door : Door) (count : Nat) : (deployment.report id door (.ok count)).Shut := by
    rcases report_eq there id door count with ⟨_, later, _, _, closes, same⟩
    rw [same]
    exact ⟨later, rfl, closes.bringsNothing.closed shut⟩
  have still : before.Shut := ⟨queue, buffered, shut⟩
  cases turn with
  | absent _ | lingers _ _ => exact still
  | accepted _ tried | refused _ tried _ | queues _ tried =>
      exact (attempts tried).of_source rfl
  | withdraws _ => exact (adopts _ (queue.isOpen_withdraw _)).of_source rfl
  | catches _ _ looked | misses _ _ looked _ | stays _ _ looked =>
      exact (adopts _ (seeks looked)).of_source rfl
  | departs _ _ _ => exact (adopts _ (queue.isOpen_depart _ _)).of_source rfl
  | timesOut _ _ looked =>
      exact ⟨_, source_adopt _ _ _,
        (SubmissionQueue.isOpen_depart _ _ _).trans ((seeks looked).trans shut)⟩
  | @asks _ stopFirst _ _ => exact ⟨queue, told stopFirst, shut⟩
  | @joins door stopFirst count _ _ =>
      have there : ((before.toldBy stopFirst).setJob id { call := .joining door }).source =
          .buffered queue := told stopFirst
      exact reports there door count
  | learns _ _ => exact reports buffered _ _
  | letsGo _ => exact ⟨queue, told true, shut⟩
  | givesUp _ _ | sees _ _ _ => exact still.of_source rfl

/-- Nothing from outside opens the queue. -/
theorem Outside.shut (outside : Outside before queue after)
    (buffered : before.source = .buffered queue) (shut : queue.isOpen = false) : after.Shut := by
  have tries {batch : Batch} {result : Except FailureError Unit} {woken : List Actor}
      {later : SubmissionQueue Actor Batch} (tried : queue.trySubmit batch = (result, woken, later)) :
      (before.adopt woken later).Shut := by
    have same := queue.isOpen_trySubmit batch
    rw [tried] at same
    exact ⟨later, source_adopt before woken later, same.trans shut⟩
  cases outside with
  | aside _ _ _ _ | starts _ => exact ⟨queue, buffered, shut⟩
  | accepts tried | refuses tried => exact (tries tried).of_source rfl
  | closes => exact ⟨_, source_adopt before _ _, queue.isOpen_close⟩
  | stops holder _ =>
      rcases requestStop_eq { before with holder } with ⟨_, _, _, _, same⟩
      rw [same]
      exact ⟨queue, buffered, shut⟩

namespace Shut

theorem tick (shut : before.Shut) (sound : before.OnCourse) : before.tick.Shut := by
  rcases shut with ⟨queue, buffered, closed⟩
  apply tick_keeps Shut
  · exact fun _ _ kept => kept.of_source rfl
  · rcases advanceWorker_turn buffered sound.course with ⟨_, _, next, _, _, _, same, turn, _⟩
    rw [same]
    exact ⟨next, rfl, turn.isOpen_eq.trans closed⟩
  · exact fun _ => (advanceCaller_turn buffered sound.course).shut buffered closed
  · exact ⟨queue, buffered, closed⟩

theorem move {others : Bool} (shut : before.Shut) (sound : before.OnCourse)
    (move : Move others before after) : after.Shut := by
  cases move with
  | turn => exact shut.tick sound
  | begins _ _ | abort _ =>
      rw [wake_eq]
      exact shut.of_source rfl
  | act act =>
      rcases shut with ⟨queue, buffered, closed⟩
      exact (act.outside buffered).shut buffered closed

/-- A closed queue stays closed. -/
theorem reaches {others : Bool} (shut : before.Shut) (sound : before.OnCourse)
    (reaches : Reaches others before after) : after.Shut := by
  induction reaches with
  | refl => exact shut
  | tail earlier step inductionHypothesis =>
      exact inductionHypothesis.move (sound.reaches earlier) step

end Shut

end Shut

/-! ## Late submissions -/

section Late

variable {before : Deployment} {id : Nat} (shut : before.Shut) (door : Door) {draft : Draft}
  {batch : Batch} (formed : draft.build = .ok batch)
include shut formed

/-- Who does not wait is refused at once. -/
theorem submitNow_late : (before.submitNow door draft).1 = refusal door .queueClosed := by
  rcases shut with ⟨queue, buffered, closed⟩
  simp only [submitNow, buffered, formed, trySubmit_late closed]

omit formed in
/-- A submission that has not begun is refused at its turn. -/
theorem advanceCaller_late (batch : Batch)
    (known : before.job? id = some ⟨.submit door batch false, false⟩) :
    (id, door.outcome (.error .queueClosed)) ∈ (before.advanceCaller id).outcomes := by
  rcases shut with ⟨queue, buffered, closed⟩
  have refused : queue.submit (.caller id) batch = (.refused .queueClosed, [], queue.refuse) :=
    attempt_late closed (.caller id) batch
  simp only [advanceCaller, known, advanceCall, buffered, Bool.false_eq_true, if_false, refused]
  apply List.mem_append_right
  cases door <;> exact List.mem_cons_self

/-- Who would wait for a slot is refused at his first turn. -/
theorem spawnSubmission_late (sound : before.OnCourse) (numbered : Numbered id before) :
    (id, door.outcome (.error .queueClosed)) ∈
      (before.spawnSubmission id door draft).2.outcomes := by
  have begins : Move true before.settle
        ((before.settle.addJob id (.submit door batch false)).wake (.caller id)) ∧ _ :=
    begins_settled sound numbered rfl (fun _ => rfl) (by intro joins; cases joins)
  have soundSettled := sound.reaches (reaches_settle true before)
  have soundBegun := soundSettled.move begins.1
  have shutBegun := (shut.reaches sound (reaches_settle true before)).move soundSettled begins.1
  have alone : before.settle.ready = [] := settled_settle before
  have line : ((before.settle.addJob id (.submit door batch false)).wake (.caller id)).ready =
      [.caller id] := by
    rw [wake_eq]
    show lineUp before.settle.ready (.caller id) = [.caller id]
    rw [alone]
    rfl
  have known : ((before.settle.addJob id (.submit door batch false)).wake (.caller id)).job? id =
      some ⟨.submit door batch false, false⟩ := by
    have fresh := Tidy.job?_eq_none ⟨soundSettled.regular, (numbered.settle sound).2.1⟩
    rw [wake_eq]
    exact job?_addJob_self fresh _
  have same : (before.spawnSubmission id door draft).2 =
      ((before.settle.addJob id (.submit door batch false)).wake (.caller id)).settle := by
    rcases shut with ⟨queue, buffered, _⟩
    simp only [spawnSubmission, buffered, formed, spawn]
  rw [same]
  generalize (before.settle.addJob id (.submit door batch false)).wake (.caller id) = begun at *
  have turn : begun.tick = (begun.advanceCaller id).stepBack := by
    unfold tick
    rw [line]
  have refused : (id, door.outcome (.error .queueClosed)) ∈ begun.tick.outcomes := by
    rw [turn]
    exact advanceCaller_late shutBegun door batch known
  have ticks (deployment : Deployment) (course : deployment.OnCourse)
      (there : (id, door.outcome (.error .queueClosed)) ∈ deployment.outcomes) :
      (id, door.outcome (.error .queueClosed)) ∈ deployment.tick.outcomes :=
    course.regular.passes_tick.outcomes there
  rw [← settle_tick]
  exact (soundBegun.tick.keeps_settle ticks refused).2

end Late

/-! ## Who will close the queue -/

/-- The queue is closed, or whoever has the runtime will see to it.  While the runtime is
held nobody has asked for a stop. -/
inductive Covered (deployment : Deployment) : Prop where
  | held (runtime : deployment.holder = .runtime) (unasked : deployment.Unasked)
  | given {id : Nat} {job : Job} (known : deployment.job? id = some job)
      (through : job.call.door? = some .runtime) (whole : job.doomed = false)
  | shut (shut : deployment.Shut)

/-- The step ends the runtime and leaves its queue as it is: it drops the runtime, or aborts
the call to which the runtime was given. -/
inductive LetsGo (before : Deployment) : Step → Prop where
  | drop (held : before.holder = .runtime) : LetsGo before .drop
  | abort {id : Nat} {job : Job} (known : before.job? id = some job)
      (through : job.call.door? = some .runtime) : LetsGo before (.abort id)

/-- What is left when the runtime has been let go of in this way. -/
inductive Releases (before : Deployment) : Deployment → Prop where
  | drop (held : before.holder = .runtime) : Releases before before.dropHolder
  | abort {id : Nat} {job : Job} (known : before.job? id = some job)
      (through : job.call.door? = some .runtime) :
      Releases before ((before.setJob id { job with doomed := true }).wake (.caller id))

/-- Whoever held the runtime and holds nothing any more has dropped it. -/
theorem AtOnce.drops {before after : Deployment} (atOnce : AtOnce before after)
    (runtime : before.holder = .runtime) (nobody : after.holder = .nobody) :
    after = before.dropHolder := by
  have moved (same : after.holder = before.holder) : after = before.dropHolder := by
    rw [same, runtime] at nobody
    cases nobody
  cases atOnce.request with
  | drop => rfl
  | release _ _ =>
      apply moved
      rw [wakeAll_eq]
      rfl
  | cancel _ =>
      apply moved
      rw [wakeAll_eq]
  | submitNow door draft =>
      apply moved
      rcases submitNow_cases before door draft with same | ⟨_, _, _, _, _, _, _, same⟩
      · rw [same]
      · rw [same, adopt_eq]
        rfl
  | close _ =>
      apply moved
      rw [adopt_eq]
  | logStats tag =>
      apply moved
      rw [logStats_eq]
      rfl
  | start =>
      have impossible := holder_of_start nobody
      rw [runtime] at impossible
      cases impossible
  | stop _ =>
      apply moved
      exact congrArg Prod.fst before.custody_requestStop
  | watch _ => exact moved rfl

section Dealings

variable {before after : Deployment}

/-- The queue of a runtime does not change its mind. -/
theorem OnCourse.no_whim (sound : before.OnCourse) : ¬ Whim before after := by
  rcases sound.buffered with ⟨queue, buffered⟩
  intro whim
  cases whim with
  | answers _ scripted | main _ scripted _ | drain _ scripted _ =>
      rw [buffered] at scripted
      cases scripted

/-- Over the queue of a runtime a dealing is made of moves. -/
theorem Dealing.reaches (dealing : Dealing before after) (sound : before.OnCourse) :
    Reaches true before after := by
  cases dealing with
  | turn => exact .single .turn
  | @calls id call fresh new single =>
      refine .single (.begins fresh ⟨new, fun _ => rfl, ?_⟩)
      intro joins
      rw [single] at joins
      cases joins
  | @joins id door middle stopFirst given turns fresh =>
      have held := Holder.ne_nobody given
      have hands : Move true before { before with holder := .nobody } := .act (.handOver .nobody held)
      have ticks (deployment : Deployment)
          (kept : deployment.OnCourse ∧ deployment.service.state ≠ .new) :
          deployment.tick.OnCourse ∧ deployment.tick.service.state ≠ .new :=
        ⟨kept.1.tick, kept.1.tick_started kept.2⟩
      have there := turns.keeps ticks ⟨sound.move hands, sound.held held⟩
      have whole := (Relation.ReflTransGen.single hands).trans turns.reaches
      exact whole.tail (.begins fresh ⟨rfl, fun _ => rfl, fun _ => there.2⟩)
  | aborts known => exact .single (.abort known)
  | acts atOnce => exact .single (.act atOnce.act)
  | waits actors later => exact .single (.act (.clock _ actors later))
  | whims whim => exact absurd whim sound.no_whim

theorem OnCourse.reaches_of_dealings (sound : before.OnCourse) (dealings : Dealings before after) :
    Reaches true before after := by
  induction dealings with
  | refl => exact .refl
  | tail _ dealing inductionHypothesis =>
      exact inductionHypothesis.trans (dealing.reaches (sound.reaches inductionHypothesis))

theorem OnCourse.dealings (sound : before.OnCourse) (dealings : Dealings before after) :
    after.OnCourse :=
  sound.reaches (sound.reaches_of_dealings dealings)

end Dealings

namespace Covered

variable {before after : Deployment} {id : Nat}

/-- Only the holder, the calls, the request to stop and the queue decide. -/
theorem around (covered : before.Covered) (holder : after.holder = before.holder)
    (jobs : after.jobs = before.jobs) (service : after.service = before.service)
    (source : after.source = before.source) : after.Covered := by
  cases covered with
  | held runtime unasked => exact .held (holder.trans runtime) (unasked.around jobs service)
  | given known through whole =>
      exact .given ((congrArg (List.lookup _) jobs).trans known) through whole
  | shut shut => exact .shut (shut.of_source source)

/-- The call to which the runtime was given ends by closing the queue. -/
theorem advanceCaller_given (sound : before.OnCourse) {job : Job}
    (known : before.job? id = some job) (through : job.call.door? = some .runtime)
    (whole : job.doomed = false) : (before.advanceCaller id).Covered := by
  rcases sound.buffered with ⟨queue, buffered⟩
  have turn : CallerTurn before queue id (before.advanceCaller id) :=
    advanceCaller_turn buffered sound.course
  have visits : Visits before id (before.advanceCaller id) :=
    visits_advanceCaller sound.regular.lawful sound.joins
  have joins : job.call.isJoin = true := by
    rw [Call.isJoin_eq_isSome, through]
    rfl
  cases visits.visit with
  | rests jobs _ _ => exact .given ((congrArg (List.lookup id) jobs).trans known) through whole
  | @stays call later present follows jobs _ _ =>
      rw [known] at present
      cases present
      have there := (congrArg (List.lookup id) jobs).trans (job?_setJob known { call := later })
      exact .given there (follows.door?_eq.trans through) rfl
  | @ends ended outcome present concludes _ outcomes =>
      rw [known] at present
      cases present
      rcases turn.outcomes buffered with same | ⟨asked, told, present, endsWith, same⟩
      · have impossible := congrArg List.length (outcomes.symm.trans same)
        simp at impossible
      · rw [known] at present
        cases present
        have told : told = outcome := by
          have last := List.append_cancel_left (same.symm.trans outcomes)
          exact congrArg Prod.snd (List.cons.inj last).1
        subst told
        cases endsWith with
        | apart single _ =>
            rw [joins] at single
            cases single
        | drained _ _ closes => exact .shut (closes through)
        | aborted =>
            generalize given : Outcome.aborted = outcome at concludes
            cases concludes with
            | apart single =>
                rw [joins] at single
                cases single
            | aborted => cases whole
            | @told call door result _ _ _ =>
                cases door <;> cases result <;> cases given

theorem advanceCaller (covered : before.Covered) (sound : before.OnCourse) (id : Nat) :
    (before.advanceCaller id).Covered := by
  cases covered with
  | held runtime unasked =>
      exact .held ((before.holder_advanceCaller id).trans runtime)
        (unasked.advanceCaller sound.regular id)
  | shut shut =>
      rcases shut with ⟨queue, buffered, closed⟩
      exact .shut ((advanceCaller_turn buffered sound.course).shut buffered closed)
  | @given guard job known through whole =>
      by_cases own : guard = id
      · subst own
        exact advanceCaller_given sound known through whole
      · exact .given ((job?_advanceCaller_of_ne sound.regular own).trans known) through whole

theorem tick (covered : before.Covered) (sound : before.OnCourse) : before.tick.Covered := by
  have works := works_advanceWorker sound.regular.lawful
  have custody := before.custody_advanceWorker
  apply tick_keeps Covered
  · exact fun _ _ kept => kept.around rfl rfl rfl rfl
  · cases covered with
    | held runtime unasked =>
        exact .held ((holder_of_custody custody).trans runtime)
          ⟨(told_of_custody custody).trans unasked.untold, works.jobs ▸ unasked.nobody⟩
    | given known through whole =>
        exact .given ((congrArg (List.lookup _) works.jobs).trans known) through whole
    | shut shut =>
        rcases shut with ⟨queue, buffered, closed⟩
        rcases advanceWorker_turn buffered sound.course with ⟨_, _, next, _, _, _, same, turn, _⟩
        refine .shut ?_
        rw [same]
        exact ⟨next, rfl, turn.isOpen_eq.trans closed⟩
  · exact covered.advanceCaller sound
  · exact covered

theorem settle (covered : before.Covered) (sound : before.OnCourse) : before.settle.Covered :=
  (sound.keeps_settle (fun _ course kept => kept.tick course) covered).2

theorem passTime (covered : before.Covered) (sound : before.OnCourse) (remaining : Nat) :
    (Deployment.passTime remaining before).Covered := by
  have ticks (deployment : Deployment) (kept : deployment.OnCourse ∧ deployment.Covered) :
      deployment.tick.OnCourse ∧ deployment.tick.Covered :=
    ⟨kept.1.tick, kept.2.tick kept.1⟩
  have around (deployment : Deployment) (now : Nat) (ready : List Actor)
      (kept : deployment.OnCourse ∧ deployment.Covered) :
      OnCourse { deployment with now, ready } ∧ Covered { deployment with now, ready } :=
    ⟨⟨kept.1.buffered, kept.1.course, kept.1.held, kept.1.joins⟩, kept.2.around rfl rfl rfl rfl⟩
  exact (passTime_keeps ticks around ⟨sound, covered⟩ remaining).2

/-- A call that begins takes no cover away, unless it is given a runtime that is held. -/
theorem begins (covered : before.Covered) {call : Call}
    (single : before.holder = .runtime → call.isJoin = false) :
    ((before.addJob id call).wake (.caller id)).Covered := by
  cases covered with
  | held runtime unasked =>
      have kept := unasked.begins id (single runtime)
      rw [wake_eq] at kept ⊢
      exact .held runtime kept
  | given known through whole =>
      rw [wake_eq]
      exact .given (job?_addJob_of_some known) through whole
  | shut shut =>
      rw [wake_eq]
      exact .shut (shut.of_source rfl)

/-- The call to which the runtime is given covers it. -/
theorem hands (fresh : before.job? id = none) {call : Call}
    (through : call.door? = some .runtime) :
    ((before.addJob id call).wake (.caller id)).Covered := by
  rw [wake_eq]
  exact .given (job?_addJob_self fresh call) through rfl

/-- The abort of a call takes no cover away, unless the runtime was given to it. -/
theorem abort (covered : before.Covered) {other : Nat} {job : Job}
    (known : before.job? other = some job) :
    ((before.setJob other { job with doomed := true }).wake (.caller other)).Covered ∨
      job.call.door? = some .runtime := by
  cases covered with
  | held runtime unasked =>
      have kept := unasked.abort known
      rw [wake_eq] at kept ⊢
      exact Or.inl (.held runtime kept)
  | @given guard guarding found through whole =>
      by_cases own : guard = other
      · subst own
        rw [known] at found
        cases found
        exact Or.inr through
      · rw [wake_eq]
        exact Or.inl (.given ((job?_setJob_of_ne own _).trans found) through whole)
  | shut shut =>
      rw [wake_eq]
      exact Or.inl (.shut (shut.of_source rfl))

/-- An act leaves the runtime covered, unless it takes it from its holder. -/
theorem acts (covered : before.Covered) (sound : before.OnCourse) (atOnce : AtOnce before after) :
    after.Covered ∨ (before.holder = .runtime ∧ after.holder = .nobody) := by
  rcases sound.buffered with ⟨queue, buffered⟩
  have jobs := (atOnce.act.outside buffered).jobs
  cases covered with
  | held runtime unasked =>
      rcases atOnce.holder with same | nobody | new
      · have still : after.holder = .runtime := same.trans runtime
        exact Or.inl (.held still ⟨(atOnce.untold still).trans unasked.untold,
          jobs ▸ unasked.nobody⟩)
      · exact Or.inr ⟨runtime, nobody⟩
      · refine absurd new (sound.held ?_)
        rw [runtime]
        intro impossible
        cases impossible
  | given known through whole =>
      exact Or.inl (.given ((congrArg (List.lookup _) jobs).trans known) through whole)
  | shut shut =>
      have move : Move true before after := .act atOnce.act
      exact Or.inl (.shut (shut.move sound move))

/-- A dealing leaves the runtime covered, unless it lets go of it. -/
theorem dealing (covered : before.Covered) (sound : before.OnCourse)
    (dealing : Dealing before after) : after.Covered ∨ before.Releases after := by
  cases dealing with
  | turn => exact Or.inl (covered.tick sound)
  | calls _ _ single => exact Or.inl (covered.begins fun _ => single)
  | @joins id door middle stopFirst given turns fresh =>
      refine Or.inl ?_
      have handed : Act before { before with holder := .nobody } :=
        .handOver .nobody (Holder.ne_nobody given)
      -- Who has nothing to give away is covered by somebody else before and after the turns.
      have unheld (kept : Covered { before with holder := .nobody }) :
          ((middle.addJob id (.join door stopFirst)).wake (.caller id)).Covered := by
        have ticks (deployment : Deployment)
            (kept : deployment.OnCourse ∧ deployment.Covered ∧ deployment.holder = .nobody) :
            deployment.tick.OnCourse ∧ deployment.tick.Covered ∧
              deployment.tick.holder = .nobody :=
          ⟨kept.1.tick, kept.2.1.tick kept.1, deployment.holder_tick.trans kept.2.2⟩
        have there := turns.keeps ticks ⟨sound.act handed, kept, rfl⟩
        apply there.2.1.begins
        intro runtime
        rw [there.2.2] at runtime
        cases runtime
      cases covered with
      | held runtime _ =>
          rw [runtime] at given
          cases given
          exact hands (job?_of_fresh fresh) rfl
      | given known through whole => exact unheld (.given known through whole)
      | shut shut => exact unheld (.shut (shut.of_source rfl))
  | aborts known =>
      rcases covered.abort known with kept | through
      · exact Or.inl kept
      · exact Or.inr (.abort known through)
  | acts atOnce =>
      rcases covered.acts sound atOnce with kept | ⟨runtime, nobody⟩
      · exact Or.inl kept
      · rw [atOnce.drops runtime nobody]
        exact Or.inr (.drop runtime)
  | waits actors _ =>
      rw [wakeAll_eq]
      exact Or.inl (covered.around rfl rfl rfl rfl)
  | whims whim => exact absurd whim sound.no_whim

/-- Whatever has been dealt, the runtime is covered, unless it has been let go of. -/
theorem dealings (covered : before.Covered) (sound : before.OnCourse)
    (dealings : Dealings before after) :
    after.Covered ∨ ∃ middle later, Dealings before middle ∧ middle.Releases later ∧
      Dealings later after := by
  induction dealings with
  | refl => exact Or.inl covered
  | @tail middle after earlier dealing inductionHypothesis =>
      rcases inductionHypothesis with kept | ⟨first, later, begins, releases, rest⟩
      · rcases kept.dealing (sound.dealings earlier) dealing with kept | releases
        · exact Or.inl kept
        · exact Or.inr ⟨middle, after, earlier, releases, .refl⟩
      · exact Or.inr ⟨first, later, begins, releases, rest.tail dealing⟩

/-- A step leaves the runtime covered, unless it lets go of it. -/
theorem taken (covered : before.Covered) (sound : before.OnCourse)
    (numbered : Numbered id before) {step : Step} (taken : Taken before id step after) :
    after.Covered ∨ before.LetsGo step := by
  cases taken with
  | acts atOnce lets =>
      rcases covered.acts sound atOnce with kept | ⟨runtime, nobody⟩
      · exact Or.inl kept
      · rcases lets nobody with impossible | drop
        · rw [runtime] at impossible
          cases impossible
        · exact Or.inr (drop ▸ .drop runtime)
  | settles => exact Or.inl (covered.settle sound)
  | advances duration =>
      have settled := sound.reaches (reaches_settle true before)
      exact Or.inl ((covered.settle sound).passTime settled duration)
  | aborts asked known =>
      have move : Move true before _ := .abort known
      rcases covered.abort known with kept | through
      · exact Or.inl (kept.settle (sound.move move))
      · exact Or.inr (asked ▸ .abort known through)
  | @begins call new _ _ single =>
      have owned (joins : call.isJoin = true) : before.service.state ≠ .new := by
        rw [single] at joins
        cases joins
      have begins := begins_settled sound numbered new (fun _ => rfl) owned
      have soundBegun := (sound.reaches (reaches_settle true before)).move begins.1
      exact Or.inl (((covered.settle sound).begins fun _ => single).settle soundBegun)
  | @joins door stopFirst given _ =>
      have held := Holder.ne_nobody given
      have handed : Act before { before with holder := .nobody } := .handOver .nobody held
      have soundHanded := sound.act handed
      have numberedHanded := numbered.act sound handed
      have new : (Call.join door stopFirst).isNew = true := rfl
      have begins : Move true _ _ ∧ _ := begins_settled soundHanded numberedHanded new
        (fun _ => rfl) fun _ => sound.held held
      have soundSettled := soundHanded.reaches (reaches_settle true _)
      refine Or.inl (settle ?_ (soundSettled.move begins.1))
      have unheld (kept : Covered { before with holder := .nobody }) :
          ((({ before with holder := .nobody } : Deployment).settle.addJob id
            (.join door stopFirst)).wake (.caller id)).Covered := by
        apply (kept.settle soundHanded).begins
        intro runtime
        rw [holder_settle] at runtime
        cases runtime
      cases covered with
      | held runtime unasked =>
          have through : door = .runtime := by
            rw [runtime] at given
            cases given
            rfl
          subst through
          exact hands (Tidy.job?_eq_none
            ⟨soundSettled.regular, (numberedHanded.settle soundHanded).2.1⟩) rfl
      | given known through whole => exact unheld (.given known through whole)
      | shut shut => exact unheld (.shut (shut.of_source rfl))

/-- A run leaves the runtime covered, unless one of its steps lets go of it. -/
theorem run (covered : before.Covered) (sound : before.OnCourse) (numbered : Numbered id before)
    (steps : List (Option Step)) :
    (before.run id steps).2.Covered ∨ ∃ earlier step later,
      steps = earlier ++ some step :: later ∧ (before.run id earlier).2.LetsGo step := by
  induction steps generalizing id before with
  | nil => exact Or.inl covered
  | cons step rest inductionHypothesis =>
      -- A step that lets go in the rest of the run does so in the whole run.
      have further {middle : Deployment} (first : ∀ later, (before.run id (step :: later)).2 =
            (middle.run (id + 1) later).2)
          (kept : middle.Covered) (course : middle.OnCourse) (bound : Numbered (id + 1) middle) :
          (before.run id (step :: rest)).2.Covered ∨ ∃ earlier step' later,
            step :: rest = earlier ++ some step' :: later ∧
              (before.run id earlier).2.LetsGo step' := by
        rcases inductionHypothesis kept course bound with
          kept | ⟨earlier, step', later, split, letsGo⟩
        · exact Or.inl (first rest ▸ kept)
        · refine Or.inr ⟨step :: earlier, step', later, ?_, first earlier ▸ letsGo⟩
          rw [split, List.cons_append]
      cases step with
      | none => exact further (fun _ => rfl) covered sound (numbered.mono (Nat.le_succ id))
      | some step =>
          have taken : Taken before id step (before.take id step).2 := take_taken id step
          have reaches : Reaches true before _ ∧ _ := taken.reaches sound numbered fun _ => rfl
          rcases covered.taken sound numbered taken with kept | letsGo
          · exact further (fun _ => rfl) kept (sound.reaches reaches.1) reaches.2
          · exact Or.inr ⟨[], step, rest, rfl, letsGo⟩

end Covered

/-! ## Dead runtimes -/

/-- The queue refuses whatever is submitted, through a runtime or to the queue itself, and
whether or not the submitter would wait for a slot. -/
structure Refuses (deployment : Deployment) (id : Nat) : Prop where
  shut : deployment.Shut
  atOnce : ∀ door draft batch, draft.build = .ok batch →
    (deployment.submitNow door draft).1 = refusal door .queueClosed
  waiting : ∀ door draft batch, draft.build = .ok batch →
    (id, door.outcome (.error .queueClosed)) ∈ (deployment.spawnSubmission id door draft).2.outcomes

theorem Shut.refuses {deployment : Deployment} {id : Nat} (shut : deployment.Shut)
    (sound : deployment.OnCourse) (numbered : Numbered id deployment) : deployment.Refuses id :=
  ⟨shut, fun door _ _ formed => submitNow_late shut door formed,
    fun door _ _ formed => spawnSubmission_late shut door formed sound numbered⟩

/-- Where the service has ended and nobody has anything to do, whoever covered the runtime has
closed its queue. -/
theorem Covered.shut_of_settled {deployment : Deployment} (covered : deployment.Covered)
    (sound : deployment.OnCourse) (heeded : deployment.Heeded) (settled : deployment.Settled)
    (ended : deployment.service.state.isTerminal = true) : deployment.Shut := by
  have gone := sound.course.lawful.isGone_of_isTerminal ended
  cases covered with
  | held _ unasked =>
      have going := sound.course.isGone_eq unasked.untold
      rw [gone] at going
      cases going
  | given known through _ =>
      have joins := (Call.isJoin_eq_isSome _).trans (congrArg Option.isSome through)
      have stands := heeded _ _ known joins fun _ => gone
      rw [show deployment.ready = [] from settled] at stands
      cases stands
  | shut shut => exact shut

/-- A runtime begins on course and covered, and whatever is reached from it heeds the calls
that wait. -/
theorem covered_of_assembled {settings : Settings} {registry : HandlerRegistry}
    {acknowledger : Script} {origin : Deployment}
    (assembled : assemble settings registry acknowledger = .ok origin) :
    origin.OnCourse ∧ origin.Covered ∧ Numbered 0 origin ∧
      ∀ reached, Reaches true origin reached → reached.Heeded := by
  rcases eq_of_assemble assembled with ⟨waits, same⟩
  rcases (unstarted_prepared settings registry acknowledger).announced waits settings with
    ⟨hosted, reachesOrigin, numbered⟩
  rw [← same] at hosted reachesOrigin numbered
  rcases hosted.supervised with ⟨_, supervised⟩
  have runtime := held_of_assemble assembled
  have held : origin.holder ≠ .nobody := by
    rw [runtime]
    intro impossible
    cases impossible
  refine ⟨supervised.undisturbed.sound, .held runtime (supervised.overseen.unasked held),
    numbered, fun reached reaches => ?_⟩
  have evolves := (evolves_of_reaches reachesOrigin).trans (evolves_of_reaches reaches)
  exact (untouched_prepared settings registry acknowledger).heeded evolves

/-- A runtime whose service has ended has a queue that is closed for good and refuses every
later submission, unless somebody dropped the runtime or aborted the call that was to shut it
down, at whatever point of its progress.  In a run that is one of the steps. -/
theorem closed_unless_let_go {settings : Settings} {registry : HandlerRegistry}
    {acknowledger : Script} {origin : Deployment}
    (assembled : assemble settings registry acknowledger = .ok origin) :
    (∀ reached, Dealings origin reached → reached.Settled →
      reached.service.state.isTerminal = true →
        (∀ later, Dealings reached later →
            later.Shut ∧ ∀ id, Numbered id later → later.Refuses id) ∨
          ∃ before after, Dealings origin before ∧ before.Releases after ∧
            Dealings after reached) ∧
    ∀ steps : List (Option Step), (origin.run 0 steps).2.Settled →
      (origin.run 0 steps).2.service.state.isTerminal = true →
        (∀ later, (origin.run 0 (steps ++ later)).2.Refuses (steps ++ later).length) ∨
          ∃ earlier step later, steps = earlier ++ some step :: later ∧
            (origin.run 0 earlier).2.LetsGo step := by
  rcases covered_of_assembled assembled with ⟨sound, begins, numbered, heeded⟩
  constructor
  · intro reached dealings settled ended
    have course := sound.dealings dealings
    rcases begins.dealings sound dealings with covered | released
    · have heeds := heeded _ (sound.reaches_of_dealings dealings)
      have shut := covered.shut_of_settled course heeds settled ended
      refine Or.inl fun later further => ?_
      have shutThere := shut.reaches course (course.reaches_of_dealings further)
      exact ⟨shutThere, fun id below => shutThere.refuses (course.dealings further) below⟩
    · exact Or.inr released
  · intro steps settled ended
    have reaches : Reaches true origin _ ∧ _ :=
      reaches_run_numbered sound numbered steps fun _ _ _ => rfl
    have course := sound.reaches reaches.1
    rcases begins.run sound numbered steps with covered | letsGo
    · have shut := covered.shut_of_settled course (heeded _ reaches.1) settled ended
      refine Or.inl fun later => ?_
      have further : Reaches true (origin.run 0 steps).2 _ ∧ _ :=
        reaches_run_numbered course reaches.2 later fun _ _ _ => rfl
      rw [run_append, List.length_append]
      rw [Nat.zero_add] at further ⊢
      exact (shut.reaches course further.1).refuses (course.reaches further.1) further.2
    · exact Or.inr letsGo

/-- A runtime is shut down, and the call has time to return. -/
def shutDown : List (Option Step) := [some .shutdown, some (.advance 100)]

/-- A runtime is given to the call that is to shut it down. -/
def shutdownGiven : Deployment :=
  (({ slowRuntime with holder := .nobody }).addJob 0 (.join .runtime true)).wake (.caller 0)

/-- The call is aborted before it has had a turn, and the service has time to end. -/
def shutdownUnpolled : Deployment :=
  passTime 100
    ((shutdownGiven.setJob 0 { call := .join .runtime true, doomed := true }).wake
      (.caller 0)).settle

theorem dealings_shutdownUnpolled : Dealings slowRuntime shutdownUnpolled := by
  have given : Dealing slowRuntime shutdownGiven := .joins true rfl .refl (by decide +kernel)
  have known : shutdownGiven.job? 0 = some { call := .join .runtime true } := by decide +kernel
  exact (((Relation.ReflTransGen.single given).tail (.aborts known)).trans
    (dealings_settle _)).trans (dealings_passTime 100 _)

/-- Nobody lets go of a runtime that is shut down, so it accepts nothing any more.  Where the
queue is found open somebody has let go of the runtime, if only before its call had a turn. -/
theorem closed_unless_let_go_shutDown :
    (((slowRuntime.run 0 shutDown).2.Settled ∧
        (slowRuntime.run 0 shutDown).2.service.state.isTerminal = true) ∧
      ∀ later, (slowRuntime.run 0 (shutDown ++ later)).2.Refuses (shutDown ++ later).length) ∧
    (Dealings slowRuntime shutdownUnpolled ∧ shutdownUnpolled.Settled ∧
        shutdownUnpolled.service.state.isTerminal = true) ∧
      ∃ before after, Dealings slowRuntime before ∧ before.Releases after ∧
        Dealings after shutdownUnpolled := by
  rcases closed_unless_let_go assembled_slowRuntime with ⟨dealt, ran⟩
  constructor
  · have settled : (slowRuntime.run 0 shutDown).2.Settled := by decide +kernel
    have ended : (slowRuntime.run 0 shutDown).2.service.state.isTerminal = true := by
      decide +kernel
    refine ⟨⟨settled, ended⟩, ?_⟩
    rcases ran shutDown settled ended with refuses | ⟨earlier, step, later, split, letsGo⟩
    · exact refuses
    · have member : some step ∈ shutDown := by
        rw [split]
        exact List.mem_append_right earlier List.mem_cons_self
      simp only [shutDown, List.mem_cons, Option.some.injEq, List.not_mem_nil, or_false] at member
      rcases member with same | same <;>
        (rw [same] at letsGo; cases letsGo)
  · have settled : shutdownUnpolled.Settled := by decide +kernel
    have ended : shutdownUnpolled.service.state.isTerminal = true := by decide +kernel
    refine ⟨⟨dealings_shutdownUnpolled, settled, ended⟩, ?_⟩
    rcases dealt shutdownUnpolled dealings_shutdownUnpolled settled ended with closed | released
    · have still : ¬ shutdownUnpolled.Shut := by decide +kernel
      exact absurd (closed shutdownUnpolled .refl).1 still
    · exact released

/-- A runtime is dropped, and its service has time to end. -/
def dropped : List (Option Step) := [some .drop, some (.advance 100)]

/-- The service of a runtime can end with its queue open: it has terminated, and a batch is
accepted that nobody will ever take. -/
theorem accepted_after_the_end :
    assemble { shutdownAwait := 50, queueCapacity := 1 }
        { handlers := gated.service.handlers } ⟨[]⟩ = .ok slowRuntime ∧
      (slowRuntime.run 0 dropped).2.Settled ∧
      (slowRuntime.run 0 dropped).2.service.state = .terminated ∧
      ¬ (slowRuntime.run 0 dropped).2.Shut ∧
      (slowRuntime.run 0 dropped).2.journal.accepted = [] ∧
      (slowRuntime.run 0 (dropped ++ [some (.trySubmit .single)])).2.journal.accepted.length = 1 := by
  refine ⟨rfl, ?_, ?_, ?_, ?_, ?_⟩ <;> decide +kernel

end Deployment
end FailureDispatch

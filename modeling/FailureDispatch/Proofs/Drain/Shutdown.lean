import FailureDispatch.Proofs.Course.Beside
import FailureDispatch.Proofs.Window.Clock

/-!
# What a shutdown leaves behind

The call that shuts a runtime down waits for the worker and closes the queue afterwards,
at a turn of its own.  So there are two moments: the turn with which the worker ends, and
the turn with which the call returns.  By the first everything that has been accepted has
been dispatched and nobody waits for a slot.  Between the two the queue is still open, and
whatever it accepts then is never dispatched.

The first rests on the order of turns.  A drain that has had its time is woken alone, so it
has the next turn (`Foremost`), and until then nobody is granted a slot.  That somebody has
called meanwhile, or offered a batch without waiting, does no harm, because the drain finds
the batch.  The clock may not move before everybody has acted; nothing else is assumed of
those who act.
-/

namespace FailureDispatch

/-! ## Slots that nobody releases -/

/-- Asking for a permit grants none. -/
theorem Permits.granted_ask {ι : Type} [DecidableEq ι] {permits : Permits ι}
    (ungranted : permits.granted = []) (who : ι) : (permits.ask who).2.granted = [] := by
  have nothing : who ∉ permits.granted := ungranted ▸ List.not_mem_nil
  rw [ask, if_neg nothing]
  split
  · exact ungranted
  · split <;> exact ungranted

/-- Who stops waiting without having been granted a permit passes none on. -/
theorem Permits.granted_leave {ι : Type} [DecidableEq ι] {permits : Permits ι}
    (ungranted : permits.granted = []) (who : ι) : (permits.leave who).2.granted = [] := by
  have nothing : who ∉ permits.granted := ungranted ▸ List.not_mem_nil
  rw [leave, if_neg nothing]
  exact ungranted

namespace Deployment

variable {origin before after last ended reached : Deployment}
  {queue next : SubmissionQueue Actor Batch} {count : Nat}

/-- Where nobody takes a batch, submitters are granted nothing. -/
theorem SubmitterActs.ungranted {who : Actor} {woken : List Actor}
    (acts : SubmitterActs queue who woken next) (ungranted : queue.slots.granted = []) :
    next.slots.granted = [] := by
  have resumes (batch : Batch) : (queue.resume who batch).2.2.slots.granted = [] := by
    have asked := Permits.granted_ask ungranted who
    unfold SubmissionQueue.resume
    split
    · next slots same =>
      rw [same] at asked
      exact asked
    · next slots same =>
      rw [same] at asked
      exact asked
  cases acts with
  | nothing => exact ungranted
  | @attempts begun batch _ _ _ tried =>
      have same : next = (queue.attempt begun who batch).2.2 := by rw [tried]
      rw [same]
      cases begun with
      | true => exact resumes batch
      | false =>
          simp only [SubmissionQueue.attempt, Bool.false_eq_true, if_false, SubmissionQueue.submit]
          split
          · exact resumes batch
          · exact ungranted
  | withdraws =>
      rcases SubmissionQueue.rouseIfExhausted_eq
        { queue with slots := (queue.slots.leave who).2 } with ⟨sleeper, same⟩
      have left : (queue.withdraw who).2 =
          { queue with slots := (queue.slots.leave who).2, sleeper } := same
      rw [left]
      exact Permits.granted_leave ungranted who
  | closes =>
      rcases queue.close_eq with ⟨sleeper, same⟩
      rw [same]
      exact ungranted

/-- Nothing from outside grants a slot. -/
theorem Undisturbed.act_ungranted (undisturbed : before.Undisturbed queue) (act : Act before after)
    (buffered : after.source = .buffered next) (ungranted : queue.slots.granted = []) :
    next.slots.granted = [] := by
  rcases (act.outside undisturbed.buffered).serves undisturbed.buffered
    undisturbed.claimed.roomy with ⟨later, source, _, serves⟩
  rw [buffered] at source
  cases source
  apply List.eq_nil_iff_forall_not_mem.mpr
  intro actor member
  rcases serves.granted actor member with earlier | nobody
  · rw [ungranted] at earlier
    cases earlier
  · cases nobody

/-! ## A drain that has had its time -/

/-- The drain looks at the queue, and its time is up. -/
def Overdue (deployment : Deployment) : Prop :=
  ∃ count deadline place,
    deployment.service.worker = .drainFetching count deadline (.queued place) ∧
      deadline ≤ deployment.now

/-- A drain whose time is up has the next turn, and nobody is about to take a slot. -/
def Foremost (deployment : Deployment) (queue : SubmissionQueue Actor Batch) : Prop :=
  deployment.Overdue → deployment.ready.head? = some .worker ∧ queue.slots.granted = []

namespace Foremost

variable (foremost : before.Foremost queue)
include foremost

/-- Whoever has a turn, no drain is overdue afterwards: it has had the turn itself. -/
theorem tick (undisturbed : before.Undisturbed queue) (waits : 0 < before.service.drainWait) :
    ¬ before.tick.Overdue := by
  have turned := tick_turned undisturbed.buffered undisturbed.sound.course
  have still := now_tick undisturbed.sound
  rintro ⟨count, deadline, place, there, due⟩
  rw [still] at due
  have first (here : before.service.worker = .drainFetching count deadline (.queued place)) :
      before.ready.head? = some .worker := (foremost ⟨count, deadline, place, here, due⟩).1
  generalize before.tick = after at turned there
  cases turned with
  | nobody line =>
      have impossible := first there
      rw [line] at impossible
      cases impossible
  | @worker _ progress _ _ service _ _ _ turn =>
      have here : service.worker = .drainFetching count deadline (.queued place) := by
        cases progress <;> exact there
      exact absurd due (Nat.not_le_of_lt (turn.early waits here))
  | caller line turn =>
      have impossible := first ((turn.worker_eq undisturbed.buffered).symm.trans there)
      rw [line] at impossible
      cases impossible

/-- Nobody overtakes the drain by being woken. -/
theorem grows (beside : Beside before after) (still : after.now = before.now)
    (serves : queue.slots.granted = [] → next.slots.granted = []) : after.Foremost next := by
  rintro ⟨count, deadline, place, there, due⟩
  rw [still] at due
  rcases foremost ⟨count, deadline, place, beside.worker.symm.trans there, due⟩ with
    ⟨first, ungranted⟩
  refine ⟨?_, serves ungranted⟩
  rcases beside.grows with ⟨woken, ready⟩
  cases line : before.ready with
  | nil =>
      rw [line] at first
      cases first
  | cons head rest =>
      rw [line] at first
      rcases lineUpAll_cons head rest woken with ⟨others, same⟩
      rw [ready, line, same]
      exact first

theorem moves (undisturbed : before.Undisturbed queue) (waits : 0 < before.service.drainWait)
    (move : Move false before after) (still : after.now = before.now)
    (buffered : after.source = .buffered next) : after.Foremost next := by
  have same (kept : after.source = before.source) (none : queue.slots.granted = []) :
      next.slots.granted = [] := by
    rw [kept, undisturbed.buffered] at buffered
    cases buffered
    exact none
  cases move with
  | turn => exact fun overdue => absurd overdue (foremost.tick undisturbed waits)
  | begins _ _ =>
      refine foremost.grows (beside_begins _ _) still (same ?_)
      rw [wake_eq]
      rfl
  | abort _ =>
      refine foremost.grows (beside_abort _ _) still (same ?_)
      rw [wake_eq]
      rfl
  | act act =>
      rcases beside_act act with ⟨new, started⟩ | beside
      · rintro ⟨count, deadline, place, there, _⟩
        have starts : Outside before queue before.start.2 := start_outside
        rw [started] at there
        rcases (starts.bypasses undisturbed.sound undisturbed.buffered).worker with
          kept | ⟨_, fresh⟩
        · rw [kept, (undisturbed.sound.course.idle_of_new new).1] at there
          cases there
        · rw [fresh] at there
          cases there
      · exact foremost.grows beside still (undisturbed.act_ungranted act buffered)

/-- Where nobody can act, a drain has time left. -/
theorem early (settled : before.Settled) {count deadline : Nat} {place : SubmissionQueue.Place}
    (here : before.service.worker = .drainFetching count deadline (.queued place)) :
    before.now < deadline := by
  apply Nat.lt_of_not_le
  intro due
  have impossible := (foremost ⟨count, deadline, place, here, due⟩).1
  rw [show before.ready = [] from settled] at impossible
  cases impossible

/-- A drain whose time runs out is woken alone. -/
theorem rings (undisturbed : before.Undisturbed queue) (settled : before.Settled) {time : Nat}
    (alarm : before.nextAlarm? = some time) : (before.ring time).Foremost queue := by
  have nobody : before.ready = [] := settled
  rw [ring, wakeAll_eq]
  rintro ⟨count, deadline, place, here, _⟩
  rcases undisturbed.sole.alarm here (foremost.early settled here) with ⟨due, alone⟩
  rw [alarm] at due
  cases due
  refine ⟨?_, ?_⟩
  · simp only [nobody, alone]
    rfl
  · apply List.eq_nil_iff_forall_not_mem.mpr
    intro actor member
    have stands := undisturbed.attended.granted actor member
    rw [nobody] at stands
    cases stands

theorem beat (undisturbed : before.Undisturbed queue) (waits : 0 < before.service.drainWait)
    (beat : Beat before after) (buffered : after.source = .buffered next) :
    after.Foremost next := by
  cases beat with
  | acts _ alone still => exact foremost.moves undisturbed waits alone still buffered
  | @rings time settled alarm =>
      have source : (before.ring time).source = .buffered queue := by
        rw [ring, wakeAll_eq]
        exact undisturbed.buffered
      rw [buffered] at source
      cases source
      exact foremost.rings undisturbed settled alarm
  | @passes time settled _ short =>
      rintro ⟨count, deadline, place, here, due⟩
      rcases undisturbed.sole.alarm here (foremost.early settled here) with ⟨alarm, _⟩
      exact absurd due (Nat.not_le_of_lt (short deadline alarm))

/-- A drain ends only when it has found the queue empty, and nobody waits for a slot then. -/
theorem completes (undisturbed : before.Undisturbed queue) {deadline : Nat}
    {place : SubmissionQueue.Place} {woken : List Actor}
    (here : before.service.worker = .drainFetching count deadline (.queued place))
    (gives : Gives queue place (deadline ≤ before.now) woken next) :
    next.buffer = [] ∧ next.slots.claimants = [] := by
  have seated := undisturbed.seated
  unfold Seated at seated
  rw [here] at seated
  rcases gives.alone seated with ⟨_, ⟨sleeper, left⟩, empty, reason⟩
  have quiet : queue.slots.isQuiet = true := by
    rcases reason with exhausted | due
    · simp only [SubmissionQueue.mayReceive, Bool.or_eq_false_iff, Bool.not_eq_false'] at exhausted
      exact exhausted.2
    · exact undisturbed.claimed.roomy.isQuiet empty (foremost ⟨count, deadline, place, here, due⟩).2
  rw [left]
  exact ⟨empty, SubmissionQueue.isQuiet_iff.mp quiet⟩

/-- The worker ends at a turn of its own, with a drain that is over. -/
theorem ends (undisturbed : before.Undisturbed queue) (move : Move false before after)
    (going : before.service.worker.isGone = false) (gone : after.service.worker.isGone = true) :
    ∃ next, after.source = .buffered next ∧ next.buffer = [] ∧ next.slots.claimants = [] := by
  have moved : after.service.worker ≠ before.service.worker := by
    intro same
    rw [same, going] at gone
    cases gone
  rcases move.beside with same | ⟨_, same⟩ | beside
  · have turned := tick_turned undisturbed.buffered undisturbed.sound.course
    rw [← same] at turned
    cases turned with
    | nobody _ => exact absurd rfl moved
    | caller _ turn => exact absurd (turn.worker_eq undisturbed.buffered) moved
    | @worker _ progress _ later service _ _ _ turn =>
        have ended : service.worker.isGone = true := by cases progress <;> exact gone
        rcases turn.completes_of_ends going ended with ⟨_, _, _, _, here, gives, _⟩
        have clear := foremost.completes undisturbed here gives
        cases progress <;> exact ⟨later, rfl, clear⟩
  · have starts : Outside before queue before.start.2 := start_outside
    rw [same] at gone
    rw [starts.isGone gone] at going
    cases going
  · exact absurd beside.worker moved

end Foremost

/-! ## After the worker -/

/-- The worker has ended when the dispatch of the given batches had begun, and nobody is going
to be granted a slot. -/
structure Deserted (deployment : Deployment) (queue : SubmissionQueue Actor Batch) (count : Nat)
    (begun : List Batch) : Prop where
  worker : deployment.service.worker = .done count
  begun : deployment.journal.begun = begun
  ungranted : queue.slots.granted = []

namespace Deserted

variable {begun : List Batch} (deserted : before.Deserted queue count begun)
include deserted

theorem isGone : before.service.worker.isGone = true := by
  rw [deserted.worker]
  rfl

/-- Only those who take batches could grant a slot. -/
theorem stays_ungranted (undisturbed : before.Undisturbed queue) (move : Move false before after)
    (buffered : after.source = .buffered next) : next.slots.granted = [] := by
  have same (kept : after.source = before.source) : next.slots.granted = [] := by
    rw [kept, undisturbed.buffered] at buffered
    cases buffered
    exact deserted.ungranted
  cases move with
  | turn =>
      have turned := tick_turned undisturbed.buffered undisturbed.sound.course
      generalize before.tick = after at turned buffered same
      cases turned with
      | nobody _ => exact same rfl
      | @worker _ progress _ later _ _ _ _ turn =>
          have kept := (turn.rests_of_gone deserted.isGone).1
          have source : later = next := by cases progress <;> exact Source.buffered.inj buffered
          rw [← source, kept]
          exact deserted.ungranted
      | caller _ turn =>
          rcases undisturbed.sole.acts turn undisturbed.buffered with ⟨_, later, source, acts⟩
          have there := Source.buffered.inj (source.symm.trans buffered)
          exact there ▸ acts.ungranted deserted.ungranted
  | begins _ _ | abort _ =>
      apply same
      rw [wake_eq]
      rfl
  | act act => exact undisturbed.act_ungranted act buffered deserted.ungranted

/-- A worker that has ended dispatches nothing more. -/
theorem move (undisturbed : before.Undisturbed queue) (move : Move false before after)
    (buffered : after.source = .buffered next) : after.Deserted next count begun := by
  have ungranted := deserted.stays_ungranted undisturbed move buffered
  cases move.befalls with
  | elsewhere elsewhere =>
      rcases elsewhere.journal with ⟨trace, others, journal⟩
      refine ⟨elsewhere.worker.trans deserted.worker, ?_, ungranted⟩
      rw [journal, Journal.begun_append, others.begun_eq, List.append_nil]
      exact deserted.begun
  | starts new =>
      have idle := (undisturbed.sound.course.idle_of_new new).1
      rw [deserted.worker] at idle
      cases idle
  | worker line =>
      rcases advanceWorker_turn undisturbed.buffered undisturbed.sound.course with
        ⟨progress, _, _, service, _, trace, same, turn, _⟩
      rcases turn.rests_of_gone deserted.isGone with ⟨_, kept, silent⟩
      rw [tick_of_worker line, same, kept, silent]
      cases progress <;>
        exact ⟨deserted.worker, (congrArg _ (List.append_nil _)).trans deserted.begun, ungranted⟩

theorem reaches (undisturbed : before.Undisturbed queue) (reaches : Reaches false before after) :
    ∃ next, after.Undisturbed next ∧ after.Deserted next count begun := by
  induction reaches with
  | refl => exact ⟨queue, undisturbed, deserted⟩
  | tail _ move inductionHypothesis =>
      rcases inductionHypothesis with ⟨middle, there, kept⟩
      rcases there.move move with ⟨next, undisturbedNext⟩
      exact ⟨next, undisturbedNext, kept.move there move undisturbedNext.buffered⟩

end Deserted

/-! ## The two moments -/

/-- The turn with which the worker of a service ends.  Whatever has been accepted by then has
been dispatched, each batch to its end, and nobody waits for a slot. -/
structure Completes (staff : Staff) (origin last ended : Deployment) (count : Nat) : Prop where
  earlier : Beats origin last
  beat : Beat last ended
  going : last.service.worker.isGone = false
  worker : ended.service.worker = .done count
  emptied : ∃ queue, ended.source = .buffered queue ∧ queue.buffer = []
  nobody : ∀ entry ∈ ended.jobs, entry.2.call.waitsForSlot = false
  begun : ended.journal.begun = ended.journal.accepted
  dispatches : ended.journal.dispatches = (staff.serveAll ended.journal.accepted).trace
  /-- Whoever has waited for a slot, also while the drain went on, has had his batch accepted
  unless he was aborted. -/
  followed : ∀ before number door batch doomed, Beats origin before → Beats before ended →
    (number, ⟨.submit door batch true, doomed⟩) ∈ before.jobs →
      (number, .aborted) ∈ ended.outcomes ∨ batch ∈ ended.journal.accepted

/-- What a service leaves whose worker has ended and whose queue has been closed since. -/
structure LeavesBehind (ended closed : Deployment) (count : Nat) : Prop where
  worker : closed.service.worker = .done count
  terminated : closed.service.state = .terminated
  shut : closed.Shut
  begun : closed.journal.begun = ended.journal.begun
  dispatches : closed.journal.dispatches = ended.journal.dispatches
  /-- The buffer holds what has been accepted since the worker ended, and nothing else.  If that
  is nothing, nobody waits for a slot. -/
  left : ∃ queue, closed.source = .buffered queue ∧
    closed.journal.accepted = ended.journal.accepted ++ queue.buffer ∧
    (queue.buffer = [] → ∀ entry ∈ closed.jobs, entry.2.call.waitsForSlot = false)
  /-- Nobody will ever dispatch it. -/
  forever : ∀ later, Beats closed later → later.Shut ∧ later.journal.begun = ended.journal.begun

section Moments

theorem reaches_of_beats (beats : Beats before after) : Reaches false before after :=
  Relation.ReflTransGen.mono (fun _ _ => Beat.move) _ _ beats

/-- A worker that has ended did so at some beat. -/
theorem exists_end (beats : Beats origin reached) (going : origin.service.worker.isGone = false)
    (gone : reached.service.worker.isGone = true) :
    ∃ last ended, Beats origin last ∧ Beat last ended ∧ Beats ended reached ∧
      last.service.worker.isGone = false ∧ ended.service.worker.isGone = true := by
  induction beats with
  | refl =>
      rw [going] at gone
      cases gone
  | @tail before after earlier beat inductionHypothesis =>
      cases already : before.service.worker.isGone with
      | false => exact ⟨before, after, earlier, beat, .refl, already, gone⟩
      | true =>
          rcases inductionHypothesis already with ⟨last, ended, first, ends, rest, kept⟩
          exact ⟨last, ended, first, ends, rest.tail beat, kept⟩

/-- A call that was given the service returns with the count of the drain, and a runtime is
closed then. -/
theorem returns_drained (undisturbed : before.Undisturbed queue) (move : Move false before after)
    {id : Nat} {job : Job} {outcome : Outcome} (known : before.job? id = some job)
    (joins : job.call.isJoin = true)
    (returned : after.outcomes = before.outcomes ++ [(id, outcome)]) (whole : outcome ≠ .aborted) :
    ∃ count, outcome = .drained count ∧ before.service.worker = .done count ∧
      (job.call.door? = some .runtime → after.Shut) := by
  have something (same : after.outcomes = before.outcomes) : False := by
    rw [same] at returned
    exact List.cons_ne_nil _ _ (List.self_eq_append_right.mp returned)
  cases move with
  | begins _ _ | abort _ =>
      rw [wake_eq] at something
      exact (something rfl).elim
  | act act => exact (something (act.outside undisturbed.buffered).outcomes).elim
  | turn =>
      have turned := tick_turned undisturbed.buffered undisturbed.sound.course
      generalize before.tick = after at turned returned something
      cases turned with
      | nobody _ => exact (something rfl).elim
      | @worker _ progress _ _ _ _ _ _ _ =>
          exact (something (by cases progress <;> rfl)).elim
      | @caller caller _ reached _ turn =>
          rcases turn.outcomes undisturbed.buffered with
            same | ⟨other, last, present, endsWith, outcomes⟩
          · exact (something same).elim
          · have last := List.append_cancel_left (outcomes.symm.trans returned)
            cases last
            rw [known] at present
            cases present
            cases endsWith with
            | apart single _ =>
                rw [joins] at single
                cases single
            | aborted => exact absurd rfl whole
            | drained _ ended closes => exact ⟨_, rfl, ended, closes⟩

namespace Unstarted

variable (unstarted : origin.Unstarted)
include unstarted

theorem foremost (waits : 0 < origin.service.drainWait) (beats : Beats origin reached) :
    ∃ queue, reached.Undisturbed queue ∧ reached.Foremost queue := by
  have sound := unstarted.onCourse
  induction beats with
  | refl =>
      rcases unstarted.undisturbed with ⟨queue, undisturbed⟩
      refine ⟨queue, undisturbed, ?_⟩
      rintro ⟨_, _, _, here, _⟩
      rw [unstarted.worker] at here
      cases here
  | tail earlier beat inductionHypothesis =>
      rcases inductionHypothesis with ⟨queue, undisturbed, foremost⟩
      rcases undisturbed.move beat.move with ⟨next, undisturbedNext⟩
      have kept := @Regular.keeps _ _ sound.regular (evolves_of_reaches (reaches_of_beats earlier))
        (fun service _ => service.drainWait = origin.service.drainWait)
        (fun _ _ _ _ _ deed kept => deed.drainWait_eq.trans kept) rfl
      exact ⟨next, undisturbedNext,
        foremost.beat undisturbed (kept.symm ▸ waits) beat undisturbedNext.buffered⟩

/-- What has begun is what has been accepted, without what is in the buffer. -/
theorem accepted_eq (reaches : Reaches false origin reached)
    (buffered : reached.source = .buffered queue) :
    reached.journal.begun ++ queue.buffer = reached.journal.accepted := by
  rcases reaches_conserves unstarted reaches with ⟨_, same, conserved⟩
  rw [buffered] at same
  cases same
  rw [reaches_begun_eq_taken unstarted reaches]
  exact conserved.batches

/-- A worker without a batch in hand has dispatched all that have been begun. -/
theorem dispatches_eq (reaches : Reaches false origin reached)
    (free : reached.service.worker.isFree = true) :
    reached.journal.dispatches =
      (origin.service.staff.serveAll reached.journal.begun).trace :=
  (Standing.bounds (reaches_inOrder unstarted reaches)).2.2 free

/-- When its worker ends, a service has left nothing undone. -/
theorem completes (waits : 0 < origin.service.drainWait) (earlier : Beats origin last)
    (beat : Beat last ended) (going : last.service.worker.isGone = false)
    (gone : ended.service.worker.isGone = true) :
    ∃ count queue, Completes origin.service.staff origin last ended count ∧
      ended.Undisturbed queue ∧ ended.Deserted queue count ended.journal.begun := by
  have reaches := reaches_of_beats (earlier.tail beat)
  rcases unstarted.foremost waits earlier with ⟨queue, undisturbed, foremost⟩
  rcases undisturbed.move beat.move with ⟨next, undisturbedNext⟩
  rcases foremost.ends undisturbed beat.move going gone with ⟨same, source, empty, unclaimed⟩
  rw [undisturbedNext.buffered] at source
  cases source
  rcases undisturbedNext.sound.course.done_of_isGone gone with ⟨count, done⟩
  have free : ended.service.worker.isFree = true := by
    rw [done]
    rfl
  have begun := unstarted.accepted_eq reaches undisturbedNext.buffered
  rw [empty, List.append_nil] at begun
  have nobody := undisturbedNext.claimed.not_waitsForSlot unclaimed
  have followed (before : Deployment) (number : Nat) (door : Door) (batch : Batch) (doomed : Bool)
      (first : Beats origin before) (rest : Beats before ended)
      (waiting : (number, ⟨.submit door batch true, doomed⟩) ∈ before.jobs) :
      (number, .aborted) ∈ ended.outcomes ∨ batch ∈ ended.journal.accepted := by
    rcases unstarted.undisturbed with ⟨_, undisturbedOrigin⟩
    rcases undisturbedOrigin.reaches (reaches_of_beats first) with ⟨_, there⟩
    have pursued : Pursued number batch before := Or.inl ⟨door, doomed, waiting⟩
    rcases pursued.reaches there (reaches_of_beats rest) with ⟨_, _, member⟩ | settled
    · have impossible := nobody _ member
      cases impossible
    · exact settled
  exact ⟨count, next, ⟨earlier, beat, going, done, ⟨next, undisturbedNext.buffered, empty⟩, nobody,
    begun, begun ▸ unstarted.dispatches_eq reaches free, followed⟩, undisturbedNext,
    done, rfl, (List.append_eq_nil_iff.mp unclaimed).2⟩

/-- Once the queue has been closed, what was accepted after the end of the worker stays in it. -/
theorem leaves_behind (reaches : Reaches false origin ended) (undisturbed : ended.Undisturbed queue)
    (deserted : ended.Deserted queue count ended.journal.begun)
    (complete : ended.journal.begun = ended.journal.accepted)
    (further : Reaches false ended reached) (shut : reached.Shut) :
    LeavesBehind ended reached count := by
  have whole := reaches.trans further
  rcases deserted.reaches undisturbed further with ⟨next, undisturbedNext, there⟩
  have free (deployment : Deployment) (done : deployment.service.worker = .done count) :
      deployment.service.worker.isFree = true := by
    rw [done]
    rfl
  have state := undisturbedNext.sound.course.at_home .terminated (by rw [there.worker]; rfl)
  refine ⟨there.worker, state.1, shut, there.begun, ?_, ⟨next, undisturbedNext.buffered, ?_, ?_⟩, ?_⟩
  · rw [unstarted.dispatches_eq whole (free _ there.worker),
      unstarted.dispatches_eq reaches (free _ deserted.worker), there.begun]
  · rw [← unstarted.accepted_eq whole undisturbedNext.buffered, there.begun, complete]
  · intro empty
    have quiet := undisturbedNext.claimed.roomy.isQuiet empty there.ungranted
    exact undisturbedNext.claimed.not_waitsForSlot (SubmissionQueue.isQuiet_iff.mp quiet)
  · intro later beats
    have onwards := reaches_of_beats beats
    rcases there.reaches undisturbedNext onwards with ⟨_, _, last⟩
    exact ⟨shut.reaches undisturbedNext.sound onwards, last.begun⟩

end Unstarted

/-- An assembled runtime has come about beat by beat from a service that nobody has started. -/
theorem beats_of_assembled {settings : Settings} {registry : HandlerRegistry}
    {acknowledger : Script} {origin : Deployment}
    (assembled : assemble settings registry acknowledger = .ok origin) :
    Beats (prepared settings registry acknowledger) origin := by
  have unstarted := unstarted_prepared settings registry acknowledger
  rcases eq_of_assemble assembled with ⟨_, same⟩
  rw [same]
  generalize prepared settings registry acknowledger = before at unstarted ⊢
  have starts : Beat before before.start.2 := by
    refine .requests .start ?_
    rcases unstarted.start_eq with ⟨_, _, _, started⟩
    rw [started]
  have sound : before.start.2.OnCourse := unstarted.onCourse.move starts.move
  have held := unstarted.held_settled
  have announces : Beat before.start.2.settle (before.start.2.settle.announce settings) := by
    refine .acts (.announces settings held) (.act (.announce settings held)) ?_
    rcases (sound.reaches (reaches_settle true _)).buffered with ⟨queue, buffered⟩
    rw [announce_eq buffered]
  exact ((Relation.ReflTransGen.single starts).trans (beats_settle sound)).tail announces

end Moments

/-! ## Shutting down -/

/-- When the call that shuts a runtime down returns, it returns the count of the drain, whatever
the handlers and the acknowledger do.  The worker has ended at an earlier turn: until then
every batch that was accepted has been dispatched, also those that were submitted during the
drain and those whose submitters waited for a slot.  The service has terminated, the queue is
closed for good, and it holds what was accepted between the two turns, which nobody will
dispatch.

In a run whose steps are each followed until nobody can act, nothing comes between the two, so
that nothing is left. -/
theorem shutdown_completes {settings : Settings} {registry : HandlerRegistry}
    {acknowledger : Script} {origin : Deployment}
    (assembled : assemble settings registry acknowledger = .ok origin) :
    (∀ before closed id job outcome, Beats origin before → Beat before closed →
      before.job? id = some job → job.call.door? = some .runtime →
      closed.outcomes = before.outcomes ++ [(id, outcome)] → outcome ≠ .aborted →
      ∃ count last ended, outcome = .drained count ∧
        Completes ⟨registry.handlers, registry.fallback, acknowledger⟩ origin last ended count ∧
        Beats ended before ∧ LeavesBehind ended closed count) ∧
    ∀ steps id outcome, (∀ step, some step ∈ steps → step.consumes = false) →
      steps[id]? = some (some .shutdown) → (id, outcome) ∈ (origin.run 0 steps).2.outcomes →
      outcome ≠ .aborted →
      (∃ count, outcome = .drained count) ∧
        (origin.run 0 steps).2.Finished ⟨registry.handlers, registry.fallback, acknowledger⟩ ∧
        ∀ earlier later, steps = earlier ++ later → ∀ number door batch doomed,
          (number, ⟨.submit door batch true, doomed⟩) ∈ (origin.run 0 earlier).2.jobs →
            (number, .aborted) ∈ (origin.run 0 steps).2.outcomes ∨
              batch ∈ (origin.run 0 steps).2.journal.accepted := by
  refine ⟨?_, fun steps id outcome alone shutsDown returned whole =>
    finished_of_run assembled steps alone shutsDown returned whole⟩
  intro before closed id job outcome beats beat known through returned whole
  have unstarted := unstarted_prepared settings registry acknowledger
  have begins := beats_of_assembled assembled
  rcases eq_of_assemble assembled with ⟨waits, same⟩
  rcases unstarted.announced waits settings with ⟨hosted, _, _⟩
  rw [← same] at hosted
  rcases hosted.supervised with ⟨_, supervised⟩
  have held : origin.holder ≠ .nobody := by
    rw [held_of_assemble assembled]
    intro impossible
    cases impossible
  have going : origin.service.worker.isGone = false :=
    supervised.undisturbed.sound.course.isGone_eq (supervised.overseen.unasked held).untold
  rcases unstarted.foremost waits (begins.trans beats) with ⟨_, undisturbed, _⟩
  have joins : job.call.isJoin = true := by rw [Call.isJoin_eq_isSome, through]; rfl
  rcases returns_drained undisturbed beat.move known joins returned whole with
    ⟨count, drained, done, closes⟩
  have gone : before.service.worker.isGone = true := by
    rw [done]
    rfl
  rcases exists_end beats going gone with ⟨last, ended, first, ends, rest, before_end, at_end⟩
  rcases unstarted.completes waits (begins.trans first) ends before_end at_end with
    ⟨total, queue, completes, undisturbedThere, deserted⟩
  have complete := reaches_of_beats ((begins.trans first).tail ends)
  have left := unstarted.leaves_behind complete undisturbedThere deserted completes.begun
    (reaches_of_beats (rest.tail beat)) (closes through)
  rcases deserted.reaches undisturbedThere (reaches_of_beats rest) with ⟨_, _, there⟩
  cases done.symm.trans there.worker
  refine ⟨count, last, ended, drained, ⟨first, ends, before_end, completes.worker,
    completes.emptied, completes.nobody, completes.begun, completes.dispatches, ?_⟩, rest, left⟩
  exact fun before number door batch doomed earlier =>
    completes.followed before number door batch doomed (begins.trans earlier)

/-! ## A batch that comes too late and is accepted -/

namespace Late

/-- A runtime is being shut down, and somebody awaits the end of its service. -/
def awaited : Deployment := (slowRuntime.run 0 [some .shutdown, some .awaitTerminated]).2

/-- The window of the drain has passed: the worker has ended, and whoever awaited that has been
told.  The call that shuts the runtime down is the next in line. -/
def told : Deployment := (awaited.ring 50).tick.tick.tick

/-- A batch is offered. -/
def offered : Deployment := (told.submitNow .service .single).2

/-- The call closes the queue and returns. -/
def closed : Deployment := offered.tick

theorem beats : Beats slowRuntime offered ∧ Beat offered closed := by
  rcases unstarted_prepared { shutdownAwait := 50, queueCapacity := 1 }
    { handlers := gated.service.handlers } ⟨[]⟩ |>.announced (by decide)
    { shutdownAwait := 50, queueCapacity := 1 } with ⟨hosted, _, numbered⟩
  rw [← (eq_of_assemble assembled_slowRuntime).2] at hosted numbered
  rcases hosted.supervised with ⟨_, supervised⟩
  have begins : Beats slowRuntime awaited :=
    beats_run supervised.undisturbed.sound numbered _ (by simp [Step.consumes])
  have rung : Beat awaited (awaited.ring 50) := .rings (by decide +kernel) (by decide +kernel)
  have sound := supervised.undisturbed.sound.reaches (reaches_of_beats (begins.tail rung))
  have turns := ((begins.tail rung).tail (beat_tick sound)).tail (beat_tick sound.tick)
  have offers : Beat told offered := .requests (.submitNow .service .single) (by decide +kernel)
  exact ⟨(turns.tail (beat_tick sound.tick.tick)).tail offers,
    beat_tick (sound.tick.tick.tick.move offers.move)⟩

end Late

/-- A batch is accepted after the worker has ended and before the queue is closed.  The shutdown
returns, the service has terminated, and the batch has not been dispatched. -/
theorem accepted_behind_the_drain :
    assemble { shutdownAwait := 50, queueCapacity := 1 } { handlers := gated.service.handlers }
        ⟨[]⟩ = .ok slowRuntime ∧
      Beats slowRuntime Late.offered ∧ Beat Late.offered Late.closed ∧
      Late.offered.job? 0 = some ⟨.joining .runtime, false⟩ ∧
      Late.closed.outcomes = Late.offered.outcomes ++ [(0, .drained 0)] ∧
      Late.closed.service.state = .terminated ∧ Late.closed.Shut ∧
      Late.closed.journal.begun = [] ∧ Late.closed.journal.accepted.length = 1 ∧
      stock Late.closed.source = 1 := by
  refine ⟨assembled_slowRuntime, Late.beats.1, Late.beats.2, ?_, ?_, ?_, ?_, ?_, ?_, ?_⟩ <;>
    decide +kernel

/-- One batch is in hand and one in the buffer, and a submission waits for a slot,
when the runtime is shut down.  Another batch is submitted during the drain. -/
def backlogged : List (Option Step) :=
  [some (.trySubmit .single), some .settle, some (.trySubmit .single),
    some (.submitDirectly .single), some .shutdown, some (.release "door" 3),
    some (.advance 40), some (.trySubmitDirectly .single), some (.release "door" 1),
    some (.advance 100)]

/-- All four are dispatched, and all but the first are drained.  The batch that comes too late
is left. -/
theorem shutdown_completes_backlogged :
    (4, .drained 3) ∈ (slowRuntime.run 0 backlogged).2.outcomes ∧
      (slowRuntime.run 0 backlogged).2.Finished ⟨gated.service.handlers, .logging, ⟨[]⟩⟩ ∧
      (slowRuntime.run 0 backlogged).2.journal.begun.length = 4 ∧
      ∃ last ended, Completes ⟨gated.service.handlers, .logging, ⟨[]⟩⟩ slowRuntime last ended 0 ∧
        LeavesBehind ended Late.closed 0 := by
  have returned : (4, .drained 3) ∈ (slowRuntime.run 0 backlogged).2.outcomes := by decide +kernel
  have begun : (slowRuntime.run 0 backlogged).2.journal.begun.length = 4 := by decide +kernel
  have job : Late.offered.job? 0 = some ⟨.joining .runtime, false⟩ := by decide +kernel
  have outcomes : Late.closed.outcomes = Late.offered.outcomes ++ [(0, .drained 0)] := by
    decide +kernel
  rcases shutdown_completes assembled_slowRuntime with ⟨moments, runs⟩
  rcases runs backlogged 4 (.drained 3) (by simp [backlogged, Step.consumes]) rfl returned
    (by decide) with ⟨_, finished, _⟩
  rcases moments Late.offered Late.closed 0 _ (.drained 0) Late.beats.1 Late.beats.2 job rfl
    outcomes (by decide) with ⟨count, last, ended, same, completes, _, left⟩
  cases same
  exact ⟨returned, finished, begun, last, ended, completes, left⟩

end Deployment
end FailureDispatch

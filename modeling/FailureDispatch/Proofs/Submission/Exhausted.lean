import FailureDispatch.Proofs.Submission.Closed

/-!
# When there is nothing left to wait for

A consumer learns that the queue is closed only when nothing can come any more:
the buffer is empty, and nobody waits for a slot.  Then everybody learns it who
consumes, without anything else having to happen, and as long as that is not so
nobody does.

A queue that has come to this point stays there.  It is reached by consuming
and by giving up, so it may come long after the queue was closed, or together
with it.
-/

namespace FailureDispatch

namespace Call

/-- What a consumer is told when there is nothing to wait for. -/
def farewell? : Call → Option Outcome
  | consume _ _ => some (.failed .queueClosed)
  | consumeWithin _ _ => some .nothing
  | _ => none

/-- Whether the call is to give up because its token has been cancelled. -/
def isCancelled (cancelled : List String) : Call → Bool
  | consume token _ => token ∈ cancelled
  | _ => false

theorem waitingAt_waitingAt (call : Call) (place reached : SubmissionQueue.Place) :
    (call.waitingAt place).waitingAt reached = call.waitingAt reached := by
  cases call <;> rfl

theorem waitingAt_place? {call : Call} {place : SubmissionQueue.Place}
    (consumes : call.place? = some place) : call.waitingAt place = call := by
  cases call <;> first | rfl | (cases consumes; rfl)

theorem place?_waitingAt {call : Call} {outcome : Outcome}
    (farewell : call.farewell? = some outcome) (place : SubmissionQueue.Place) :
    (call.waitingAt place).place? = some place := by
  cases call <;> first | rfl | cases farewell

theorem farewell?_waitingAt (call : Call) (place : SubmissionQueue.Place) :
    (call.waitingAt place).farewell? = call.farewell? := by
  cases call <;> rfl

theorem isCancelled_waitingAt (call : Call) (cancelled : List String)
    (place : SubmissionQueue.Place) :
    (call.waitingAt place).isCancelled cancelled = call.isCancelled cancelled := by
  cases call <;> rfl

end Call

namespace Deployment

/-- The queue is closed, its buffer is empty, and nobody waits for a slot. -/
def Exhausted (deployment : Deployment) : Prop :=
  ∃ queue, deployment.source = .buffered queue ∧ queue.isOpen = false ∧ queue.buffer = [] ∧
    deployment.callersWith Call.waitsForSlot = []

section Exhaustion

variable {before after : Deployment} {queue next : SubmissionQueue Actor Batch} {id : Nat}
  {sitter : Option Actor} {outcome : Outcome}

/-! ## What is said of the queue is said of the callers -/

theorem Civil.mayReceive_iff (civil : before.Civil queue sitter) :
    queue.mayReceive = false ↔
      queue.isOpen = false ∧ before.callersWith Call.waitsForSlot = [] := by
  have quiet : queue.slots.isQuiet = true ↔ before.callersWith Call.waitsForSlot = [] := by
    rw [SubmissionQueue.isQuiet_iff, List.eq_nil_iff_forall_not_mem, List.eq_nil_iff_forall_not_mem]
    exact forall_congr' fun actor => not_congr (civil.mem_claimants actor)
  rw [← quiet, SubmissionQueue.mayReceive, Bool.or_eq_false_iff, Bool.not_eq_false']

theorem Civil.exhausted_iff (civil : before.Civil queue sitter) :
    before.Exhausted ↔ queue.buffer = [] ∧ queue.mayReceive = false := by
  rw [civil.mayReceive_iff]
  constructor
  · rintro ⟨_, buffered, closed, empty, nobody⟩
    cases civil.buffered.symm.trans buffered
    exact ⟨empty, closed, nobody⟩
  · rintro ⟨empty, closed, nobody⟩
    exact ⟨queue, civil.buffered, closed, empty, nobody⟩

/-- Nobody waits for a slot, call by call. -/
theorem nobody_waits_iff (distinct : (before.jobs.map Prod.fst).Nodup) :
    before.callersWith Call.waitsForSlot = [] ↔
      ∀ id door batch doomed, before.job? id ≠ some ⟨.submit door batch true, doomed⟩ := by
  rw [callersWith, List.map_eq_nil_iff, List.filter_eq_nil_iff]
  constructor
  · intro nobody id door batch doomed known
    exact nobody (id, _) (mem_of_job? known) rfl
  · rintro nobody ⟨id, ⟨call, doomed⟩⟩ member waits
    have known := job?_of_mem distinct member
    cases call with
    | submit door batch begun =>
        have begun : begun = true := waits
        exact nobody id door batch doomed (begun ▸ known)
    | _ => cases waits

/-- Whoever looks is told so only if it is so. -/
theorem Civil.exhausted_of_seek (civil : before.Civil queue sitter) {who : Actor}
    {place : SubmissionQueue.Place} (told : (queue.seek who place).1 = .exhausted) :
    before.Exhausted := by
  have looks := queue.seek_looks who place
  generalize queue.seek who place = looked at looks told
  cases looks with
  | takes _ _ | sleeps _ _ _ | queues _ => cases told
  | exhausted _ empty last => exact civil.exhausted_iff.mpr ⟨empty, last⟩

/-- Whoever looks is told so, or has to wait for others who look. -/
theorem Civil.seek_exhausted (civil : before.Civil queue sitter) (exhausted : before.Exhausted)
    (who : Actor) (place : SubmissionQueue.Place) :
    (queue.seek who place).1 = .exhausted ∨ (queue.seek who place).1 = .waiting .line := by
  rcases civil.exhausted_iff.mp exhausted with ⟨empty, last⟩
  have looks := queue.seek_looks who place
  generalize queue.seek who place = looked at looks ⊢
  cases looks with
  | takes _ front =>
      rw [empty] at front
      cases front
  | exhausted _ _ _ => exact Or.inl rfl
  | sleeps _ _ more =>
      rw [last] at more
      cases more
  | queues _ => exact Or.inr rfl

/-! ## Turns of consumers -/

/-- A call ends at its own turn. -/
theorem Civil.ends_at_turn (civil : before.Civil queue sitter) (happening : Happening before after)
    (told : (before.ended after).lookup id = some outcome) :
    after = (before.advanceCaller id).stepBack := by
  have nothing (outcomes : after.outcomes = before.outcomes) : False := by
    rw [ended_of_same outcomes] at told
    cases told
  have outside (act : Act before after) : False := nothing (act.outside civil.buffered).outcomes
  have regular := civil.composed.sound.regular
  cases happening with
  | turn =>
      rcases tick_cases civil.buffered civil.composed.sound.course with untouching | ⟨own, same⟩
      · exact (nothing untouching.outcomes).elim
      · by_cases mine : id = own
        · rw [mine]
          exact same
        · have visits : Visits before own (before.advanceCaller own) :=
            visits_advanceCaller regular.lawful regular.joins
          rw [same] at told
          cases (visits.visit.lookup_ended mine).symm.trans told
  | begins _ _ | aborts _ =>
      rw [wake_eq] at nothing
      exact (nothing rfl).elim
  | rings time later => exact (outside (.clock time _ later)).elim
  | passes time later => exact (outside (.clock time [] later)).elim
  | requests request => exact (outside request.act).elim
  | handsOver holder held => exact (outside (.handOver holder held)).elim
  | announces settings held => exact (outside (.announce settings held)).elim

theorem ended_adopt_finish (before : Deployment) (woken : List Actor)
    (queue : SubmissionQueue Actor Batch) (id : Nat) (outcome : Outcome) :
    before.ended ((before.adopt woken queue).finish id outcome) = [(id, outcome)] := by
  rw [adopt_eq]
  exact ended_of_one rfl

theorem ended_adopt_setJob (before : Deployment) (woken : List Actor)
    (queue : SubmissionQueue Actor Batch) (id : Nat) (job : Job) :
    before.ended ((before.adopt woken queue).setJob id job) = [] := by
  rw [adopt_eq]
  exact ended_of_same rfl

/-- How a turn of a consumer goes that is neither torn down nor cancelled nor late. -/
theorem consumer_turn {call : Call} {place : SubmissionQueue.Place}
    (buffered : before.source = .buffered queue) (known : before.job? id = some ⟨call, false⟩)
    (consumes : call.place? = some place) (farewell : call.farewell? = some outcome)
    (uncancelled : call.isCancelled before.cancelled = false) :
    (∃ batch, (queue.seek (.caller id) place).1 = .item batch ∧
        before.ended (before.advanceCaller id) = [(id, .took batch)]) ∨
      ((queue.seek (.caller id) place).1 = .exhausted ∧
        before.ended (before.advanceCaller id) = [(id, outcome)]) ∨
      (∃ reached, (queue.seek (.caller id) place).1 = .waiting reached ∧
        before.ended (before.advanceCaller id) = [] ∧
          (before.advanceCaller id).job? id = some ⟨call.waitingAt reached, false⟩) ∨
      ((∃ deadline, call.alarm? = some deadline ∧ deadline ≤ before.now) ∧
        before.ended (before.advanceCaller id) = [(id, outcome)]) := by
  have takes (woken : List Actor) (left : SubmissionQueue Actor Batch) (batch : Batch) :
      before.ended (((before.adopt woken left).note (.taken batch)).finish id (.took batch)) =
        [(id, .took batch)] := by
    rw [adopt_eq]
    exact ended_of_one rfl
  have waits (woken : List Actor) (left : SubmissionQueue Actor Batch) (job : Job) :
      ((before.adopt woken left).setJob id job).job? id = some job := by
    rw [adopt_eq]
    have known : ({ before with
        source := .buffered left
        ready := lineUpAll before.ready woken } : Deployment).job? id = some ⟨call, false⟩ := known
    exact job?_setJob known job
  cases call with
  | consume token here =>
      cases consumes
      cases farewell
      have usable : token ∉ before.cancelled := of_decide_eq_false uncancelled
      simp only [advanceCaller, known, advanceCall, buffered, if_neg usable]
      rcases queue.seek (.caller id) place with ⟨caught, woken, left⟩
      cases caught with
      | item batch => exact Or.inl ⟨batch, rfl, takes woken left batch⟩
      | exhausted => exact Or.inr (Or.inl ⟨rfl, ended_adopt_finish before woken left id _⟩)
      | waiting reached =>
          exact Or.inr (Or.inr (Or.inl ⟨reached, rfl, ended_adopt_setJob before woken left id _,
            waits woken left _⟩))
  | consumeWithin deadline here =>
      cases consumes
      cases farewell
      simp only [advanceCaller, known, advanceCall, buffered]
      rcases queue.seek (.caller id) place with ⟨caught, woken, left⟩
      cases caught with
      | item batch => exact Or.inl ⟨batch, rfl, takes woken left batch⟩
      | exhausted => exact Or.inr (Or.inl ⟨rfl, ended_adopt_finish before woken left id _⟩)
      | waiting reached =>
          refine Or.inr (Or.inr ?_)
          dsimp only
          split
          · next late =>
            refine Or.inr ⟨⟨deadline, rfl, late⟩, ?_⟩
            rw [adopt_eq before]
            exact ended_adopt_finish { before with
              source := .buffered left, ready := lineUpAll before.ready woken } _ _ id _
          · exact Or.inl ⟨reached, rfl, ended_adopt_setJob before woken left id _,
              waits woken left _⟩
  | _ => cases consumes

/-- A consumer that is neither torn down nor cancelled nor late is told that nothing can come only
if it is so. -/
theorem Civil.exhausted_of_told {call : Call} {place : SubmissionQueue.Place}
    (civil : before.Civil queue sitter) (happening : Happening before after)
    (known : before.job? id = some ⟨call, false⟩) (consumes : call.place? = some place)
    (farewell : call.farewell? = some outcome)
    (uncancelled : call.isCancelled before.cancelled = false)
    (early : ∀ deadline, call.alarm? = some deadline → before.now < deadline)
    (told : (before.ended after).lookup id = some outcome) : before.Exhausted := by
  have turned : before.ended (before.advanceCaller id).stepBack =
      before.ended (before.advanceCaller id) := rfl
  rw [civil.ends_at_turn happening told, turned] at told
  rcases consumer_turn civil.buffered known consumes farewell uncancelled with
    ⟨batch, _, took⟩ | ⟨exhausted, _⟩ | ⟨_, _, nothing, _⟩ | ⟨⟨deadline, alarm, late⟩, _⟩
  · rw [took, List.lookup_cons_self] at told
    cases told
    cases call <;> cases farewell
  · exact civil.exhausted_of_seek exhausted
  · rw [nothing] at told
    cases told
  · exact absurd (early deadline alarm) (Nat.not_lt.mpr late)

/-! ## An exhausted queue stays exhausted -/

/-- What is taken, and what is in the buffer at the end, is what was in the buffer and what has been
accepted meanwhile. -/
theorem Vacant.kept {origin reached later : Deployment} (vacant : origin.Vacant)
    (happens : Happens origin reached) (further : Happens reached later)
    (buffered : reached.source = .buffered queue) (there : later.source = .buffered next) :
    ∃ taken accepted, later.journal.taken = reached.journal.taken ++ taken ∧
      later.journal.accepted = reached.journal.accepted ++ accepted ∧
      taken ++ next.buffer = queue.buffer ++ accepted := by
  have unstarted := vacant.unstarted
  rcases reaches_conserves unstarted happens.reaches with ⟨_, source, conserved⟩
  cases buffered.symm.trans source
  rcases reaches_conserves unstarted (Happens.reaches (happens.trans further)) with
    ⟨_, source, conserved'⟩
  cases there.symm.trans source
  have further : Reaches true reached later := Happens.reaches further
  rcases further.journal_prefix (unstarted.onCourse.reaches happens.reaches) with ⟨trace, grown⟩
  have batches := conserved'.batches
  rw [← grown, Journal.taken_append, Journal.accepted_append, ← conserved.batches,
    List.append_assoc, List.append_assoc] at batches
  refine ⟨Journal.taken trace, Journal.accepted trace, ?_, ?_, List.append_cancel_left batches⟩
  · rw [← grown, Journal.taken_append]
  · rw [← grown, Journal.accepted_append]

theorem Exhausted.shut (exhausted : before.Exhausted) : before.Shut := by
  rcases exhausted with ⟨queue, buffered, closed, _⟩
  exact ⟨queue, buffered, closed⟩

theorem Exhausted.happens {origin reached later : Deployment} (exhausted : reached.Exhausted)
    (vacant : origin.Vacant) (happens : Happens origin reached)
    (further : Happens reached later) : later.Exhausted := by
  have remains := vacant.remains happens exhausted.shut further
  rcases vacant.happens happens with ⟨queue, _, civil⟩
  rcases vacant.happens (happens.trans further) with ⟨next, _, there⟩
  rcases exhausted.shut.reaches (vacant.unstarted.onCourse.reaches happens.reaches)
    (Happens.reaches further) with ⟨_, source, closed⟩
  cases there.buffered.symm.trans source
  rcases exhausted with ⟨_, buffered, _, empty, nobody⟩
  cases civil.buffered.symm.trans buffered
  have unwaited := (nobody_waits_iff civil.composed.distinct).mp nobody
  refine ⟨next, there.buffered, closed, ?_, ?_⟩
  · rcases vacant.kept happens further civil.buffered there.buffered with
      ⟨taken, accepted, _, grown, batches⟩
    -- Whoever is accepted has waited.
    rcases remains.served with ⟨served, served'⟩
    have unserved : served = [] := by
      apply List.eq_nil_iff_forall_not_mem.mpr
      intro entry member
      rcases served'.waited entry member with ⟨door, known⟩
      exact unwaited _ _ _ _ known
    have none : accepted = [] := by
      have same := grown.symm.trans served'.accepted
      rw [unserved] at same
      exact List.append_cancel_left same
    rw [empty, none] at batches
    exact (List.append_eq_nil_iff.mp batches).2
  · apply (nobody_waits_iff there.composed.distinct).mpr
    intro id door batch doomed known
    rcases (remains.traced id door batch doomed known).2 with ⟨_, waited, _⟩
    exact unwaited _ _ _ _ waited

/-! ## Everybody is told -/

theorem tick_clock (civil : before.Civil queue sitter) :
    before.tick.now = before.now ∧ before.tick.cancelled = before.cancelled := by
  rcases tick_cases civil.buffered civil.composed.sound.course with untouching | ⟨id, same⟩
  · exact ⟨untouching.now, untouching.cancelled⟩
  · have turn : CallerTurn before queue id (before.advanceCaller id) :=
      advanceCaller_turn civil.buffered civil.composed.sound.course
    rcases turn.byCaller civil.buffered with ⟨_, _, _, _, _, _, _, _, turned⟩
    rw [same, turned]
    exact ⟨rfl, rfl⟩

/-- A consumer still looks, or has been told that there is nothing to wait for. -/
structure Hears (before : Deployment) (id : Nat) (call : Call) (outcome : Outcome)
    (later : Deployment) : Prop where
  now : later.now = before.now
  cancelled : later.cancelled = before.cancelled
  outcomes : later.outcomes = before.outcomes ++ before.ended later
  told : ((before.ended later).lookup id = none ∧
      ∃ place, later.job? id = some ⟨call.waitingAt place, false⟩) ∨
    (before.ended later).lookup id = some outcome

/-- What a turn at an exhausted queue comes to for a consumer. -/
theorem Civil.hears_turn {call : Call} {place : SubmissionQueue.Place}
    (civil : before.Civil queue sitter) (exhausted : before.Exhausted)
    (known : before.job? id = some ⟨call, false⟩) (consumes : call.place? = some place)
    (farewell : call.farewell? = some outcome)
    (uncancelled : call.isCancelled before.cancelled = false) :
    ((before.ended before.tick).lookup id = none ∧
        ∃ reached, before.tick.job? id = some ⟨call.waitingAt reached, false⟩) ∨
      (before.ended before.tick).lookup id = some outcome := by
  have still (outcomes : before.tick.outcomes = before.outcomes)
      (present : before.tick.job? id = some ⟨call, false⟩) :
      (before.ended before.tick).lookup id = none ∧
        ∃ reached, before.tick.job? id = some ⟨call.waitingAt reached, false⟩ := by
    rw [ended_of_same outcomes]
    exact ⟨rfl, place, present.trans (by rw [Call.waitingAt_place? consumes])⟩
  have regular := civil.composed.sound.regular
  rcases tick_cases civil.buffered civil.composed.sound.course with untouching | ⟨own, same⟩
  · exact Or.inl (still untouching.outcomes
      ((congrArg (List.lookup id) untouching.jobs).trans known))
  · rw [same] at still ⊢
    have turned : before.ended (before.advanceCaller own).stepBack =
        before.ended (before.advanceCaller own) := rfl
    have stays : (before.advanceCaller own).stepBack.job? id =
        (before.advanceCaller own).job? id := rfl
    by_cases mine : id = own
    · subst mine
      rw [turned, stays]
      rcases consumer_turn civil.buffered known consumes farewell uncancelled with
        ⟨batch, found, _⟩ | ⟨_, told⟩ | ⟨reached, _, nothing, waits⟩ | ⟨_, told⟩
      · rcases civil.seek_exhausted exhausted (.caller id) place with none | waits
        · cases found.symm.trans none
        · cases found.symm.trans waits
      · rw [told]
        exact Or.inr List.lookup_cons_self
      · rw [nothing]
        exact Or.inl ⟨rfl, reached, waits⟩
      · rw [told]
        exact Or.inr List.lookup_cons_self
    · have visit : Visit before own (before.advanceCaller own) :=
        (visits_advanceCaller regular.lawful regular.joins).visit
      refine Or.inl ⟨visit.lookup_ended mine, place, ?_⟩
      rw [Call.waitingAt_place? consumes]
      exact (visit.job?_of_ne mine).trans known

theorem Hears.tick {later : Deployment} {call : Call}
    (hears : Hears before id call outcome later) (civil : later.Civil queue sitter)
    (exhausted : later.Exhausted) (farewell : call.farewell? = some outcome)
    (uncancelled : call.isCancelled before.cancelled = false) :
    Hears before id call outcome later.tick := by
  have concerns := civil.concerns .turn
  have ends : before.ended later.tick = before.ended later ++ later.ended later.tick :=
    ended_trans hears.outcomes concerns.outcomes
  rcases tick_clock civil with ⟨now, cancelled⟩
  refine ⟨now.trans hears.now, cancelled.trans hears.cancelled, ?_, ?_⟩
  · rw [ends, ← List.append_assoc, ← hears.outcomes]
    exact concerns.outcomes
  · rw [ends, List.lookup_append]
    rcases hears.told with ⟨none, reached, known⟩ | told
    · rw [none, Option.none_or]
      rw [← hears.cancelled] at uncancelled
      have turn := civil.hears_turn exhausted known (Call.place?_waitingAt farewell reached)
        ((call.farewell?_waitingAt reached).trans farewell)
        ((call.isCancelled_waitingAt _ reached).trans uncancelled)
      simpa only [Call.waitingAt_waitingAt] using turn
    · rw [told, Option.some_or]
      exact Or.inr rfl

/-- At an exhausted queue nobody consumes any more once nobody can act. -/
theorem Civil.unattended (civil : before.Civil queue sitter) (settled : before.Settled)
    (exhausted : before.Exhausted) (actor : Actor) (place : SubmissionQueue.Place) :
    before.role actor ≠ .consumes place := by
  intro waits
  rcases exhausted with ⟨_, buffered, closed, _⟩
  cases civil.buffered.symm.trans buffered
  rw [(civil.starved settled waits).2] at closed
  cases closed

theorem role_of_farewell {call : Call} (known : before.job? id = some ⟨call, false⟩)
    (farewell : call.farewell? = some outcome) :
    ∃ place, before.role (.caller id) = .consumes place := by
  rw [role_of_job? known]
  cases call with
  | consume _ place | consumeWithin _ place => exact ⟨place, rfl⟩
  | _ => cases farewell

/-- At an exhausted queue every consumer is told so before the clock moves. -/
theorem Vacant.hears {origin reached : Deployment} {call : Call} (vacant : origin.Vacant)
    (happens : Happens origin reached) (exhausted : reached.Exhausted)
    (known : reached.job? id = some ⟨call, false⟩) (farewell : call.farewell? = some outcome)
    (uncancelled : call.isCancelled reached.cancelled = false) :
    (reached.ended reached.settle).lookup id = some outcome := by
  have nothing : reached.ended reached = [] := ended_of_same rfl
  have starts : Hears reached id call outcome reached := by
    refine ⟨rfl, rfl, ?_, Or.inl ?_⟩
    · rw [nothing, List.append_nil]
    · rcases role_of_farewell known farewell with ⟨place, _⟩
      have here : ∃ place, call.place? = some place := by
        cases call with
        | consume _ place | consumeWithin _ place => exact ⟨place, rfl⟩
        | _ => cases farewell
      rcases here with ⟨place, consumes⟩
      rw [nothing]
      exact ⟨rfl, place, by rw [Call.waitingAt_place? consumes, known]⟩
  have keeps (later : Deployment)
      (holds : Happens reached later ∧ Hears reached id call outcome later) :
      Happens reached later.tick ∧ Hears reached id call outcome later.tick := by
    rcases holds with ⟨further, hears⟩
    rcases vacant.happens (happens.trans further) with ⟨_, _, civil⟩
    exact ⟨further.tail .turn,
      hears.tick civil (exhausted.happens vacant happens further) farewell uncancelled⟩
  rcases settle_keeps keeps ⟨.refl, starts⟩ with ⟨further, hears⟩
  rcases hears.told with ⟨_, place, waits⟩ | told
  · rcases vacant.happens (happens.trans further) with ⟨_, _, civil⟩
    rcases role_of_farewell waits ((call.farewell?_waitingAt place).trans farewell) with
      ⟨other, consumes⟩
    exact absurd consumes (civil.unattended (settled_settle reached)
      (exhausted.happens vacant happens further) _ other)
  · exact told

theorem Vacant.now_settle {origin reached : Deployment} (vacant : origin.Vacant)
    (happens : Happens origin reached) : reached.settle.now = reached.now := by
  have keeps (later : Deployment) (holds : Happens reached later ∧ later.now = reached.now) :
      Happens reached later.tick ∧ later.tick.now = reached.now := by
    rcases holds with ⟨further, now⟩
    rcases vacant.happens (happens.trans further) with ⟨_, _, civil⟩
    exact ⟨further.tail .turn, (tick_clock civil).1.trans now⟩
  exact (settle_keeps keeps ⟨.refl, rfl⟩).2

/-! ## Closing -/

/-- What closing a queue does at once: nothing but that. -/
structure Shuts (reached : Deployment) (queue : SubmissionQueue Actor Batch)
    (after : Deployment) : Prop where
  happens : Happens reached after
  jobs : after.jobs = reached.jobs
  outcomes : after.outcomes = reached.outcomes
  shut : ∃ next, after.source = .buffered next ∧ next.isOpen = false ∧
    next.buffer = queue.buffer ∧ next.slots = queue.slots

theorem Civil.shuts (civil : before.Civil queue sitter) (id : Nat) :
    ∃ after, before.take id .close = (.ok, after) ∧ Shuts before queue after := by
  have step : before.take id .close = (.ok, before.adopt queue.close.1 queue.close.2) := by
    simp only [take, civil.buffered]
  rcases queue.close_eq with ⟨sleeper, same⟩
  refine ⟨_, step, .single (.requests (.close civil.buffered)), ?_, ?_, queue.close.2,
    source_adopt before _ _, ?_, ?_, ?_⟩
  · rw [adopt_eq]
  · rw [adopt_eq]
  all_goals rw [same]

/-- Closing a queue again does nothing. -/
theorem Civil.close_again (civil : before.Civil queue sitter) (closed : queue.isOpen = false) :
    queue.close = ([], queue) ∧ ∀ id, before.take id .close = (.ok, before) := by
  have same : { queue with isOpen := false } = queue := by
    rw [← closed]
  have again : queue.close = ([], queue) := by
    rw [SubmissionQueue.close, same, SubmissionQueue.rouseIfExhausted]
    split
    · rfl
    · next last =>
      have nobody : queue.sleeper = none := by
        cases sleeps : queue.sleeper with
        | none => rfl
        | some actor =>
            have more : queue.mayReceive = true := (civil.occupied.asleep actor sleeps).2.2
            exact absurd more last
      rw [SubmissionQueue.rouse, nobody]
      show ([], { queue with sleeper := none }) = ([], queue)
      rw [← nobody]
  refine ⟨again, fun id => ?_⟩
  simp only [take, civil.buffered, again]
  rw [adopt_eq, ← civil.buffered]
  rfl

/-- The first turn of a submission at a closed queue. -/
theorem refused_turn (buffered : before.source = .buffered queue) (closed : queue.isOpen = false)
    {door : Door} {batch : Batch}
    (known : before.job? id = some ⟨.submit door batch false, false⟩) :
    ∃ outcome, outcome.error? = some .queueClosed ∧
      before.advanceCaller id = ({ before with
        source := .buffered queue.refuse
        journal := before.journal ++ [.refused batch] } : Deployment).finish id outcome := by
  have refused : queue.submit (.caller id) batch = (.refused .queueClosed, [], queue.refuse) := by
    rw [SubmissionQueue.submit, closed, if_neg Bool.false_ne_true]
  have turn : before.advanceCaller id = (before.adopt [] queue.refuse).settleSubmission id door
      batch (.refused .queueClosed) := by
    simp only [advanceCaller, known, advanceCall, buffered, Bool.false_eq_true, if_false, refused]
  rw [turn, adopt_eq]
  cases door with
  | service => exact ⟨.failed .queueClosed, rfl, rfl⟩
  | runtime => exact ⟨.failedInApp (.domain .queueClosed), rfl, rfl⟩

/-- What a closed queue means to those who submit, whatever has happened since. -/
structure ClosedSince (reached later : Deployment) (queue : SubmissionQueue Actor Batch) : Prop where
  closed : queue.isOpen = false
  /-- Who does not wait is refused and counted, and nothing else happens. -/
  atOnce : ∀ (door : Door) (batch : Batch),
    later.submitNow door batch.draft = (refusal door .queueClosed, { later with
      source := .buffered queue.refuse, journal := later.journal ++ [.refused batch] })
  /-- So is, at his first turn, who would wait. -/
  late : ∀ id door batch, later.job? id = some ⟨.submit door batch false, false⟩ →
    ∃ outcome, outcome.error? = some .queueClosed ∧
      later.advanceCaller id = ({ later with
        source := .buffered queue.refuse
        journal := later.journal ++ [.refused batch] } : Deployment).finish id outcome
  /-- Who was waiting goes on waiting, is accepted in his turn or gives up. -/
  remains : Remains reached later
  /-- When nobody can act, nobody is just beginning, and whoever waits does so at a full buffer. -/
  settled : later.Settled →
    (∀ id door batch doomed, later.job? id ≠ some ⟨.submit door batch false, doomed⟩) ∧
      (later.submissionLine ≠ [] → queue.buffer.length = queue.capacity)
  again : queue.close = ([], queue) ∧ ∀ id, later.take id .close = (.ok, later)

/-- Consumers are told that nothing can come exactly when that is so. -/
structure Tells (reached : Deployment) (queue : SubmissionQueue Actor Batch) : Prop where
  looks : ∀ who place, (queue.seek who place).1 = .exhausted → reached.Exhausted
  blocking : ∀ after, Happening reached after → ∀ id token place,
    reached.job? id = some ⟨.consume token place, false⟩ → token ∉ reached.cancelled →
      (reached.ended after).lookup id = some (.failed .queueClosed) → reached.Exhausted
  timed : ∀ after, Happening reached after → ∀ id deadline place,
    reached.job? id = some ⟨.consumeWithin deadline place, false⟩ → reached.now < deadline →
      (reached.ended after).lookup id = some .nothing → reached.Exhausted
  /-- Then everybody is told, and the clock does not move meanwhile. -/
  everybody : reached.Exhausted →
    reached.settle.now = reached.now ∧
      (∀ id token place, reached.job? id = some ⟨.consume token place, false⟩ →
        token ∉ reached.cancelled →
          (reached.ended reached.settle).lookup id = some (.failed .queueClosed)) ∧
      (∀ id deadline place, reached.job? id = some ⟨.consumeWithin deadline place, false⟩ →
        (reached.ended reached.settle).lookup id = some .nothing) ∧
      ∀ actor place, reached.settle.role actor ≠ .consumes place
  lasting : reached.Exhausted → ∀ later, Happens reached later → later.Exhausted

theorem Vacant.closedSince {origin reached later : Deployment} (vacant : origin.Vacant)
    (happens : Happens origin reached) (shut : reached.Shut) (further : Happens reached later) :
    ∃ queue, later.source = .buffered queue ∧ ClosedSince reached later queue := by
  have whole := happens.trans further
  rcases vacant.happens whole with ⟨queue, sitter, civil⟩
  rcases shut.reaches (vacant.unstarted.onCourse.reaches happens.reaches)
    (Happens.reaches further) with ⟨_, source, closed⟩
  cases civil.buffered.symm.trans source
  refine ⟨queue, civil.buffered, closed, submitNow_closed civil.buffered closed,
    fun id door batch known => refused_turn civil.buffered closed known,
    vacant.remains happens shut further, fun settled => ⟨?_, ?_⟩, civil.close_again closed⟩
  · intro id door batch doomed known
    have under : id ∈ later.submitters :=
      (mem_submitters civil.composed.distinct).mpr ⟨_, known, rfl⟩
    rcases civil.waiting (vacant.impends whole) settled under with ⟨_, _, waits⟩
    cases known.symm.trans waits
  · intro waiting
    rcases List.exists_mem_of_ne_nil _ waiting with ⟨actor, stands⟩
    exact civil.full settled ((civil.mem_submissionLine actor).mp stands)

theorem Vacant.tells {origin reached : Deployment} (vacant : origin.Vacant)
    (happens : Happens origin reached) (civil : reached.Civil queue sitter) :
    Tells reached queue := by
  refine ⟨fun who place told => civil.exhausted_of_seek told, ?_, ?_, ?_,
    fun exhausted later further => exhausted.happens vacant happens further⟩
  · intro after happening id token place known usable told
    exact civil.exhausted_of_told happening known rfl rfl (decide_eq_false usable) nofun told
  · intro after happening id deadline place known early told
    refine civil.exhausted_of_told happening known rfl rfl rfl ?_ told
    intro time alarm
    cases alarm
    exact early
  · intro exhausted
    refine ⟨vacant.now_settle happens, ?_, ?_, ?_⟩
    · intro id token place known usable
      exact vacant.hears happens exhausted known rfl (decide_eq_false usable)
    · intro id deadline place known
      exact vacant.hears happens exhausted known rfl rfl
    · have settles := happens_settle reached
      rcases vacant.happens (happens.trans settles) with ⟨_, _, there⟩
      exact there.unattended (settled_settle reached) (exhausted.happens vacant happens settles)

/-- At any moment of a queue, closing it does nothing else and does nothing the second time.
Whoever submits afterwards is refused, nothing in the buffer is lost, and whoever has waited is
served in his turn.  Those who consume are told that the queue is closed when it is also empty
and nobody waits for a slot, and not before. -/
theorem closed_to_some_before_others {origin reached : Deployment} (vacant : origin.Vacant)
    (happens : Happens origin reached) :
    ∃ queue, reached.source = .buffered queue ∧ Tells reached queue ∧
      (∀ id, ∃ after, reached.take id .close = (.ok, after) ∧ Shuts reached queue after) ∧
      ∀ later, Happens reached later → ∃ next, later.source = .buffered next ∧
        (∃ taken accepted, later.journal.taken = reached.journal.taken ++ taken ∧
          later.journal.accepted = reached.journal.accepted ++ accepted ∧
          taken ++ next.buffer = queue.buffer ++ accepted) ∧
        (queue.isOpen = false → ClosedSince reached later next) := by
  rcases vacant.happens happens with ⟨queue, sitter, civil⟩
  refine ⟨queue, civil.buffered, vacant.tells happens civil, civil.shuts, ?_⟩
  intro later further
  rcases vacant.happens (happens.trans further) with ⟨next, _, there⟩
  refine ⟨next, there.buffered, vacant.kept happens further civil.buffered there.buffered, ?_⟩
  intro closed
  rcases vacant.closedSince happens ⟨queue, civil.buffered, closed⟩ further with
    ⟨_, source, since⟩
  cases there.buffered.symm.trans source
  exact since

end Exhaustion

instance (deployment : Deployment) : Decidable deployment.Exhausted :=
  match buffered : deployment.source with
  | .buffered queue =>
      decidable_of_iff (queue.isOpen = false ∧ queue.buffer.isEmpty = true ∧
        (deployment.callersWith Call.waitsForSlot).isEmpty = true) (by
        simp only [Exhausted, buffered, Source.buffered.injEq, exists_eq_left', List.isEmpty_iff])
  | .scripted _ => isFalse fun ⟨_, same, _⟩ => nomatch buffered.symm.trans same

/-- Two submissions wait for the only slot when the queue is closed. -/
def parting : Deployment :=
  (narrow.run 0 [some (.trySubmit .single), some (.submitDirectly .single),
    some (.submitDirectly .single), some .close]).2

/-- All three batches have been consumed. -/
def consumed : Deployment :=
  (parting.run 4 [some (.consume "stop"), some (.consume "stop"), some (.consume "stop")]).2

/-- Somebody begins to consume. -/
def parted : Deployment := (consumed.addJob 7 (.consume "stop" .line)).wake (.caller 7)

/-- Both are accepted, one after the other, and only then a consumer is told. -/
theorem closed_to_some_before_others_parted :
    parting.submissionLine = [.caller 1, .caller 2] ∧ ¬ parting.Exhausted ∧
      (∃ queue, parting.source = .buffered queue ∧ queue.isOpen = false) ∧
      (∃ queue, parted.source = .buffered queue ∧ ClosedSince parting parted queue) ∧
      (parting.ended parted).lookup 1 = some .done ∧
      (parting.ended parted).lookup 2 = some .done ∧
      parted.Exhausted ∧
      (parted.ended parted.settle).lookup 7 = some (.failed .queueClosed) := by
  have made : ofQueue 1 = .ok narrow := rfl
  have vacant : narrow.Vacant := vacant_ofQueue made
  have happens : Happens narrow parting :=
    happens_run unstarted_narrow.onCourse unstarted_narrow.numbered _
  have numbered : Numbered 4 parting := by
    unfold Numbered
    decide +kernel
  have consumes : Happens parting consumed :=
    happens_run (unstarted_narrow.onCourse.reaches (Happens.reaches happens)) numbered _
  have fresh : ∀ entry ∈ consumed.jobs, entry.1 ≠ 7 := by decide +kernel
  have further : Happens parting parted :=
    consumes.tail (.begins fresh ⟨rfl, fun _ => rfl, fun joins => nomatch joins⟩)
  have shut : parting.Shut := by decide +kernel
  have exhausted : parted.Exhausted := by decide +kernel
  have begins : parted.job? 7 = some ⟨.consume "stop" .line, false⟩ := by decide +kernel
  have usable : "stop" ∉ parted.cancelled := by decide +kernel
  rcases closed_to_some_before_others vacant happens with ⟨queue, buffered, _, _, since⟩
  rcases closed_to_some_before_others vacant (happens.trans further) with ⟨_, _, tells, _, _⟩
  rcases shut with ⟨_, source, closed⟩
  cases buffered.symm.trans source
  rcases since parted further with ⟨next, there, _, since⟩
  refine ⟨by decide +kernel, by decide +kernel, ⟨queue, buffered, closed⟩,
    ⟨next, there, since closed⟩, by decide +kernel, by decide +kernel, exhausted, ?_⟩
  exact (tells.everybody exhausted).2.1 7 "stop" .line begins usable

end Deployment
end FailureDispatch

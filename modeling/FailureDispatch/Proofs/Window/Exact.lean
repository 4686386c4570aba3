import FailureDispatch.Proofs.Life.Ending
import FailureDispatch.Proofs.Life.Lifecycle
import FailureDispatch.Proofs.Window.Pace

/-!
# The window of a drain is exact

From the time at which the main loop ends, the times at which batches arrive and the time
that each dispatch takes decide which batches a drain finds, when it is through with each of
them, and when the service terminates.  Whatever happens besides, in whatever order, makes
no difference.
-/

namespace FailureDispatch
namespace Deployment

/-! ## The end of the service -/

section Life

variable {origin before after reached : Deployment}

/-- The service is terminated exactly if its worker has completed the drain. -/
theorem OnCourse.terminated_iff (sound : reached.OnCourse) :
    reached.service.state = .terminated ↔ ∃ count, reached.service.worker = .done count := by
  constructor
  · intro terminated
    apply sound.course.done_of_isGone
    apply sound.course.lawful.isGone_of_isTerminal
    rw [terminated]
    rfl
  · rintro ⟨count, here⟩
    exact (sound.course.at_home .terminated (by rw [here]; rfl)).1

/-- A service terminates once. -/
theorem Untouched.countP_isFinal (untouched : origin.Untouched) (evolves : Evolves origin reached) :
    reached.journal.countP Occurrence.isFinal =
      if reached.service.state = .terminated then 1 else 0 := by
  have path := (untouched.lived evolves).path
  have once : ∀ state : ServiceState, ∀ history ∈ state.histories,
      history.count .terminated = if state = .terminated then 1 else 0 := by
    intro state
    cases state <;> decide
  have counted := once _ _ path
  rw [Journal.countP_isFinal, ← counted, history, List.count_cons_of_ne (by decide)]

/-- Where the worker stays, the service does not terminate. -/
theorem Untouched.quiet (untouched : origin.Untouched) (reaches : Reaches false origin before)
    (move : Move false before after) (sound : origin.OnCourse)
    {trace : Journal} (written : after.journal = before.journal ++ trace)
    (worker : after.service.worker = before.service.worker) :
    trace.countP Occurrence.isFinal = 0 := by
  have soundBefore := sound.reaches reaches
  have same : after.service.state = .terminated ↔ before.service.state = .terminated := by
    rw [soundBefore.terminated_iff, (soundBefore.move move).terminated_iff, worker]
  have earlier := untouched.countP_isFinal (evolves_of_reaches reaches)
  have later := untouched.countP_isFinal (evolves_of_reaches (reaches.tail move))
  rw [written, List.countP_append, earlier] at later
  simp only [same] at later
  omega

end Life

/-! ## The end of the main loop -/

/-- A turn in which the worker leaves its main loop. -/
structure LeavesLoop (asked left : Deployment) : Prop where
  beat : Beat asked left
  looping : asked.service.worker = .looping
  drains : left.service.worker = .draining 0

section Leaving

variable {origin asked left : Deployment} {earlier : Record}

theorem Vacant.available (vacant : origin.Vacant) : origin.Available := by
  rcases vacant.unstarted.buffered with ⟨capacity, buffered⟩
  rintro _ ⟨queue, same, closed⟩
  rw [buffered] at same
  cases same
  cases closed

/-- The worker turns to the drain in line, and brings no batch. -/
theorem LeavesLoop.eq (leaves : LeavesLoop asked left) (sound : asked.OnCourse) :
    left.journal = asked.journal ++ [.logged .loopLeft] ∧ left.now = asked.now ∧
      left.source = asked.source ∧ .worker ∈ left.ready := by
  rcases leaves with ⟨beat, looping, drains⟩
  have moved : left.service.worker ≠ asked.service.worker := by
    rw [looping, drains]
    intro impossible
    cases impossible
  cases beat with
  | rings settled next =>
      rw [ring, wakeAll_eq] at moved
      exact absurd rfl moved
  | passes settled later early => exact absurd rfl moved
  | acts _ alone still =>
      cases alone.befalls with
      | elsewhere elsewhere => exact absurd elsewhere.worker moved
      | starts new =>
          have idle := (sound.course.idle_of_new new).1
          rw [looping] at idle
          cases idle
      | worker line =>
          rcases sound.buffered with ⟨queue, buffered⟩
          rcases advanceWorker_turn buffered sound.course with
            ⟨progress, woken, next, service, gates, trace, same, turn, _⟩
          rw [tick_of_worker line, same] at drains still ⊢
          have worker : service.worker = .draining 0 := by cases progress <;> exact drains
          cases turn with
          | leavesLoop _ _ =>
              refine ⟨rfl, still, buffered.symm, mem_lineUpAll.mpr (Or.inl ?_)⟩
              rw [line]
              exact List.mem_cons_self
          | rests _ =>
              rw [looping] at worker
              cases worker
          | startsLate here _ | finishes here _ =>
              rw [looping] at here
              cases here
          | takes seeks _ _ _ _ =>
              cases seeks with
              | main here _ | drain here =>
                  rw [looping] at here
                  cases here
          | _ => cases worker

/-- The main loop ends at a time at which the queue is open. -/
theorem LeavesLoop.timed (leaves : LeavesLoop asked left) (vacant : origin.Vacant)
    (past : Timed origin earlier asked) :
    Timed origin (earlier ++ .stamped asked.now [.logged .loopLeft]) left := by
  have sound := vacant.unstarted.onCourse.reaches past.reaches
  rcases leaves.eq sound with ⟨written, _, source, _⟩
  refine past.goesOn leaves.beat written ?_
  intro _ shut
  have going : asked.service.worker.isGone = false := by
    rw [leaves.looping]
    rfl
  exact past.available vacant.available going (shut.of_source source.symm)

end Leaving

/-! ## What is known on the way -/

section Way

variable {origin left reached : Deployment} {earlier record : Record}

/-- The only consumer does not wait in vain where nobody can act. -/
theorem Vacant.attentive (vacant : origin.Vacant) (timed : Timed origin record reached) :
    ∃ queue, reached.Attentive queue := by
  rcases vacant.unstarted.undisturbed with ⟨first, undisturbedOrigin⟩
  rcases undisturbedOrigin.reaches timed.reaches with ⟨queue, undisturbed⟩
  rcases vacant.happens timed.happens with ⟨present, sitter, civil⟩
  have same : present = queue :=
    Source.buffered.inj (civil.buffered.symm.trans undisturbed.buffered)
  subst same
  refine ⟨present, undisturbed, ?_⟩
  intro settled count deadline place here
  have nobody : .worker ∉ (reached.crowd present).ready := by
    rw [show (reached.crowd present).ready = [] from settled]
    exact List.not_mem_nil
  have role : (reached.crowd present).role .worker = .consumes place := by
    show reached.service.worker.role = _
    rw [here]
    rfl
  cases place with
  | seat =>
      have sits := (civil.occupied.sits .worker).mp role
      rcases civil.occupied.awake _ sits with asleep | stands
      · exact (civil.occupied.asleep _ asleep).2.1
      · exact absurd stands nobody
  | line =>
      rcases civil.occupied.attends _ role with claims | stands
      · have turn : present.turn = ⟨1, [], []⟩ := undisturbed.seated.at_place here
        rw [show (reached.crowd present).queue.turn = _ from turn] at claims
        cases claims
      · exact absurd stands nobody

/-- The batches for a drain that begins with a deployment, by the time of arrival: those that
were in the queue, and those that have been accepted since. -/
def arrivals (left : Deployment) (earlier record : Record) : List Nat :=
  ((earlier ++ record).timesOf Occurrence.isAcceptance).drop left.journal.taken.length

/-- Every acceptance has a time. -/
theorem Vacant.length_accepted (vacant : origin.Vacant) (timed : Timed origin record reached) :
    (record.timesOf Occurrence.isAcceptance).length = reached.journal.accepted.length := by
  rw [Record.length_timesOf, Journal.countP_isAcceptance, timed.journal_eq, Journal.accepted_append,
    vacant.unstarted.journal.accepted_eq, List.nil_append]

/-- Whatever the worker takes from the queue he begins to dispatch. -/
theorem Vacant.length_taken (vacant : origin.Vacant) (past : Timed origin earlier left)
    (later : Timed left record reached) :
    reached.journal.taken.length =
      left.journal.taken.length + (record.timesOf Occurrence.isOpening).length := by
  have before := reaches_begun_eq_taken vacant.unstarted past.reaches
  have after := reaches_begun_eq_taken vacant.unstarted (past.reaches.trans later.reaches)
  rw [← before, ← after, Record.length_timesOf, Journal.countP_isOpening, later.journal_eq,
    Journal.begun_append, List.length_append]

theorem Vacant.poised (vacant : origin.Vacant) (past : Timed origin earlier left)
    (later : Timed left record reached) {queue : SubmissionQueue Actor Batch}
    (buffered : reached.source = .buffered queue) :
    reached.Poised queue origin.service.drainWait (left.arrivals earlier record) record := by
  have whole : Timed origin (earlier ++ record) reached := past.trans later
  have sound := vacant.unstarted.onCourse
  rcases reaches_conserves vacant.unstarted whole.reaches with ⟨present, same, conserved⟩
  rw [buffered] at same
  cases same
  refine ⟨?_, ?_, ?_, ?_⟩
  · exact @Regular.keeps _ _ sound.regular (evolves_of_reaches whole.reaches)
      (fun service _ => service.drainWait = origin.service.drainWait)
      (fun _ _ _ _ _ deed kept => deed.drainWait_eq.trans kept) rfl
  · intro going
    have usable := whole.available vacant.available going
    have isOpen : queue.isOpen = true := by
      cases closed : queue.isOpen with
      | true => rfl
      | false => exact absurd ⟨queue, buffered, closed⟩ usable
    rw [SubmissionQueue.mayReceive, isOpen]
    rfl
  · have accepted := vacant.length_accepted whole
    have taken := vacant.length_taken past later
    rw [← conserved.batches, List.length_append] at accepted
    rw [arrivals, List.length_drop]
    omega
  · intro arrival member
    rcases List.mem_map.mp (List.mem_of_mem_drop member) with ⟨entry, selected, same⟩
    rw [← same]
    exact whole.le_now entry (List.mem_filter.mp selected).1

/-- The drain keeps its pace from the end of the main loop on. -/
theorem Vacant.paced (vacant : origin.Vacant) (untouched : origin.Untouched)
    (past : Timed origin earlier left) (here : left.service.worker = .draining 0)
    (stands : .worker ∈ left.ready) (later : Timed left record reached) :
    Paced origin.service.drainWait left.now (left.arrivals earlier record) record reached := by
  induction later with
  | starts => exact ⟨⟨rfl, rfl, rfl⟩, .none _ _, .turns here stands rfl⟩
  | @goesOn record before after trace later beat written _ inductionHypothesis =>
      rcases vacant.attentive (past.trans later) with ⟨queue, attentive⟩
      have poised := vacant.poised past later attentive.undisturbed.buffered
      have reaches := past.reaches.trans later.reaches
      have quiet := untouched.quiet reaches beat.move vacant.unstarted.onCourse written
      have paced := inductionHypothesis.beat poised attentive beat written quiet
      have few : left.journal.taken.length ≤
          ((earlier ++ record).timesOf Occurrence.isAcceptance).length := by
        have accepted := vacant.length_accepted (past.trans later)
        have taken := vacant.length_taken past later
        rcases reaches_conserves vacant.unstarted reaches with ⟨_, _, conserved⟩
        rw [← conserved.batches, List.length_append] at accepted
        omega
      rw [arrivals, ← List.append_assoc, Record.timesOf_goesOn, List.drop_append_of_le_length few]
      exact paced

end Way

/-! ## Whoever joins -/

/-- A call that has joined is still under way, or has been aborted, or has been told a count. -/
def Learns (id : Nat) (deployment : Deployment) : Prop :=
  (∃ job, deployment.job? id = some job ∧ job.call.isJoin = true) ∨
    (id, .aborted) ∈ deployment.outcomes ∨ ∃ count, (id, .drained count) ∈ deployment.outcomes

section Joining

variable {before after middle reached : Deployment} {id : Nat}

theorem Learns.move (learns : Learns id before) (sound : before.OnCourse)
    (move : Move false before after) : Learns id after := by
  have passes := sound.regular.passes move.event
  rcases learns with ⟨job, known, joins⟩ | aborted | ⟨count, told⟩
  · rcases passes.follows known with ⟨later, present, same⟩ | ⟨_, outcome, concludes, outcomes⟩
    · exact Or.inl ⟨later, present, same.trans joins⟩
    · have last : (id, outcome) ∈ after.outcomes := by
        rw [outcomes]
        exact List.mem_append_right _ List.mem_cons_self
      cases concludes with
      | apart single =>
          rw [joins] at single
          cases single
      | aborted => exact Or.inr (Or.inl last)
      | @told _ door result _ verdict ended =>
          have course := (sound.move move).course
          rcases course.done_of_isGone (course.lawful.isGone_of_isTerminal ended) with ⟨count, here⟩
          rw [here] at verdict
          cases verdict
          refine Or.inr (Or.inr ⟨count, ?_⟩)
          cases door <;> exact last
  · exact Or.inr (Or.inl (passes.outcomes aborted))
  · exact Or.inr (Or.inr ⟨count, passes.outcomes told⟩)

theorem Learns.reaches (learns : Learns id middle) (sound : middle.OnCourse)
    (reaches : Reaches false middle reached) : Learns id reached := by
  induction reaches with
  | refl => exact learns
  | tail earlier move inductionHypothesis =>
      exact inductionHypothesis.move (sound.reaches earlier) move

/-- Where nobody can act and the service has come to its end, whoever has joined has been told
unless aborted. -/
theorem Untouched.hears {origin : Deployment} (untouched : origin.Untouched)
    (evolves : Evolves origin reached) (gone : reached.service.worker.isGone = true)
    (settled : reached.Settled) (learns : Learns id reached) :
    (id, .aborted) ∈ reached.outcomes ∨ ∃ count, (id, .drained count) ∈ reached.outcomes := by
  rcases learns with ⟨job, known, joins⟩ | heard
  · have stands := untouched.heeded evolves id job known joins fun _ => gone
    rw [show reached.ready = [] from settled] at stands
    cases stands
  · exact heard

end Joining

/-! ## The window -/

/-- What a drain comes to that ends its dispatches at the given times, if batches arrive as
scheduled. -/
structure KeepsWindow (origin left reached : Deployment) (schedule : List Arrival)
    (record : Record) (ends : List Nat) : Prop where
  /-- A batch is drained exactly if those before it are and it arrives before the window has
  passed since the drain was through with them.  It is begun with as soon as it is there and the
  drain is free. -/
  follows : ∀ index : Nat, ends[index]? =
    (left.now :: ends)[index]?.bind fun free =>
      schedule[index]?.bind fun arrival =>
        if arrival.time < free + origin.service.drainWait then
          some (max arrival.time free + arrival.duration)
        else none
  /-- The drain is through with batches at no other times. -/
  through : record.timesOf Occurrence.isEnding <+: ends
  /-- Where nobody can act and no batch is in hand, the drain is through with all of them, and
  the service is terminated once the window has passed since the last. -/
  timely : reached.Settled →
    (∀ phase dispatch, reached.service.worker ≠ .dispatching phase dispatch) →
      record.timesOf Occurrence.isEnding = ends ∧
        (reached.service.state = .terminated ↔
          ends.getLastD left.now + origin.service.drainWait ≤ reached.now)
  /-- The service terminates at that very time, and its drain has found these batches. -/
  punctual : reached.service.state = .terminated →
    record.timesOf Occurrence.isEnding = ends ∧
      record.timesOf Occurrence.isFinal = [ends.getLastD left.now + origin.service.drainWait] ∧
      reached.service.worker = .done ends.length
  /-- The batches have been taken in the order of their acceptance, and all others stay. -/
  leaves : reached.service.state = .terminated → ∃ queue, reached.source = .buffered queue ∧
    reached.journal.begun ++ queue.buffer = reached.journal.accepted ∧
      reached.journal.begun.length = left.journal.begun.length + ends.length
  /-- Nobody is told another count. -/
  counts : ∀ id count, (id, .drained count) ∈ reached.outcomes → count = ends.length
  /-- Whoever has joined and has not been aborted is told. -/
  tells : reached.service.state = .terminated → reached.Settled →
    ∀ middle id job, Reaches false origin middle → Reaches false middle reached →
      middle.job? id = some job → job.call.isJoin = true →
        (id, .aborted) ∈ reached.outcomes ∨ (id, .drained ends.length) ∈ reached.outcomes

section Window

variable {origin asked left reached : Deployment} {earlier record : Record}
  {schedule : List Arrival} {window free : Nat} {arrivals : List Nat}

/-- What has not arrived in time is not drained. -/
theorem drainEnds_of_rest {rest : List Nat} {last : Nat} {more : List Arrival}
    (times : more.map Arrival.time = rest)
    (late : ∀ arrival ∈ rest.head?, last + window ≤ arrival) : drainEnds window last more = [] := by
  cases more with
  | nil => rfl
  | cons arrival others =>
      apply drainEnds_of_late
      apply late
      rw [← times]
      rfl

section Schedule

variable (paced : Paced window free arrivals record reached)
  (times : schedule.map Arrival.time = arrivals)
  (durations : List.zipWith (· - ·) (record.timesOf Occurrence.isEnding)
    (record.timesOf Occurrence.isOpening) <+: schedule.map Arrival.duration)
  (untied : Untied window free schedule)
include paced times durations untied

/-- So far the drain has followed the schedule. -/
theorem Paced.through :
    record.timesOf Occurrence.isEnding <+: drainEnds window free schedule := by
  rcases paced with ⟨marks, drained, _⟩
  rcases drained.compare marks times durations untied with ⟨_, _, same⟩
  rw [marks.ended, same]
  exact List.prefix_append _ _

/-- A drain that is over has ended at the end of its last window. -/
theorem Paced.ended (finished : ∃ count, reached.service.worker = .done count) :
    record.Marks (record.timesOf Occurrence.isOpening) (drainEnds window free schedule)
        [(drainEnds window free schedule).getLastD free + window] ∧
      (record.timesOf Occurrence.isOpening).length = (drainEnds window free schedule).length ∧
      reached.service.worker = .done (drainEnds window free schedule).length ∧
      (drainEnds window free schedule).getLastD free + window ≤ reached.now := by
  rcases finished with ⟨_, here⟩
  rcases paced with ⟨marks, drained, paces⟩
  rcases drained.compare marks times durations untied with ⟨more, rest, same⟩
  cases paces with
  | ends done passed late =>
      rw [drainEnds_of_rest rest late, List.append_nil] at same
      rw [same, ← drained.last_eq, marks.opened, List.append_nil, drained.length_begins]
      rw [List.append_nil] at marks
      exact ⟨marks, rfl, done, passed⟩
  | turns other _ _ | waits other _ _ _ _ | dispatches other _ _ _ =>
      rw [here] at other
      cases other

/-- A drain that waits where nobody can act is through with everything, and its window is
still open. -/
theorem Paced.waiting {queue : SubmissionQueue Actor Batch}
    (poised : reached.Poised queue window arrivals record) (attentive : reached.Attentive queue)
    (settled : reached.Settled)
    (idle : ∀ phase dispatch, reached.service.worker ≠ .dispatching phase dispatch)
    (going : ∀ count, reached.service.worker ≠ .done count) :
    record.timesOf Occurrence.isEnding = drainEnds window free schedule ∧
      reached.now < (drainEnds window free schedule).getLastD free + window := by
  have nobody : .worker ∉ reached.ready := by
    rw [show reached.ready = [] from settled]
    exact List.not_mem_nil
  rcases paced with ⟨marks, drained, paces⟩
  rcases drained.compare marks times durations untied with ⟨more, rest, same⟩
  have length := poised.length_rest marks.opened drained
  cases paces with
  | turns _ stands _ => exact absurd stands nobody
  | dispatches here _ _ _ => exact absurd here (idle _ _)
  | ends here _ _ => exact absurd here (going _)
  | waits here _ within due _ =>
      rw [attentive.nothing settled _ _ _ here] at length
      have none : more = [] := by
        apply List.length_eq_zero_iff.mp
        rw [← List.length_map Arrival.time, rest, length]
        rfl
      rw [none, drainEnds, List.append_nil] at same
      rw [same, ← drained.last_eq]
      exact ⟨marks.ended, Nat.lt_of_le_of_ne within fun elapsed => nobody (due elapsed)⟩

/-- Where nobody can act, only the time says whether the drain is over. -/
theorem Paced.timely {queue : SubmissionQueue Actor Batch} (sound : reached.OnCourse)
    (poised : reached.Poised queue window arrivals record) (attentive : reached.Attentive queue)
    (settled : reached.Settled)
    (idle : ∀ phase dispatch, reached.service.worker ≠ .dispatching phase dispatch) :
    record.timesOf Occurrence.isEnding = drainEnds window free schedule ∧
      (reached.service.state = .terminated ↔
        (drainEnds window free schedule).getLastD free + window ≤ reached.now) := by
  by_cases terminated : reached.service.state = .terminated
  · have finished := sound.terminated_iff.mp terminated
    rcases paced.ended times durations untied finished with ⟨marks, _, _, passed⟩
    exact ⟨marks.ended, iff_of_true terminated passed⟩
  · have going (count : Nat) (here : reached.service.worker = .done count) : False :=
      terminated (sound.terminated_iff.mpr ⟨count, here⟩)
    rcases paced.waiting times durations untied poised attentive settled idle going with
      ⟨through, ahead⟩
    exact ⟨through, iff_of_false terminated (Nat.not_le_of_lt ahead)⟩

end Schedule

/-- Whatever the drain has not begun with is still in the queue. -/
theorem Vacant.spares (vacant : origin.Vacant) (past : Timed origin earlier left)
    (later : Timed left record reached) :
    ∃ queue, reached.source = .buffered queue ∧
      reached.journal.begun ++ queue.buffer = reached.journal.accepted ∧
        reached.journal.begun.length =
          left.journal.begun.length + (record.timesOf Occurrence.isOpening).length := by
  have reaches := past.reaches.trans later.reaches
  rcases reaches_conserves vacant.unstarted reaches with ⟨queue, buffered, conserved⟩
  have taken := vacant.length_taken past later
  have batches := conserved.batches
  rw [← reaches_begun_eq_taken vacant.unstarted past.reaches,
    ← reaches_begun_eq_taken vacant.unstarted reaches] at taken
  rw [← reaches_begun_eq_taken vacant.unstarted reaches] at batches
  exact ⟨queue, buffered, batches, taken⟩

/-- The window of a drain is exact.  Let the main loop end, and let the batches that are in the
queue then, or are accepted later, arrive by the given schedule, none of them at the very end
of the window that is open for it.  The drain is through with the batches at the times of the
reference, terminates when the window has passed since the last of them, tells their number
to whoever joins, and leaves every other batch in the queue. -/
theorem drain_window_exact (vacant : origin.Vacant) (untouched : origin.Untouched)
    (past : Timed origin earlier asked) (leaves : LeavesLoop asked left)
    (later : Timed left record reached)
    (times : schedule.map Arrival.time = left.arrivals earlier record)
    (durations : List.zipWith (· - ·) (record.timesOf Occurrence.isEnding)
      (record.timesOf Occurrence.isOpening) <+: schedule.map Arrival.duration)
    (untied : Untied origin.service.drainWait left.now schedule) :
    KeepsWindow origin left reached schedule record
      (drainEnds origin.service.drainWait left.now schedule) := by
  have soundAsked := vacant.unstarted.onCourse.reaches past.reaches
  rcases leaves.eq soundAsked with ⟨_, _, _, stands⟩
  have there := leaves.timed vacant past
  have whole := there.trans later
  have sound := vacant.unstarted.onCourse.reaches whole.reaches
  have declares := reaches_declares vacant.unstarted whole.reaches
  -- The entry for the end of the loop is no acceptance.
  have same : left.arrivals (earlier ++ .stamped asked.now [.logged .loopLeft]) record =
      left.arrivals earlier record := by
    have silent :
        Record.timesOf Occurrence.isAcceptance (.stamped asked.now [.logged .loopLeft]) = [] := rfl
    simp only [arrivals, Record.timesOf_append, silent, List.append_nil]
  have paced := vacant.paced untouched there leaves.drains stands later
  rw [← same] at times
  rcases vacant.attentive whole with ⟨queue, attentive⟩
  have poised := vacant.poised there later attentive.undisturbed.buffered
  have ended := paced.ended times durations untied
  refine ⟨getElem?_drainEnds _ _ schedule, paced.through times durations untied,
    paced.timely times durations untied sound poised attentive, ?_, ?_, ?_, ?_⟩
  · intro terminated
    rcases ended (sound.terminated_iff.mp terminated) with ⟨marks, _, place, _⟩
    exact ⟨marks.ended, marks.finished, place⟩
  · intro terminated
    rcases ended (sound.terminated_iff.mp terminated) with ⟨_, length, _, _⟩
    rw [← length]
    exact vacant.spares there later
  · intro id count told
    have here := declares.outcomes _ told count rfl
    rcases ended ⟨count, here⟩ with ⟨_, _, place, _⟩
    exact Worker.done.inj (here.symm.trans place)
  · intro terminated settled middle id job before after known joins
    rcases ended (sound.terminated_iff.mp terminated) with ⟨_, _, place, _⟩
    have soundMiddle := vacant.unstarted.onCourse.reaches before
    have learns : Learns id reached := Learns.reaches (Or.inl ⟨job, known, joins⟩) soundMiddle after
    have gone : reached.service.worker.isGone = true := by
      rw [place]
      rfl
    rcases untouched.hears (evolves_of_reaches whole.reaches) gone settled learns with
      aborted | ⟨count, told⟩
    · exact Or.inl aborted
    · have same := Worker.done.inj (place.symm.trans (declares.outcomes _ told count rfl))
      exact Or.inr (same ▸ told)

end Window

/-! ## A drain that finds two of three batches -/

/-- Each dispatch takes three units of time, and the window is ten. -/
def unhurried : Deployment where
  source := .buffered (.empty 4)
  service :=
    { handlers := [⟨"slow", .scripted .all none ⟨[[.sleep 3], [.sleep 3]]⟩⟩]
      drainWait := 10 }

namespace Unhurried

theorem vacant : unhurried.Vacant :=
  ⟨⟨⟨4, rfl⟩, rfl, rfl, rfl, rfl, rfl, rfl, fun _ impossible => by cases impossible⟩, rfl, rfl⟩

/-- The service is running and has been told to stop. -/
def asked : Deployment := giveTurns 1 (giveTurns 3 unhurried.start.2).requestStop

def left : Deployment := asked.tick

/-- Somebody joins. -/
def joined : Deployment :=
  giveTurns 9 ((left.addJob 0 (.join .service false)).wake (.caller 0))

/-- A batch arrives at four. -/
def first : Deployment := giveTurns 9 ({ joined with now := 4 }.submitNow .service .single).2

/-- The next arrives at five, while the first is in hand. -/
def second : Deployment := giveTurns 9 ({ first with now := 5 }.submitNow .service .single).2

/-- The drain is through with the first at seven, and with the next at ten. -/
def through : Deployment := giveTurns 15 ((giveTurns 15 (second.ring 7)).ring 10)

/-- The window has passed at twenty, and the last batch arrives at twenty-one. -/
def done : Deployment := giveTurns 15 (through.ring 20)

def late : Deployment := ({ done with now := 21 }.submitNow .service .single).2

def schedule : List Arrival := [⟨4, 3⟩, ⟨5, 3⟩, ⟨21, 0⟩]

theorem past : ∃ earlier, Timed unhurried earlier asked ∧
    earlier.timesOf Occurrence.isAcceptance = [] := by
  have sound := vacant.unstarted.onCourse
  have started := Timed.starts.proceeds sound (.requests .start rfl) 3 (by decide +kernel)
  have held : (giveTurns 3 unhurried.start.2).holder ≠ .nobody := by decide +kernel
  have told := started.proceeds sound (.requests (.stop held) rfl) 1 (by decide +kernel)
  exact ⟨_, told, by decide +kernel⟩

theorem leaves : LeavesLoop asked left := by
  rcases past with ⟨_, past, _⟩
  exact ⟨beat_tick (vacant.unstarted.onCourse.reaches past.reaches), by decide +kernel,
    by decide +kernel⟩

theorem later : ∃ record, Timed left record late ∧
    record.timesOf Occurrence.isAcceptance = [4, 5, 21] ∧
      record.timesOf Occurrence.isOpening = [4, 7] ∧
        record.timesOf Occurrence.isEnding = [7, 10] := by
  rcases past with ⟨_, past, _⟩
  have sound : left.OnCourse := (vacant.unstarted.onCourse.reaches past.reaches).tick
  have may (others : Bool) : (Call.join .service false).MayBegin others left.service.state := by
    refine ⟨rfl, ?_, fun _ => by decide +kernel⟩
    intro impossible
    cases impossible
  have fresh : ∀ entry ∈ left.jobs, entry.1 ≠ 0 := by decide +kernel
  have four : Beat joined { joined with now := 4 } :=
    .passes (by decide +kernel) (by decide +kernel) (by decide +kernel)
  have five : Beat first { first with now := 5 } :=
    .passes (by decide +kernel) (by decide +kernel) (by decide +kernel)
  have seven : Beat second (second.ring 7) := .rings (by decide +kernel) (by decide +kernel)
  have ten : Beat (giveTurns 15 (second.ring 7)) ((giveTurns 15 (second.ring 7)).ring 10) :=
    .rings (by decide +kernel) (by decide +kernel)
  have twenty : Beat through (through.ring 20) := .rings (by decide +kernel) (by decide +kernel)
  have twentyOne : Beat done { done with now := 21 } :=
    .passes (by decide +kernel) (by decide +kernel) (by decide +kernel)
  have joins := Timed.starts.proceeds sound
    (.acts (.begins fresh (may true)) (.begins fresh (may false)) rfl) 9 (by decide +kernel)
  have busy := (joins.adds sound four (by decide +kernel)).proceeds sound
    (.requests (.submitNow .service .single) rfl) 9 (by decide +kernel)
  have waiting := (busy.adds sound five (by decide +kernel)).proceeds sound
    (.requests (.submitNow .service .single) rfl) 9 (by decide +kernel)
  have dispatched := (waiting.proceeds sound seven 15 (by decide +kernel)).proceeds sound ten 15
    (by decide +kernel)
  have ended := dispatched.proceeds sound twenty 15 (by decide +kernel)
  have last := (ended.adds sound twentyOne (by decide +kernel)).adds sound
    (.requests (.submitNow .service .single) rfl) (by decide +kernel)
  exact ⟨_, last, by decide +kernel, by decide +kernel, by decide +kernel⟩

end Unhurried

/-- The window begins anew at seven and at ten, so that the service terminates at twenty; whoever
has joined is told of two batches, and the third stays in the queue. -/
theorem drain_window_exact_unhurried :
    ∃ record, Timed Unhurried.left record Unhurried.late ∧
      drainEnds 10 0 Unhurried.schedule = [7, 10] ∧
      record.timesOf Occurrence.isFinal = [20] ∧
      Unhurried.late.service.worker = .done 2 ∧
      (0, .drained 2) ∈ Unhurried.late.outcomes ∧
      ∃ queue, Unhurried.late.source = .buffered queue ∧ queue.buffer.length = 1 := by
  rcases Unhurried.past with ⟨earlier, past, before⟩
  rcases Unhurried.later with ⟨record, later, accepted, opened, ended⟩
  have times : Unhurried.schedule.map Arrival.time = Unhurried.left.arrivals earlier record := by
    rw [arrivals, Record.timesOf_append, before, accepted]
    decide +kernel
  have durations : List.zipWith (· - ·) (record.timesOf Occurrence.isEnding)
      (record.timesOf Occurrence.isOpening) <+: Unhurried.schedule.map Arrival.duration := by
    rw [opened, ended]
    decide
  have keeps := drain_window_exact Unhurried.vacant ⟨rfl, rfl, rfl, rfl, rfl, .nil⟩ past
    Unhurried.leaves later times durations (by decide +kernel)
  have terminated : Unhurried.late.service.state = .terminated := by decide +kernel
  rcases keeps.punctual terminated with ⟨_, final, worker⟩
  rcases keeps.leaves terminated with ⟨queue, buffered, batches, begun⟩
  have none : Unhurried.left.journal.begun.length = 0 := by decide +kernel
  have three : Unhurried.late.journal.accepted.length = 3 := by decide +kernel
  have length := congrArg List.length batches
  rw [List.length_append, begun, none, three] at length
  have rest : 0 + 2 + queue.buffer.length = 3 := length
  exact ⟨record, later, by decide, final, worker, by decide +kernel, queue, buffered, by omega⟩

end Deployment
end FailureDispatch

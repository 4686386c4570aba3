import FailureDispatch.Proofs.Course.Beside
import FailureDispatch.Proofs.Dispatch.Bounds
import FailureDispatch.Proofs.Drain.Hosting
import FailureDispatch.Proofs.Window.Clock
import FailureDispatch.Proofs.Window.Schedule

/-!
# The pace of a drain

Where the worker of a drain stands says how far the drain has come.  At the head of its loop
it is through with a batch just now.  While it waits, the end of its window is ahead, or it
stands in line; and if there is a batch it has come just now, or has been there already when
the worker became free.  A batch in hand has been taken up in that very moment.

`Paces` says so, and each beat keeps it: another's beat may bring a batch, the clock moves
only while the worker waits for nothing that is there, and the worker's own turns lead from
one place to the next.
-/

namespace FailureDispatch

/-! ## What is counted -/

/-- How often a stretch of the journal begins a dispatch, ends one and ends the service. -/
structure Journal.Counts (trace : Journal) (openings endings finals : Nat) : Prop where
  opened : trace.countP Occurrence.isOpening = openings
  ended : trace.countP Occurrence.isEnding = endings
  finished : trace.countP Occurrence.isFinal = finals

/-- The times at which a record begins dispatches, ends them and ends the service. -/
structure Record.Marks (record : Record) (openings endings finals : List Nat) : Prop where
  opened : record.timesOf Occurrence.isOpening = openings
  ended : record.timesOf Occurrence.isEnding = endings
  finished : record.timesOf Occurrence.isFinal = finals

theorem Record.timesOf_goesOn (kind : Occurrence → Bool) (record : Record) (time : Nat)
    (trace : Journal) :
    Record.timesOf kind (record ++ .stamped time trace) =
      record.timesOf kind ++ List.replicate (trace.countP kind) time := by
  rw [timesOf_append, timesOf_stamped]

section Marks

variable {record : Record}

section Continued

variable {openings endings finals : List Nat} {trace : Journal}
  (marks : record.Marks openings endings finals) (time : Nat)
include marks

theorem Record.Marks.goesOn {more through final : Nat}
    (counts : trace.Counts more through final) :
    Marks (record ++ .stamped time trace) (openings ++ List.replicate more time)
      (endings ++ List.replicate through time) (finals ++ List.replicate final time) where
  opened := by rw [timesOf_goesOn, marks.opened, counts.opened]
  ended := by rw [timesOf_goesOn, marks.ended, counts.ended]
  finished := by rw [timesOf_goesOn, marks.finished, counts.finished]

theorem Record.Marks.silent (counts : trace.Counts 0 0 0) :
    Marks (record ++ .stamped time trace) openings endings finals := by
  have same := marks.goesOn time counts
  simp only [List.replicate_zero, List.append_nil] at same
  exact same

end Continued

/-- The schedule continues what the drain has been through with. -/
theorem Drained.compare {window free last : Nat} {arrivals begins ends rest hand final : List Nat}
    {schedule : List Arrival} (drained : Drained window free arrivals begins ends rest last)
    (marks : record.Marks (begins ++ hand) ends final)
    (times : schedule.map Arrival.time = arrivals)
    (durations : List.zipWith (· - ·) (record.timesOf Occurrence.isEnding)
      (record.timesOf Occurrence.isOpening) <+: schedule.map Arrival.duration)
    (untied : Untied window free schedule) :
    ∃ more, more.map Arrival.time = rest ∧
      drainEnds window free schedule = ends ++ drainEnds window last more := by
  have length : ends.length = begins.length := drained.length_begins.symm
  have lasted : List.zipWith (· - ·) (ends ++ []) (begins ++ hand) =
      List.zipWith (· - ·) ends begins ++ List.zipWith (· - ·) [] hand :=
    List.zipWith_append length
  rw [List.append_nil, List.zipWith_nil_left, List.append_nil] at lasted
  rw [marks.opened, marks.ended, lasted] at durations
  rcases drained.ends_eq times durations untied with ⟨more, same, _, ends⟩
  exact ⟨more, same, ends⟩

end Marks

namespace Journal

/-- A kind of entries of which there are none. -/
theorem countP_eq_zero_of {trace : Journal} {kind selects : Occurrence → Bool}
    (selected : ∀ entry ∈ trace, selects entry = true)
    (apart : ∀ entry, selects entry = true → kind entry = false) : trace.countP kind = 0 := by
  apply List.countP_eq_zero.mpr
  intro entry member
  rw [apart entry (selected entry member)]
  exact Bool.false_ne_true

/-- Others begin and end no dispatch. -/
theorem OfOthers.counts {trace : Journal} (others : trace.OfOthers) :
    trace.Counts 0 0 (trace.countP Occurrence.isFinal) := by
  refine ⟨countP_eq_zero_of others ?_, countP_eq_zero_of others ?_, rfl⟩ <;>
    (intro entry selected; cases entry <;> first | rfl | cases selected)

/-- What lies between the beginning and the end of a dispatch. -/
theorem Inner.counts {trace : Journal} (inner : trace.Inner) : trace.Counts 0 0 0 := by
  refine ⟨countP_eq_zero_of inner ?_, countP_eq_zero_of inner ?_, countP_eq_zero_of inner ?_⟩ <;>
    (intro entry selected; cases entry <;> first | rfl | cases selected)

theorem OfDispatch.no_final {trace : Journal} (ofDispatch : trace.OfDispatch) :
    trace.countP Occurrence.isFinal = 0 := by
  apply countP_eq_zero_of ofDispatch
  intro entry selected
  cases entry <;> first | rfl | cases selected

/-- A batch is taken in hand with one beginning. -/
theorem counts_takes {trace : Journal} {batch : Batch} (ofDispatch : trace.OfDispatch)
    (begun : trace.begun = [batch]) :
    Counts (.contact (.gives batch) :: .taken batch :: trace) 1
      (trace.countP Occurrence.isEnding) 0 := by
  refine ⟨?_, rfl, ofDispatch.no_final⟩
  rw [countP_isOpening]
  exact congrArg List.length begun

theorem counts_finishes (batch : Batch) : Counts [.dispatchEnded batch] 0 1 0 := ⟨rfl, rfl, rfl⟩

/-- The end of a drain is the end of the service. -/
theorem counts_completes (count : Nat) (figures : QueueStats) :
    Counts
      [.contact .givesNothing, .counted .drained count, .contact (.reports Deployment.drainTag),
        .logged (.stats Deployment.drainTag figures), .logged (.drained count),
        .entered .terminated] 0 0 1 :=
  ⟨rfl, rfl, rfl⟩

end Journal

/-- Taking a batch in hand begins one dispatch, and ends it unless the batch stays in hand. -/
theorem Opens.endings {staff : Staff} {batch : Batch} {phase : Phase} {stretch : Account}
    {worker : Worker} (opens : Opens staff batch phase stretch worker) :
    (worker = phase.resume ∧ stretch.trace.countP Occurrence.isEnding = 1) ∨
      (∃ dispatch, worker = .dispatching phase dispatch) ∧
        stretch.trace.countP Occurrence.isEnding = 0 := by
  rcases staff.serve_bounded batch with ⟨calls, inner, whole⟩
  have once : (staff.serve batch).trace.countP Occurrence.isEnding = 1 := by
    rw [whole, List.countP_cons_of_neg (by exact Bool.false_ne_true), List.countP_append,
      inner.counts.ended]
    rfl
  cases opens with
  | discards => exact Or.inl ⟨rfl, once⟩
  | @calls _ dispatch _ total =>
      refine Or.inr ⟨⟨dispatch, rfl⟩, ?_⟩
      rcases stretch.staff.complete_bounded dispatch with ⟨rest, _, ended⟩
      have part : stretch.trace ++ (stretch.staff.complete dispatch).trace =
          (staff.serve batch).trace := congrArg Account.trace total
      rw [← part, ended, List.countP_append, List.countP_append] at once
      have last : List.countP Occurrence.isEnding [.dispatchEnded dispatch.batch] = 1 := rfl
      omega

namespace Deployment

/-! ## Places in the drain -/

/-- How far a drain has come that has drained so many batches, is free since the given time
and finds the rest still to come: what it has in hand since when, and when it ended. -/
inductive Paces (window last : Nat) (rest : List Nat) (deployment : Deployment) :
    (count : Nat) → (hand final : List Nat) → Prop where
  | turns {count : Nat} (here : deployment.service.worker = .draining count)
      (stands : .worker ∈ deployment.ready) (just : deployment.now = last) :
      Paces window last rest deployment count [] []
  | waits {count : Nat} {place : SubmissionQueue.Place}
      (here : deployment.service.worker = .drainFetching count (last + window) (.queued place))
      (since : last ≤ deployment.now) (within : deployment.now ≤ last + window)
      (due : deployment.now = last + window → .worker ∈ deployment.ready)
      (prompt : ∀ arrival ∈ rest.head?, deployment.now = max arrival last) :
      Paces window last rest deployment count [] []
  | dispatches {count arrival : Nat} {others : List Nat} {dispatch : Dispatch}
      (here : deployment.service.worker = .dispatching (.drain count) dispatch)
      (first : rest = arrival :: others) (soon : arrival ≤ last + window)
      (since : max arrival last ≤ deployment.now) :
      Paces window last rest deployment count [max arrival last] []
  | ends {count : Nat} (here : deployment.service.worker = .done count)
      (passed : last + window ≤ deployment.now)
      (late : ∀ arrival ∈ rest.head?, last + window ≤ arrival) :
      Paces window last rest deployment count [] [last + window]

/-- The record of a drain that is free for the first time at the given time, with the times
at which the batches for it have arrived. -/
inductive Paced (window free : Nat) (arrivals : List Nat) (record : Record)
    (deployment : Deployment) : Prop where
  | intro {begins ends rest hand final : List Nat} {last : Nat}
      (marks : record.Marks (begins ++ hand) ends final)
      (drained : Drained window free arrivals begins ends rest last)
      (paces : Paces window last rest deployment ends.length hand final) :
      Paced window free arrivals record deployment

section Steps

variable {before after : Deployment} {window free last count : Nat}
  {arrivals rest hand final : List Nat} {record : Record}

/-! ## Beats of others -/

/-- What arrives comes after what has been there. -/
theorem mem_head?_arrived {more now arrival : Nat}
    (first : arrival ∈ (rest ++ List.replicate more now).head?) :
    arrival ∈ rest.head? ∨ arrival = now := by
  cases rest with
  | nil => exact Or.inr (List.eq_of_mem_replicate (List.mem_of_mem_head? first))
  | cons _ _ => exact Or.inl first

/-- Others may bring batches, and leave the worker where it is. -/
theorem Paces.elsewhere (paces : Paces window last rest before count hand final)
    (elsewhere : Elsewhere before after) (still : after.now = before.now) (more : Nat) :
    Paces window last (rest ++ List.replicate more before.now) after count hand final := by
  have worker := elsewhere.worker
  cases paces with
  | turns here stands just =>
      exact .turns (worker.trans here) (elsewhere.line stands) (still.trans just)
  | waits here since within due prompt =>
      refine .waits (worker.trans here) (still ▸ since) (still ▸ within) ?_ ?_
      · intro elapsed
        exact elsewhere.line (due (still.symm.trans elapsed))
      · intro arrival first
        rw [still]
        rcases mem_head?_arrived first with there | now
        · exact prompt arrival there
        · rw [now, Nat.max_eq_left since]
  | @dispatches arrival others _ here first soon since =>
      have arrived : rest ++ List.replicate more before.now =
          arrival :: (others ++ List.replicate more before.now) := by
        rw [first, List.cons_append]
      exact .dispatches (worker.trans here) arrived soon (still ▸ since)
  | ends here passed late =>
      refine .ends (worker.trans here) (still ▸ passed) ?_
      intro arrival first
      rcases mem_head?_arrived first with there | now
      · exact late arrival there
      · exact now ▸ passed

/-- The clock moves where nobody can act: then nothing is there for a worker that waits. -/
theorem Paces.clock (paces : Paces window last rest before count hand final)
    (settled : before.Settled) (worker : after.service.worker = before.service.worker)
    (later : before.now ≤ after.now)
    (nothing : ∀ count deadline place,
      before.service.worker = .drainFetching count deadline (.queued place) →
        rest.length = hand.length)
    (alarm : ∀ count deadline place,
      before.service.worker = .drainFetching count deadline (.queued place) →
      before.now < deadline →
        after.now < deadline ∨ (after.now = deadline ∧ .worker ∈ after.ready)) :
    Paces window last rest after count hand final := by
  have nobody : .worker ∉ before.ready := by
    rw [show before.ready = [] from settled]
    exact List.not_mem_nil
  cases paces with
  | turns _ stands _ => exact absurd stands nobody
  | waits here since within due _ =>
      have early : before.now < last + window :=
        Nat.lt_of_le_of_ne within fun elapsed => nobody (due elapsed)
      have none (arrival : Nat) : arrival ∉ rest.head? := by
        rw [List.length_eq_zero_iff.mp (nothing _ _ _ here)]
        intro impossible
        cases impossible
      rcases alarm _ _ _ here early with ahead | ⟨elapsed, stands⟩
      · refine .waits (worker.trans here) (Nat.le_trans since later) (Nat.le_of_lt ahead) ?_ ?_
        · intro elapsed
          exact absurd elapsed (Nat.ne_of_lt ahead)
        · exact fun arrival first => absurd first (none arrival)
      · refine .waits (worker.trans here) (Nat.le_trans since later) (Nat.le_of_eq elapsed) ?_ ?_
        · exact fun _ => stands
        · exact fun arrival first => absurd first (none arrival)
  | dispatches here first soon since =>
      exact .dispatches (worker.trans here) first soon (Nat.le_trans since later)
  | ends here passed late => exact .ends (worker.trans here) (Nat.le_trans passed later) late

end Steps

/-! ## The worker's own turns -/

end Deployment

/-- Whether the worker has left its main loop. -/
def Worker.drains : Worker → Bool
  | .draining _ | .drainFetching _ _ (.queued _) | .dispatching (.drain _) _ | .done _ => true
  | _ => false

namespace Deployment

theorem Seated.at_place {deployment : Deployment} {queue : SubmissionQueue Actor Batch}
    (seated : deployment.Seated queue) {count deadline : Nat} {place : SubmissionQueue.Place}
    (here : deployment.service.worker = .drainFetching count deadline (.queued place)) :
    queue.SeatedAt place := by
  unfold Seated at seated
  rwa [here] at seated

/-- What the worker of a drain does in a turn, by the place where it stands before, with its
place afterwards and what it leaves in the journal. -/
inductive DrainTurn (before : Deployment) (queue : SubmissionQueue Actor Batch) :
    Worker → Progress → Worker → Journal → Prop where
  | turnsToQueue {count : Nat} :
      DrainTurn before queue (.draining count) .goesOn
        (.drainFetching count (before.now + before.service.drainWait) (.queued .line))
        [.contact (.waitsWithin before.service.drainWait)]
  | waits {count deadline : Nat} {place : SubmissionQueue.Place} (reached : SubmissionQueue.Place)
      (early : before.now < deadline) :
      DrainTurn before queue (.drainFetching count deadline (.queued place)) .rests
        (.drainFetching count deadline (.queued reached)) []
  | takes {count deadline : Nat} {place : SubmissionQueue.Place} {batch : Batch} {stretch : Account}
      {worker : Worker} (there : queue.buffer ≠ [])
      (opens : Opens before.service.staff batch (.drain count) stretch worker)
      (ofDispatch : stretch.trace.OfDispatch) (begun : stretch.trace.begun = [batch]) :
      DrainTurn before queue (.drainFetching count deadline (.queued place)) .goesOn worker
        (.contact (.gives batch) :: .taken batch :: stretch.trace)
  | dispatches {progress : Progress} {count : Nat} {dispatch : Dispatch} {trace : Journal}
      (later : Dispatch) (inner : trace.Inner) :
      DrainTurn before queue (.dispatching (.drain count) dispatch) progress
        (.dispatching (.drain count) later) trace
  | finishes {count : Nat} {dispatch : Dispatch} :
      DrainTurn before queue (.dispatching (.drain count) dispatch) .goesOn (.draining (count + 1))
        [.dispatchEnded dispatch.batch]
  | completes {count deadline : Nat} {place : SubmissionQueue.Place} (figures : QueueStats)
      (empty : queue.buffer = []) (exhausts : queue.mayReceive = false ∨ deadline ≤ before.now) :
      DrainTurn before queue (.drainFetching count deadline (.queued place)) .goesOn (.done count)
        [.contact .givesNothing, .counted .drained count, .contact (.reports drainTag),
          .logged (.stats drainTag figures), .logged (.drained count), .entered .terminated]
  | rests {count : Nat} : DrainTurn before queue (.done count) .rests (.done count) []

section Turns

variable {before : Deployment} {queue next : SubmissionQueue Actor Batch} {progress : Progress}
  {woken : List Actor} {service : Service} {trace : Journal}

theorem WorkerTurn.drainTurn (turn : WorkerTurn before queue progress woken next service trace)
    (seated : before.Seated queue) (drains : before.service.worker.drains = true) :
    DrainTurn before queue before.service.worker progress service.worker trace := by
  cases turn with
  | rests still =>
      rcases still with here | ⟨count, here⟩ | ⟨here, _⟩ <;> rw [here] at drains ⊢
      · cases drains
      · exact .rests
      · cases drains
  | startsUp here _ | startsLate here _ | turnsToQueue here _ _ | leavesLoop here _
  | unparks here _ =>
      rw [here] at drains
      cases drains
  | interrupted here _ =>
      rw [here] at drains
      cases drains
  | shutOut seeks _ | waits seeks _ =>
      cases seeks with
      | main here _ =>
          rw [here] at drains
          cases drains
  | drainWaits here early _ =>
      rw [here]
      exact .waits _ early
  | @takes phase place batch woken next worker stretch seeks looked opens ofDispatch begun =>
      cases seeks with
      | main here _ =>
          rw [here] at drains
          cases drains
      | drain here =>
          have looks := SubmissionQueue.seek_alone (seated.at_place here) Actor.worker
          rw [looked] at looks
          cases looks with
          | item front =>
              rw [here]
              refine .takes ?_ opens ofDispatch begun
              rw [front]
              exact List.cons_ne_nil _ _
  | @dispatches _ phase _ _ _ here _ inner _ =>
      rw [here] at drains ⊢
      cases phase with
      | main => cases drains
      | drain count => exact .dispatches _ inner
  | @finishes phase _ here _ =>
      rw [here] at drains ⊢
      cases phase with
      | main => cases drains
      | drain count => exact .finishes
  | turnsToDrain here =>
      rw [here]
      exact .turnsToQueue
  | completes here gives =>
      rcases gives.alone (seated.at_place here) with ⟨_, _, empty, exhausts⟩
      rw [here]
      exact .completes _ empty exhausts

end Turns

section Steps

variable {before after : Deployment} {queue : SubmissionQueue Actor Batch} {progress : Progress}
  {trace : Journal} {window free : Nat} {arrivals : List Nat} {record : Record}

/-- What is known of a drain whose record is being continued. -/
structure Poised (before : Deployment) (queue : SubmissionQueue Actor Batch) (window : Nat)
    (arrivals : List Nat) (record : Record) : Prop where
  wait : before.service.drainWait = window
  receives : before.service.worker.isGone = false → queue.mayReceive = true
  balance : arrivals.length = (record.timesOf Occurrence.isOpening).length + queue.buffer.length
  past : ∀ arrival ∈ arrivals, arrival ≤ before.now

/-- The batches that have arrived and have not been taken up are in the buffer. -/
theorem Poised.length_rest {before : Deployment} {begins ends rest hand : List Nat} {last : Nat}
    (poised : before.Poised queue window arrivals record)
    (opened : record.timesOf Occurrence.isOpening = begins ++ hand)
    (drained : Drained window free arrivals begins ends rest last) :
    rest.length = hand.length + queue.buffer.length := by
  have balance := poised.balance
  have begun := drained.length_begins
  have arrived := drained.length_arrivals
  rw [opened, List.length_append] at balance
  omega

/-- The worker takes up a batch in the very moment in which it is there and he is free. -/
theorem paced_takes {begins ends others : List Nat} {last arrival : Nat} {batch : Batch}
    {stretch : Account} {worker : Worker} (marks : record.Marks begins ends [])
    (drained : Drained window free arrivals begins ends (arrival :: others) last)
    (soon : arrival ≤ last + window) (now : before.now = max arrival last)
    (opens : Opens before.service.staff batch (.drain ends.length) stretch worker)
    (ofDispatch : stretch.trace.OfDispatch) (begun : stretch.trace.begun = [batch])
    (reached : after.service.worker = worker) (still : after.now = before.now)
    (stands : .worker ∈ after.ready) :
    Paced window free arrivals
      (record ++ .stamped before.now (.contact (.gives batch) :: .taken batch :: stretch.trace))
      after := by
  have continued := marks.goesOn before.now (Journal.counts_takes ofDispatch begun)
  rw [now] at still continued ⊢
  rcases opens.endings with ⟨resumed, once⟩ | ⟨⟨dispatch, inHand⟩, none⟩
  · have place : after.service.worker = .draining (ends ++ [max arrival last]).length := by
      rw [reached, resumed, List.length_append]
      rfl
    rw [once] at continued
    rw [← List.append_nil (begins ++ _)] at continued
    exact ⟨continued, drained.snoc rfl soon (Nat.le_refl _), .turns place stands still⟩
  · rw [none] at continued
    simp only [List.replicate_zero, List.append_nil] at continued
    exact ⟨continued, drained,
      .dispatches (reached.trans inHand) rfl soon (Nat.le_of_eq still.symm)⟩

/-- When a dispatch ends, the worker is free again. -/
theorem paced_finishes {begins ends others : List Nat} {last arrival : Nat} {batch : Batch}
    (marks : record.Marks (begins ++ [max arrival last]) ends [])
    (drained : Drained window free arrivals begins ends (arrival :: others) last)
    (soon : arrival ≤ last + window) (since : max arrival last ≤ before.now)
    (reached : after.service.worker = .draining (ends.length + 1)) (still : after.now = before.now)
    (stands : .worker ∈ after.ready) :
    Paced window free arrivals (record ++ .stamped before.now [.dispatchEnded batch]) after := by
  have place : after.service.worker = .draining (ends ++ [before.now]).length := by
    rw [reached, List.length_append]
    rfl
  have continued := marks.goesOn before.now (Journal.counts_finishes batch)
  simp only [List.replicate_zero, List.append_nil, List.replicate_one] at continued
  rw [← List.append_nil (begins ++ _)] at continued
  exact ⟨continued, drained.snoc rfl soon since, .turns place stands still⟩

/-- The drain is over at the end of a window in which nothing has arrived. -/
theorem paced_completes {begins ends : List Nat} {last : Nat} (marks : record.Marks begins ends [])
    (drained : Drained window free arrivals begins ends [] last) (now : before.now = last + window)
    (figures : QueueStats) (reached : after.service.worker = .done ends.length)
    (still : after.now = before.now) :
    Paced window free arrivals
      (record ++ .stamped before.now
        [.contact .givesNothing, .counted .drained ends.length, .contact (.reports drainTag),
          .logged (.stats drainTag figures), .logged (.drained ends.length), .entered .terminated])
      after := by
  have continued := marks.goesOn before.now (Journal.counts_completes ends.length figures)
  simp only [List.replicate_zero, List.append_nil, List.nil_append, List.replicate_one, now]
    at continued
  rw [← List.append_nil begins] at continued
  rw [now]
  refine ⟨continued, drained, .ends reached (Nat.le_of_eq (still.trans now).symm) ?_⟩
  intro arrival impossible
  cases impossible

/-- A turn of the worker takes the drain on. -/
theorem Paced.turn (paced : Paced window free arrivals record before)
    (poised : before.Poised queue window arrivals record)
    (turn : DrainTurn before queue before.service.worker progress after.service.worker trace)
    (still : after.now = before.now) (stands : progress = .goesOn → .worker ∈ after.ready) :
    Paced window free arrivals (record ++ .stamped before.now trace) after := by
  rcases paced with @⟨begins, ends, rest, hand, final, last, marks, drained, paces⟩
  have length := poised.length_rest marks.opened drained
  generalize reached : after.service.worker = worker at turn
  cases paces with
  | turns here _ just =>
      rw [here] at turn
      cases turn with
      | turnsToQueue =>
          rw [poised.wait, just] at reached
          refine ⟨marks.silent _ ⟨rfl, rfl, rfl⟩, drained,
            .waits reached (still ▸ Nat.le_of_eq just.symm) ?_ (fun _ => stands rfl) ?_⟩
          · rw [still, just]
            exact Nat.le_add_right _ _
          · intro arrival first
            have past := poised.past arrival (drained.suffix.subset (List.mem_of_mem_head? first))
            rw [still, just]
            exact (Nat.max_eq_right (just ▸ past)).symm
  | waits here since within _ prompt =>
      rw [here] at turn
      cases turn with
      | waits _ early =>
          refine ⟨marks.silent _ ⟨rfl, rfl, rfl⟩, drained,
            .waits reached (still ▸ since) (still ▸ within) ?_ (still ▸ prompt)⟩
          intro elapsed
          exact absurd (still ▸ elapsed) (Nat.ne_of_lt early)
      | takes there opens ofDispatch begun =>
          have some : rest ≠ [] := by
            intro none
            rw [none] at length
            exact there (List.length_eq_zero_iff.mp ((Nat.zero_add _).symm.trans length.symm))
          rcases List.exists_cons_of_ne_nil some with ⟨arrival, others, first⟩
          have now : before.now = max arrival last := by
            apply prompt
            rw [first]
            rfl
          have soon : arrival ≤ last + window :=
            Nat.le_trans (Nat.le_max_left arrival last) (now ▸ within)
          rw [List.append_nil] at marks
          exact paced_takes marks (first ▸ drained) soon now opens ofDispatch begun reached still
            (stands rfl)
      | completes figures empty exhausts =>
          have due : last + window ≤ before.now := by
            rcases exhausts with exhausted | due
            · rw [poised.receives (by rw [here]; rfl)] at exhausted
              cases exhausted
            · exact due
          rw [List.append_nil] at marks
          rw [empty] at length
          exact paced_completes marks (List.length_eq_zero_iff.mp length ▸ drained)
            (Nat.le_antisymm within due) figures reached still
  | @dispatches _ _ dispatch here first soon since =>
      rw [here] at turn
      cases turn with
      | dispatches later inner =>
          exact ⟨marks.silent _ inner.counts, drained,
            .dispatches reached first soon (still ▸ since)⟩
      | finishes =>
          exact paced_finishes marks (first ▸ drained) soon since reached still (stands rfl)
  | ends here passed late =>
      rw [here] at turn
      cases turn with
      | rests =>
          exact ⟨marks.silent _ ⟨rfl, rfl, rfl⟩, drained, .ends reached (still ▸ passed) late⟩

/-- A turn of a drain brings no batch. -/
theorem DrainTurn.no_acceptance {earlier later : Worker}
    (turn : DrainTurn before queue earlier progress later trace) :
    trace.countP Occurrence.isAcceptance = 0 := by
  cases turn with
  | takes _ _ ofDispatch _ =>
      rw [Journal.countP_isAcceptance]
      exact congrArg List.length ofDispatch.accepted_eq
  | dispatches _ inner =>
      rw [Journal.countP_isAcceptance, inner.ofDispatch.accepted_eq]
      rfl
  | _ => rfl

/-- Whoever is on the way through a drain has left the main loop. -/
theorem Paces.drains {last count : Nat} {rest hand final : List Nat}
    (paces : Paces window last rest before count hand final) :
    before.service.worker.drains = true := by
  cases paces with
  | turns here _ _ | waits here _ _ _ _ | dispatches here _ _ _ | ends here _ _ =>
      rw [here]
      rfl

/-- What is known of the queue when the next beat comes. -/
structure Attentive (before : Deployment) (queue : SubmissionQueue Actor Batch) : Prop where
  undisturbed : before.Undisturbed queue
  /-- Whoever waits where nobody can act has nothing to wait for. -/
  nothing : before.Settled → ∀ count deadline place,
    before.service.worker = .drainFetching count deadline (.queued place) → queue.buffer = []

/-- Others bring what they bring. -/
theorem Paced.elsewhere (paced : Paced window free arrivals record before)
    (elsewhere : Elsewhere before after) (still : after.now = before.now)
    (written : after.journal = before.journal ++ trace)
    (quiet : trace.countP Occurrence.isFinal = 0) :
    Paced window free
      (arrivals ++ List.replicate (trace.countP Occurrence.isAcceptance) before.now)
      (record ++ .stamped before.now trace) after := by
  rcases paced with ⟨marks, drained, paces⟩
  rcases elsewhere.journal with ⟨_, others, journal⟩
  have same := List.append_cancel_left (written.symm.trans journal)
  have counts := others.counts
  rw [← same, quiet] at counts
  exact ⟨marks.silent _ counts, drained.append _, paces.elsewhere elsewhere still _⟩

/-- The clock moves on while the worker waits, or has a batch in hand, or is done. -/
theorem Paced.clock (paced : Paced window free arrivals record before)
    (poised : before.Poised queue window arrivals record) (attentive : before.Attentive queue)
    (settled : before.Settled) (worker : after.service.worker = before.service.worker)
    (later : before.now ≤ after.now)
    (alarm : ∀ count deadline place,
      before.service.worker = .drainFetching count deadline (.queued place) →
      before.now < deadline →
        after.now < deadline ∨ (after.now = deadline ∧ .worker ∈ after.ready)) :
    Paced window free arrivals record after := by
  rcases paced with ⟨marks, drained, paces⟩
  refine ⟨marks, drained, paces.clock settled worker later ?_ alarm⟩
  intro count deadline place here
  rw [poised.length_rest marks.opened drained, attentive.nothing settled _ _ _ here]
  rfl

/-- Where nothing is written the record stays as it is. -/
theorem Paced.unwritten (paced : Paced window free arrivals record after) (now : Nat) :
    Paced window free
      (arrivals ++ List.replicate (List.countP Occurrence.isAcceptance []) now)
      (record ++ .stamped now []) after := by
  rw [List.countP_nil, List.replicate_zero, List.append_nil]
  exact (List.append_nil record).symm ▸ paced

/-- The worker has the turn. -/
theorem Paced.tick {others : List Actor} (paced : Paced window free arrivals record before)
    (poised : before.Poised queue window arrivals record) (undisturbed : before.Undisturbed queue)
    (drains : before.service.worker.drains = true) (line : before.ready = .worker :: others)
    (written : before.tick.journal = before.journal ++ trace)
    (still : before.tick.now = before.now) :
    Paced window free
      (arrivals ++ List.replicate (trace.countP Occurrence.isAcceptance) before.now)
      (record ++ .stamped before.now trace) before.tick := by
  rcases advanceWorker_turn undisturbed.buffered undisturbed.sound.course with
    ⟨progress, woken, next, service, gates, traced, same, turn, _⟩
  rw [tick_of_worker line, same] at written still ⊢
  have drainTurn := turn.drainTurn undisturbed.seated drains
  generalize moved : (before.worked woken next service gates traced).afterTurn progress =
    after at written still ⊢
  have journal : after.journal = before.journal ++ traced := by
    rw [← moved]
    cases progress <;> rfl
  have worker : after.service.worker = service.worker := by
    rw [← moved]
    cases progress <;> rfl
  have stands (goesOn : progress = .goesOn) : .worker ∈ after.ready := by
    rw [← moved, goesOn]
    refine mem_lineUpAll.mpr (Or.inl ?_)
    rw [line]
    exact List.mem_cons_self
  have same : trace = traced := List.append_cancel_left (written.symm.trans journal)
  rw [same, drainTurn.no_acceptance, List.replicate_zero, List.append_nil]
  exact paced.turn poised (worker ▸ drainTurn) still stands

/-- Every beat takes the drain on. -/
theorem Paced.beat (paced : Paced window free arrivals record before)
    (poised : before.Poised queue window arrivals record) (attentive : before.Attentive queue)
    (beat : Beat before after) (written : after.journal = before.journal ++ trace)
    (quiet : after.service.worker = before.service.worker →
      trace.countP Occurrence.isFinal = 0) :
    Paced window free
      (arrivals ++ List.replicate (trace.countP Occurrence.isAcceptance) before.now)
      (record ++ .stamped before.now trace) after := by
  have undisturbed := attentive.undisturbed
  have drains : before.service.worker.drains = true := by
    cases paced with
    | intro _ _ paces => exact paces.drains
  cases beat with
  | acts _ alone still =>
      cases alone.befalls with
      | worker line => exact paced.tick poised undisturbed drains line written still
      | starts new =>
          have idle := (undisturbed.sound.course.idle_of_new new).1
          rw [idle] at drains
          cases drains
      | elsewhere elsewhere =>
          exact paced.elsewhere elsewhere still written (quiet elsewhere.worker)
  | @rings time settled next =>
      have silent : (before.ring time).journal = before.journal := by rw [ring, wakeAll_eq]
      rw [List.self_eq_append_right.mp (silent.symm.trans written)]
      refine Paced.unwritten ?_ before.now
      apply paced.clock poised attentive settled
      · rw [ring, wakeAll_eq]
      · rw [ring, wakeAll_eq]
        exact Nat.le_of_lt (lt_of_nextAlarm? next)
      · intro count deadline place here early
        rcases undisturbed.sole.alarm here early with ⟨known, due⟩
        rw [next] at known
        cases known
        refine Or.inr ?_
        rw [ring, wakeAll_eq, due]
        exact ⟨rfl, mem_lineUpAll.mpr (Or.inr List.mem_cons_self)⟩
  | passes settled later early =>
      rw [List.self_eq_append_right.mp written]
      refine Paced.unwritten ?_ before.now
      apply paced.clock poised attentive settled
      · rfl
      · exact later
      · intro count deadline place here ahead
        exact Or.inl (early deadline (undisturbed.sole.alarm here ahead).1)

end Steps

end Deployment
end FailureDispatch

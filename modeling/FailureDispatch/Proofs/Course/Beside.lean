import FailureDispatch.Proofs.Course.Evolution
import FailureDispatch.Proofs.Dispatch.Reference
import FailureDispatch.Proofs.Journal.Own

/-!
# What happens beside the worker

The callers, and whoever acts from outside, change the queue, the calls and the
gates, and they may tell the service to stop.  They do not move the worker, they do
not touch the staff that he works with, and they write nothing that is his.
`Beside` says so, over any queue and whatever the state of the service is.

Of all moves, only two are not of this kind: the turn of the worker and the start of the
service (`Move.befalls`).
-/

namespace FailureDispatch

/-- What others may make of the queue: only one in memory can be operated on. -/
inductive Source.Becomes : Source → Source → Prop where
  | same (source : Source) : Becomes source source
  | operated (queue next : SubmissionQueue Actor Batch) : Becomes (.buffered queue) (.buffered next)

theorem Source.Becomes.trans {first next last : Source} (earlier : first.Becomes next)
    (later : next.Becomes last) : first.Becomes last := by
  cases earlier with
  | same _ => exact later
  | operated queue middle =>
      cases later with
      | same _ => exact .operated queue middle
      | operated _ final => exact .operated queue final

namespace Deployment

/-- A change in which the worker has no part. -/
structure Elsewhere (before after : Deployment) : Prop where
  worker : after.service.worker = before.service.worker
  staff : after.service.staff = before.service.staff
  journal : ∃ trace : Journal, trace.OfOthers ∧ after.journal = before.journal ++ trace
  line : .worker ∈ before.ready → .worker ∈ after.ready
  /-- A request to stop is never taken back. -/
  told : before.service.stopRequested = true → after.service.stopRequested = true
  state : after.service.state = before.service.state ∨ after.service.stopRequested = true ∨
    before.service.worker.isGone = true
  started : before.service.state ≠ .new → after.service.state ≠ .new
  source : before.source.Becomes after.source

/-- Such a change, by which moreover nobody leaves the line. -/
structure Beside (before after : Deployment) : Prop extends Elsewhere before after where
  grows : ∃ woken, after.ready = lineUpAll before.ready woken

namespace Beside

variable {first next last before : Deployment}

theorem trans (earlier : Beside first next) (later : Beside next last) : Beside first last where
  worker := later.worker.trans earlier.worker
  staff := later.staff.trans earlier.staff
  journal := by
    rcases earlier.journal with ⟨trace, others, journal⟩
    rcases later.journal with ⟨rest, more, continued⟩
    exact ⟨trace ++ rest, others.append more, by rw [continued, journal, List.append_assoc]⟩
  line := later.line ∘ earlier.line
  told := later.told ∘ earlier.told
  state := by
    rcases later.state with same | told | gone
    · rcases earlier.state with before | told | gone
      · exact Or.inl (same.trans before)
      · exact Or.inr (Or.inl (later.told told))
      · exact Or.inr (Or.inr gone)
    · exact Or.inr (Or.inl told)
    · exact Or.inr (Or.inr (earlier.worker ▸ gone))
  started := later.started ∘ earlier.started
  source := earlier.source.trans later.source
  grows := by
    rcases earlier.grows with ⟨woken, line⟩
    rcases later.grows with ⟨more, continued⟩
    exact ⟨woken ++ more, by rw [continued, line, lineUpAll_lineUpAll]⟩

/-- Whatever changes around the service. -/
theorem around {now : Nat} (woken : List Actor) {source : Source} {holder : Holder}
    {jobs : List (Nat × Job)} {outcomes : List (Nat × Outcome)}
    {gates : List (String × Permits Actor)} {cancelled : List String}
    {watches : List (String × Nat)} {trace : Journal} (others : trace.OfOthers)
    (becomes : before.source.Becomes source) :
    Beside before
      { before with
        now, source, holder, jobs, outcomes, gates, cancelled, watches
        ready := lineUpAll before.ready woken
        journal := before.journal ++ trace } where
  worker := rfl
  staff := rfl
  journal := ⟨trace, others, rfl⟩
  line := fun stands => mem_lineUpAll.mpr (Or.inl stands)
  told := id
  state := Or.inl rfl
  started := id
  source := becomes
  grows := ⟨woken, rfl⟩

/-- A change of the state and of the mark of a requested stop. -/
theorem of_state {woken : List Actor} {state : ServiceState} {version : Nat} {stop : Bool}
    {trace : Journal} (others : trace.OfOthers)
    (told : before.service.stopRequested = true → stop = true)
    (allowed : state = before.service.state ∨ stop = true ∨
      before.service.worker.isGone = true)
    (started : before.service.state ≠ .new → state ≠ .new) :
    Beside before
      { before with
        ready := lineUpAll before.ready woken
        service := { before.service with state, version, stopRequested := stop }
        journal := before.journal ++ trace } where
  worker := rfl
  staff := rfl
  journal := ⟨trace, others, rfl⟩
  line := fun stands => mem_lineUpAll.mpr (Or.inl stands)
  told := told
  state := allowed
  started := started
  source := .same _
  grows := ⟨woken, rfl⟩

end Beside

/-! ## Parts of a turn -/

section Parts

variable (before : Deployment)

/-- Whatever changes around the service without an entry in the journal. -/
theorem Beside.silently {now : Nat} (woken : List Actor) {source : Source} {holder : Holder}
    {jobs : List (Nat × Job)} {outcomes : List (Nat × Outcome)}
    {gates : List (String × Permits Actor)} {cancelled : List String}
    {watches : List (String × Nat)}
    (becomes : before.source.Becomes source) :
    Beside before
      { before with
        now, source, holder, jobs, outcomes, gates, cancelled, watches
        ready := lineUpAll before.ready woken } := by
  have beside : Beside before
      { before with
        now, source, holder, jobs, outcomes, gates, cancelled, watches
        ready := lineUpAll before.ready woken
        journal := before.journal ++ [] } := .around woken .nil becomes
  rwa [List.append_nil] at beside

theorem beside_refl : Beside before before :=
  Beside.silently before [] (.same _)

theorem beside_note {entry : Occurrence} (others : entry.isOfOthers = true) :
    Beside before (before.note entry) :=
  Beside.around [] (.cons others .nil) (.same _)

/-- Only an in-memory queue is replaced by an operation on it. -/
theorem beside_adopt {queue : SubmissionQueue Actor Batch} (buffered : before.source = .buffered queue)
    (woken : List Actor) (next : SubmissionQueue Actor Batch) :
    Beside before (before.adopt woken next) := by
  rw [adopt_eq]
  apply Beside.silently before woken
  rw [buffered]
  exact .operated queue next

theorem beside_finish (id : Nat) (outcome : Outcome) : Beside before (before.finish id outcome) :=
  Beside.silently before [] (.same _)

theorem beside_setJob (id : Nat) (job : Job) : Beside before (before.setJob id job) :=
  Beside.silently before [] (.same _)

theorem beside_logStats (tag : String) : Beside before (before.logStats tag) := by
  unfold logStats
  split <;> exact beside_note before rfl

theorem beside_requestStats (tag : String) : Beside before (before.requestStats tag) :=
  (beside_note before rfl).trans (beside_logStats _ tag)

theorem beside_requestStop : Beside before before.requestStop := by
  rcases cancelWorker_eq before with ⟨woken, _, told⟩
  cases can : before.service.state.canBecome .stopping with
  | false =>
      have marked : Beside before
          { before with
            ready := lineUpAll before.ready woken
            service := { before.service with stopRequested := true }
            journal := before.journal ++ [] } :=
        .of_state .nil (fun _ => rfl) (Or.inl rfl) id
      rw [List.append_nil] at marked
      simp only [requestStop, enter_of_cannot can, told]
      exact marked
  | true =>
      simp only [requestStop, enter_of_canBecome can]
      generalize moved : ({ before with
          ready := lineUpAll before.ready (before.callersWith Call.observesState)
          service :=
            { before.service with state := .stopping, version := before.service.version + 1 }
          journal := before.journal ++ [.entered .stopping] } : Deployment) = entered
      rcases cancelWorker_eq entered with ⟨woken, _, told⟩
      have marked : Beside before entered.cancelWorker := by
        rw [told, ← moved]
        simp only [lineUpAll_lineUpAll]
        exact Beside.of_state (.cons rfl .nil) (fun _ => rfl) (Or.inr (Or.inl rfl))
          (fun _ => by decide)
      exact (marked.trans (beside_note _ rfl)).trans (beside_requestStats _ stopTag)

/-- Whoever joins a service whose worker was torn down buries it. -/
theorem beside_bury (gone : before.service.worker.isGone = true) :
    Beside before (before.enter .failed).2 := by
  cases can : before.service.state.canBecome .failed with
  | false =>
      rw [enter_of_cannot can]
      exact beside_refl before
  | true =>
      rw [enter_of_canBecome can]
      exact Beside.of_state (.cons rfl .nil) id (Or.inr (Or.inr gone)) (fun _ => by decide)

end Parts

/-! ## Turns of the callers -/

section Turns

variable {before : Deployment}

theorem beside_report (id : Nat) (door : Door) (result : Except FailureError Nat) :
    Beside before (before.report id door result) := by
  cases door with
  | service => cases result <;> exact beside_finish before id _
  | runtime =>
      unfold report leaveRuntime
      cases source : before.source with
      | buffered queue =>
          have closed := beside_adopt before source queue.close.1 queue.close.2
          cases result with
          | ok count => exact (closed.trans (beside_note _ rfl)).trans (beside_finish _ id _)
          | error error => exact closed.trans (beside_finish _ id _)
      | scripted queue =>
          cases result with
          | ok count => exact (beside_note before rfl).trans (beside_finish _ id _)
          | error error => exact beside_finish before id _

theorem beside_advanceJoin (id : Nat) (door : Door) : Beside before (before.advanceJoin id door) := by
  unfold advanceJoin
  cases here : before.service.worker with
  | done count | failed error => exact beside_report id door _
  | aborted text =>
      have buried := beside_bury before (by rw [here]; rfl)
      exact buried.trans (beside_report id door _)
  | _ => exact beside_refl before

theorem beside_dismantle (id : Nat) (call : Call) : Beside before (before.dismantle id call) := by
  have quiet := beside_finish before id .aborted
  unfold dismantle
  cases call with
  | submit door batch begun =>
      cases begun with
      | false => exact quiet
      | true =>
          cases source : before.source with
          | scripted queue => exact quiet
          | buffered queue => exact (beside_adopt before source _ _).trans (beside_finish _ id _)
  | consume _ _ | consumeWithin _ _ =>
      cases source : before.source with
      | scripted queue => exact quiet
      | buffered queue => exact (beside_adopt before source _ _).trans (beside_finish _ id _)
  | join _ _ => exact (beside_requestStop before).trans (beside_finish _ id _)
  | joining _ | awaitRunning | awaitTerminated => exact quiet

theorem beside_settleSubmission (id : Nat) (door : Door) (batch : Batch)
    (submission : SubmissionQueue.Submission) :
    Beside before (before.settleSubmission id door batch submission) := by
  cases submission with
  | accepted | refused error => exact (beside_note before rfl).trans (beside_finish _ id _)
  | waiting => exact beside_setJob before id _

theorem beside_advanceCall (id : Nat) (call : Call) : Beside before (before.advanceCall id call) := by
  have still := beside_refl before
  unfold advanceCall
  cases call with
  | submit door batch begun =>
      cases source : before.source with
      | scripted queue => exact still
      | buffered queue => exact (beside_adopt before source _ _).trans (beside_settleSubmission ..)
  | consume token place =>
      cases source : before.source with
      | scripted queue => exact still
      | buffered queue =>
          dsimp only
          split
          · exact (beside_adopt before source _ _).trans (beside_finish _ id _)
          · rcases queue.seek (.caller id) place with ⟨batch | _ | reached, woken, next⟩
            · exact ((beside_adopt before source _ _).trans (beside_note _ rfl)).trans
                (beside_finish _ id _)
            · exact (beside_adopt before source _ _).trans (beside_finish _ id _)
            · exact (beside_adopt before source _ _).trans (beside_setJob _ id _)
  | consumeWithin deadline place =>
      cases source : before.source with
      | scripted queue => exact still
      | buffered queue =>
          dsimp only
          rcases queue.seek (.caller id) place with ⟨batch | _ | reached, woken, next⟩
          · exact ((beside_adopt before source _ _).trans (beside_note _ rfl)).trans
              (beside_finish _ id _)
          · exact (beside_adopt before source _ _).trans (beside_finish _ id _)
          · have waits := beside_adopt before source woken next
            have there : (before.adopt woken next).source = .buffered next := by rw [adopt_eq]
            dsimp only
            split
            · exact (waits.trans (beside_adopt _ there _ _)).trans (beside_finish _ id _)
            · exact waits.trans (beside_setJob _ id _)
  | join door stopFirst =>
      cases stopFirst with
      | true =>
          exact ((beside_requestStop before).trans (beside_setJob _ id _)).trans
            (beside_advanceJoin id door)
      | false => exact (beside_setJob before id _).trans (beside_advanceJoin id door)
  | joining door => exact beside_advanceJoin id door
  | awaitRunning =>
      dsimp only
      split <;> first | exact still | exact beside_finish before id _
  | awaitTerminated =>
      dsimp only
      split <;> first | exact still | exact beside_finish before id _

theorem beside_advanceCaller (id : Nat) : Beside before (before.advanceCaller id) := by
  unfold advanceCaller
  rcases before.job? id with _ | ⟨call, _ | _⟩
  · exact beside_refl before
  · exact beside_advanceCall id call
  · exact beside_dismantle id call

/-- When a caller has had his turn, he leaves the line and the worker does not. -/
theorem elsewhere_caller {id : Nat} {rest : List Actor} (line : before.ready = .caller id :: rest) :
    Elsewhere before (before.advanceCaller id).stepBack := by
  have beside : Beside before (before.advanceCaller id) := beside_advanceCaller id
  refine { beside.toElsewhere with line := ?_ }
  intro stands
  rcases beside.grows with ⟨woken, grown⟩
  rw [line] at stands grown
  have behind : .worker ∈ rest := by
    cases stands with
    | tail _ member => exact member
  simp only [stepBack, grown]
  exact (mem_tail_lineUpAll (by simp)).mpr (Or.inl behind)

end Turns

/-! ## Events -/

/-- Whose event it is, if it is no whim of the queue. -/
inductive Befalls (before : Deployment) : Deployment → Prop where
  | worker {rest} (line : before.ready = .worker :: rest) : Befalls before before.tick
  | starts (new : before.service.state = .new) : Befalls before before.start.2
  | elsewhere {after} (elsewhere : Elsewhere before after) : Befalls before after

section Events

variable {before after : Deployment}

theorem befalls_tick : Befalls before before.tick := by
  cases line : before.ready with
  | nil =>
      have same : before.tick = before := by simp only [tick, line]
      rw [same]
      exact .elsewhere (beside_refl before).toElsewhere
  | cons head rest =>
      cases head with
      | worker => exact .worker line
      | caller id =>
          have same : before.tick = (before.advanceCaller id).stepBack := by simp only [tick, line]
          rw [same]
          exact .elsewhere (elsewhere_caller line)

/-- Apart from the start, an act happens beside the worker, and nobody leaves the line. -/
theorem beside_act (act : Act before after) :
    (before.service.state = .new ∧ after = before.start.2) ∨ Beside before after := by
  cases act with
  | clock time actors _ =>
      rw [wakeAll_eq]
      exact Or.inr (.silently before _ (.same _))
  | release gate count =>
      rw [wakeAll_eq]
      exact Or.inr (.silently before _ (.same _))
  | cancel token =>
      rw [wakeAll_eq]
      exact Or.inr (.silently before _ (.same _))
  | submitNow door draft =>
      refine Or.inr ?_
      rcases submitNow_cases before door draft with
        same | ⟨queue, woken, next, batch, entry, source, rfl | rfl, same⟩ <;> rw [same]
      · exact beside_refl before
      · exact (beside_adopt before source _ _).trans (beside_note _ rfl)
      · exact (beside_adopt before source _ _).trans (beside_note _ rfl)
  | close buffered => exact Or.inr (beside_adopt before buffered _ _)
  | logStats tag => exact Or.inr (beside_logStats before tag)
  | start =>
      cases can : before.service.state.canBecome .starting with
      | true =>
          refine Or.inl ⟨?_, rfl⟩
          cases state : before.service.state <;> first | rfl | (rw [state] at can; cases can)
      | false =>
          have same : before.start.2 = before := by simp only [start, enter_of_cannot can]
          rw [same]
          exact Or.inr (beside_refl before)
  | stop _ => exact Or.inr (beside_requestStop before)
  | drop =>
      refine Or.inr ?_
      unfold dropHolder
      have released : Beside before { before with holder := .nobody } :=
        .silently before [] (.same _)
      cases before.holder with
      | nobody => exact beside_refl before
      | handle | runtime => exact released.trans (beside_requestStop _)
  | handOver holder _ => exact Or.inr (.silently before [] (.same _))
  | announce settings _ =>
      refine Or.inr ?_
      have handed : Beside before { before with holder := .runtime } :=
        .silently before [] (.same _)
      unfold announce
      dsimp only
      split
      · exact handed.trans (beside_note _ rfl)
      · exact handed
  | watch watches => exact Or.inr (.silently before [] (.same _))

theorem beside_begins (id : Nat) (call : Call) :
    Beside before ((before.addJob id call).wake (.caller id)) := by
  rw [wake_eq]
  exact .silently before [.caller id] (.same _)

theorem beside_abort (id : Nat) (job : Job) :
    Beside before ((before.setJob id job).wake (.caller id)) := by
  rw [wake_eq]
  exact .silently before [.caller id] (.same _)

/-- Where nobody has a turn, nobody leaves the line. -/
theorem Move.beside {others : Bool} (move : Move others before after) :
    after = before.tick ∨ (before.service.state = .new ∧ after = before.start.2) ∨
      Beside before after := by
  cases move with
  | turn => exact Or.inl rfl
  | begins _ _ => exact Or.inr (Or.inr (beside_begins _ _))
  | abort _ => exact Or.inr (Or.inr (beside_abort _ _))
  | act act => exact Or.inr (beside_act act)

theorem befalls_act (act : Act before after) : Befalls before after := by
  rcases beside_act act with ⟨new, same⟩ | beside
  · rw [same]
    exact .starts new
  · exact .elsewhere beside.toElsewhere

/-- Every move is the worker's turn or the start, or has nothing to do with the worker. -/
theorem Move.befalls {others : Bool} (move : Move others before after) : Befalls before after := by
  rcases move.beside with same | ⟨new, same⟩ | beside
  · rw [same]
    exact befalls_tick
  · rw [same]
    exact .starts new
  · exact .elsewhere beside.toElsewhere

/-- An event may moreover be a whim of the queue. -/
theorem Event.befalls (event : Event before after) : Befalls before after ∨ Whim before after := by
  cases event with
  | turn => exact Or.inl befalls_tick
  | begins id call _ => exact Or.inl (.elsewhere (beside_begins id call).toElsewhere)
  | abort _ => exact Or.inl (.elsewhere (beside_abort _ _).toElsewhere)
  | act act => exact Or.inl (befalls_act act)
  | whim whim => exact Or.inr whim

end Events

end Deployment
end FailureDispatch

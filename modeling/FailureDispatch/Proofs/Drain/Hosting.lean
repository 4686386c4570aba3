import FailureDispatch.Proofs.Drain.Oversight

/-!
# A hosted service between the steps of a run

A service is hosted from its assembly on: it has been started, and it belongs
to a runtime or to nobody.  `Hosted` says what holds of it whenever a step of a
run is over.

The clock moves only while nobody is in line.  Then the only wait that can end
by itself is that of the worker, so a drain whose time runs out is woken alone,
and finds the queue as everybody else has left it.
-/

namespace FailureDispatch

namespace Call

theorem not_isJoin {call : Call} (pending : call.isPending = false)
    (awaits : call.awaitsWorker = false) : call.isJoin = false := by
  cases call with
  | join door stopFirst => cases pending
  | joining door => cases awaits
  | _ => rfl

/-- Only a call that consumes has a deadline. -/
theorem alarm?_eq_none {call : Call} (apart : call.place? = none) : call.alarm? = none := by
  cases call with
  | consumeWithin deadline place => cases apart
  | _ => rfl

end Call

namespace Deployment

/-- Nobody needs the present moment: a drain has time left, nobody waits for a
worker that has ended, and every call has acted. -/
structure AtEase (deployment : Deployment) : Prop where
  early : ∀ count deadline place,
    deployment.service.worker = .drainFetching count deadline (.queued place) →
      deployment.now < deadline
  joined : deployment.service.worker.isGone = true →
    ∀ entry ∈ deployment.jobs, entry.2.call.isJoin = false
  begun : ∀ entry ∈ deployment.jobs, entry.2.call.isPending = false

/-- What holds of a hosted service whenever a step is over. -/
structure Hosted (deployment : Deployment) : Prop where
  supervised : ∃ queue, deployment.Supervised queue
  started : deployment.service.state ≠ .new
  given : deployment.holder ≠ .handle
  atEase : deployment.AtEase

/-- What may be under way where the calls have changed: a call that was under way,
one that does not want the service, or the one to which the runtime was given while
nobody had asked for a stop. -/
inductive Recalled (before : Deployment) (call : Call) : Prop where
  | kept {entry : Nat × Job} (member : entry ∈ before.jobs) (same : entry.2.call = call)
  | apart (single : call.isJoin = false)
  | given (runtime : call.door? = some .runtime) (nobody : before.holder = .nobody)
      (unasked : before.Unasked)

section Hosting

variable {before after : Deployment} {queue next : SubmissionQueue Actor Batch}

/-! ## Settling -/

theorem Unasked.settle (unasked : before.Unasked) (sound : before.OnCourse) :
    before.settle.Unasked :=
  (sound.keeps_settle (fun _ course kept => kept.tick course.regular) unasked).2

/-- Where nobody is in line, nobody needs the present moment. -/
theorem Supervised.atEase (supervised : before.Supervised queue) (settled : before.Settled) :
    before.AtEase := by
  have line : before.ready = [] := settled
  have attended := supervised.undisturbed.attended
  have begun (entry) (member : entry ∈ before.jobs) : entry.2.call.isPending = false := by
    apply Bool.eq_false_iff.mpr
    intro pending
    have stands := attended.pending entry member pending
    rw [line] at stands
    cases stands
  refine ⟨?_, ?_, begun⟩
  · intro count deadline place here
    rcases supervised.overseen.timely count deadline place here with early | alone
    · exact early
    · rw [line] at alone
      cases alone
  · intro gone entry member
    apply Call.not_isJoin (begun entry member)
    apply Bool.eq_false_iff.mpr
    intro awaits
    have stands := attended.joiners gone entry member awaits
    rw [line] at stands
    cases stands

theorem Supervised.settle (supervised : before.Supervised queue) :
    ∃ next, before.settle.Supervised next := by
  have keeps (deployment : Deployment) (holds : ∃ queue, deployment.Supervised queue) :
      ∃ queue, deployment.tick.Supervised queue := by
    rcases holds with ⟨_, holds⟩
    exact holds.tick
  exact settle_keeps keeps ⟨queue, supervised⟩

theorem Supervised.hosted (supervised : before.Supervised queue)
    (started : before.service.state ≠ .new) (given : before.holder ≠ .handle) :
    before.settle.Hosted := by
  have sound := supervised.undisturbed.sound
  rcases supervised.settle with ⟨next, kept⟩
  refine ⟨⟨next, kept⟩, started_settle sound started, ?_, kept.atEase (settled_settle before)⟩
  rw [holder_settle]
  exact given

theorem Hosted.settle (hosted : before.Hosted) : before.settle.Hosted := by
  rcases hosted.supervised with ⟨queue, supervised⟩
  exact supervised.hosted hosted.started hosted.given

/-! ## Acts -/

theorem Outside.started (outside : Outside before queue after)
    (started : before.service.state ≠ .new) : after.service.state ≠ .new := by
  cases outside with
  | aside _ _ _ _ => exact started
  | accepts _ | refuses _ | closes =>
      rw [adopt_eq]
      exact started
  | starts _ =>
      intro impossible
      cases impossible
  | stops holder _ =>
      rcases requestStop_eq { before with holder } with ⟨_, _, _, _, same⟩
      rw [same]
      exact ServiceState.stopped_ne_new started

theorem Outside.drainWait (outside : Outside before queue after) :
    after.service.drainWait = before.service.drainWait := by
  cases outside with
  | aside _ _ _ _ | starts _ => rfl
  | accepts _ | refuses _ | closes => simp only [adopt_eq, note]
  | stops holder _ =>
      rcases requestStop_eq { before with holder } with ⟨_, _, _, _, same⟩
      rw [same]

theorem Supervised.act (supervised : before.Supervised queue) (act : Act before after)
    (joined : before.service.worker.isGone = true →
      ∀ entry ∈ before.jobs, entry.2.call.isJoin = false)
    (timely : ∀ count deadline place,
      before.service.worker = .drainFetching count deadline (.queued place) →
        after.now < deadline ∨ after.ready = [.worker])
    (unasked : after.holder ≠ .nobody →
      before.Unasked ∧ after.service.stopRequested = false) :
    ∃ next, after.Supervised next := by
  rcases supervised with ⟨undisturbed, overseen, declares⟩
  have outside := act.outside undisturbed.buffered
  have bypasses := outside.bypasses undisturbed.sound undisturbed.buffered
  have moved : Moved before queue after := .bypasses bypasses
  have jobs := outside.jobs
  rcases undisturbed.move (.act act) with ⟨next, undisturbedNext⟩
  refine ⟨next, undisturbedNext, ⟨?_, ?_, ?_, ?_, ?_, ?_⟩, declares.moved moved⟩
  · rw [outside.drainWait]
    exact overseen.waits
  · intro count deadline place there
    rcases bypasses.worker with same | ⟨_, fresh⟩
    · exact timely count deadline place (same.symm.trans there)
    · rw [fresh] at there
      cases there
  · intro held
    rcases unasked held with ⟨unaskedBefore, untold⟩
    refine ⟨untold, ?_⟩
    rw [jobs]
    exact unaskedBefore.nobody
  · rw [jobs]
    exact overseen.through
  · intro gone
    rw [jobs]
    exact Or.inr (joined (outside.isGone gone))
  · rw [outside.outcomes]
    intro ended member count drained
    rcases overseen.told ended member count drained with ⟨hushed, shut⟩
    have brings := outside.bringsNothing undisturbed.buffered undisturbedNext.buffered shut
    exact hushed.closed brings shut

/-- After what is over at once, while the clock stands still, a service is hosted
unless somebody has just got hold of a handle. -/
theorem AtEase.hosted (easy : before.AtEase) (supervised : before.Supervised queue)
    (started : before.service.state ≠ .new) (act : Act before after)
    (still : after.now = before.now) (given : after.holder ≠ .handle)
    (unasked : after.holder ≠ .nobody →
      before.holder ≠ .nobody ∧ after.service.stopRequested = before.service.stopRequested) :
    after.Hosted := by
  have outside := act.outside supervised.undisturbed.buffered
  have bypasses := outside.bypasses supervised.undisturbed.sound supervised.undisturbed.buffered
  have early (count deadline : Nat) (place : SubmissionQueue.Place)
      (here : before.service.worker = .drainFetching count deadline (.queued place)) :
      after.now < deadline := by
    rw [still]
    exact easy.early count deadline place here
  refine ⟨?_, outside.started started, given, ?_, ?_, ?_⟩
  · apply supervised.act act easy.joined
    · intro count deadline place here
      exact Or.inl (early count deadline place here)
    · intro held
      rcases unasked held with ⟨heldBefore, same⟩
      have unaskedBefore := supervised.overseen.unasked heldBefore
      exact ⟨unaskedBefore, same.trans unaskedBefore.untold⟩
  · intro count deadline place there
    rcases bypasses.worker with same | ⟨_, fresh⟩
    · exact early count deadline place (same.symm.trans there)
    · rw [fresh] at there
      cases there
  · intro gone
    rw [outside.jobs]
    exact easy.joined (outside.isGone gone)
  · rw [outside.jobs]
    exact easy.begun

theorem Hosted.atOnce (hosted : before.Hosted) (atOnce : AtOnce before after) : after.Hosted := by
  rcases hosted with ⟨⟨queue, supervised⟩, started, handleless, easy⟩
  rcases atOnce.holder with same | nobody | new
  · have given : after.holder ≠ .handle := same ▸ handleless
    apply easy.hosted supervised started atOnce.act atOnce.still given
    intro held
    have runtime : after.holder = .runtime := by
      cases holder : after.holder with
      | nobody => exact absurd holder held
      | handle => exact absurd holder given
      | runtime => rfl
    exact ⟨same ▸ held, atOnce.untold runtime⟩
  · apply easy.hosted supervised started atOnce.act atOnce.still
    · rw [nobody]
      intro impossible
      cases impossible
    · intro held
      exact absurd nobody held
  · exact absurd new started

/-! ## The clock -/

/-- The only wait that can end by itself is that of the worker. -/
theorem SoleConsumer.alarms_eq (sole : before.SoleConsumer) :
    before.alarms = before.service.worker.alarm?.toList.map fun time => (Actor.worker, time) := by
  have silent : (before.jobs.filterMap fun entry =>
      entry.2.call.alarm?.map fun time => (Actor.caller entry.1, time)) = [] := by
    apply List.filterMap_eq_nil_iff.mpr
    intro entry member
    rw [Call.alarm?_eq_none (sole.apart entry member)]
    rfl
  rw [alarms, silent, List.append_nil]

/-- A drain that has time left is the next to be woken, and is woken alone. -/
theorem SoleConsumer.alarm (sole : before.SoleConsumer) {count deadline : Nat}
    {place : SubmissionQueue.Place}
    (here : before.service.worker = .drainFetching count deadline (.queued place))
    (early : before.now < deadline) :
    before.nextAlarm? = some deadline ∧ before.dueAt deadline = [.worker] := by
  have alarms : before.alarms = [(.worker, deadline)] := by
    rw [sole.alarms_eq, here]
    rfl
  constructor
  · simp only [nextAlarm?, alarms, List.map_cons, List.map_nil, List.filter_cons, early,
      decide_true, if_true, List.filter_nil]
    rfl
  · simp only [dueAt, alarms, List.filter_cons, beq_self_eq_true, if_true, List.filter_nil,
      List.map_cons, List.map_nil]

/-- The moment at which a wait ends. -/
theorem Hosted.ring (hosted : before.Hosted) (settled : before.Settled) {time : Nat}
    (next : before.nextAlarm? = some time) (later : before.now ≤ time) :
    (before.ring time).settle.Hosted := by
  rcases hosted with ⟨⟨queue, supervised⟩, started, given, easy⟩
  have line : before.ready = [] := settled
  have act : Act before (before.ring time) := .clock time _ later
  rw [Deployment.ring, wakeAll_eq] at act ⊢
  have supervisedThere := supervised.act act easy.joined (by
      intro count deadline place here
      have alarm := supervised.undisturbed.sole.alarm here (easy.early count deadline place here)
      rw [next] at alarm
      cases alarm.1
      refine Or.inr ?_
      simp only [line, alarm.2]
      rfl) (by
      intro held
      have unasked := supervised.overseen.unasked held
      exact ⟨unasked, unasked.untold⟩)
  rcases supervisedThere with ⟨reached, kept⟩
  exact kept.hosted started given

/-- Time in which no wait ends. -/
theorem Hosted.waits (hosted : before.Hosted) (duration : Nat)
    (early : ∀ count deadline place,
      before.service.worker = .drainFetching count deadline (.queued place) →
        before.now + duration < deadline) :
    Hosted { before with now := before.now + duration } := by
  rcases hosted with ⟨⟨queue, supervised⟩, started, given, easy⟩
  have act : Act before { before with now := before.now + duration } :=
    .clock _ [] (Nat.le_add_right _ _)
  refine ⟨?_, started, given, early, easy.joined, easy.begun⟩
  apply supervised.act act easy.joined
  · intro count deadline place here
    exact Or.inl (early count deadline place here)
  · intro held
    have unasked := supervised.overseen.unasked held
    exact ⟨unasked, unasked.untold⟩

/-- The clock goes from one end of a wait to the next. -/
theorem Hosted.passTime (hosted : before.Hosted) (settled : before.Settled) (remaining : Nat) :
    (Deployment.passTime remaining before).Hosted := by
  have alarm (before : Deployment) (hosted : before.Hosted) (count deadline : Nat)
      (place : SubmissionQueue.Place)
      (here : before.service.worker = .drainFetching count deadline (.queued place)) :
      before.now < deadline ∧ before.nextAlarm? = some deadline := by
    rcases hosted.supervised with ⟨queue, supervised⟩
    have early := hosted.atEase.early count deadline place here
    exact ⟨early, (supervised.undisturbed.sole.alarm here early).1⟩
  fun_induction Deployment.passTime remaining before with
  | case1 remaining before nobody =>
      apply hosted.waits
      intro count deadline place here
      have waits := (alarm before hosted count deadline place here).2
      rw [nobody] at waits
      cases waits
  | case2 remaining before time next due inductionHypothesis =>
      have rung := hosted.ring settled next (Nat.le_of_lt due.1)
      exact inductionHypothesis rung (settled_settle _)
  | case3 remaining before time next beyond =>
      apply hosted.waits
      intro count deadline place here
      rcases alarm before hosted count deadline place here with ⟨early, waits⟩
      rw [next] at waits
      cases waits
      apply Nat.lt_of_not_le
      intro within
      exact beyond ⟨early, within⟩

/-! ## Calls -/

/-- Calls may be aborted and may begin. -/
theorem Hosted.recalls (hosted : before.Hosted) {jobs : List (Nat × Job)} {ready : List Actor}
    (move : Move false before { before with jobs, ready })
    (calls : ∀ entry ∈ jobs, before.Recalled entry.2.call) :
    (Deployment.settle { before with jobs, ready }).Hosted := by
  rcases hosted with ⟨⟨queue, undisturbed, overseen, declares⟩, started, given, easy⟩
  have moved := move.moved undisturbed.sound undisturbed.sole undisturbed.buffered
  rcases undisturbed.move move with ⟨next, undisturbedNext⟩
  have same : queue = next :=
    Source.buffered.inj (undisturbed.buffered.symm.trans undisturbedNext.buffered)
  subst same
  have overseenNext : Overseen { before with jobs, ready } queue := by
    refine ⟨overseen.waits, ?_, ?_, ?_, ?_, ?_⟩
    · intro count deadline place here
      exact Or.inl (easy.early count deadline place here)
    · intro held
      have unasked := overseen.unasked held
      refine ⟨unasked.untold, ?_⟩
      intro entry member
      cases calls entry member with
      | kept present same =>
          rw [← same]
          exact unasked.nobody _ present
      | apart single => exact single
      | given _ nobody _ => exact absurd nobody held
    · intro entry member
      cases calls entry member with
      | kept present same =>
          rw [← same]
          exact overseen.through _ present
      | apart single =>
          intro service
          rw [Call.isJoin_eq_isSome, service] at single
          cases single
      | given runtime _ _ =>
          rw [runtime]
          intro impossible
          cases impossible
    · intro gone
      refine Or.inr ?_
      intro entry member
      cases calls entry member with
      | kept present same =>
          rw [← same]
          exact easy.joined gone _ present
      | apart single => exact single
      | given _ _ unasked =>
          have going := undisturbed.sound.course.isGone_eq unasked.untold
          rw [show before.service.worker.isGone = true from gone] at going
          cases going
    · intro ended member count drained
      rcases overseen.told ended member count drained with ⟨hushed, shut⟩
      exact hushed.closed (.refl queue) shut
  have supervised : Supervised { before with jobs, ready } queue :=
    ⟨undisturbedNext, overseenNext, declares.moved moved⟩
  exact supervised.hosted started given

theorem Hosted.aborts (hosted : before.Hosted) {id : Nat} {job : Job}
    (known : before.job? id = some job) :
    ((before.setJob id { job with doomed := true }).wake (.caller id)).settle.Hosted := by
  have move : Move false before _ := .abort known
  rw [wake_eq] at move ⊢
  apply hosted.recalls move
  intro entry member
  rcases mem_setJob member with ⟨old, _⟩ | same
  · exact .kept old rfl
  · rw [same]
    exact .kept (mem_of_job? known) rfl

theorem Hosted.spawn (hosted : before.Hosted) {id : Nat} {call : Call}
    (move : Move false before.settle ((before.settle.addJob id call).wake (.caller id)))
    (recalled : before.settle.Recalled call) : (before.spawn id call).Hosted := by
  rw [Deployment.spawn]
  rw [wake_eq] at move ⊢
  apply hosted.settle.recalls move
  intro entry member
  rcases List.mem_append.mp member with old | new
  · exact .kept old rfl
  · rw [List.mem_singleton.mp new]
    exact recalled

/-! ## Steps -/

/-- A step at which nobody else consumes keeps the service hosted. -/
theorem Taken.hosted {id : Nat} {step : Step} (taken : Taken before id step after)
    (hosted : before.Hosted) (numbered : Numbered id before) (alone : step.consumes = false) :
    after.Hosted := by
  rcases hosted.supervised with ⟨queue, supervised⟩
  have sound := supervised.undisturbed.sound
  cases taken with
  | acts atOnce _ => exact hosted.atOnce atOnce
  | settles => exact hosted.settle
  | advances duration => exact hosted.settle.passTime (settled_settle before) duration
  | aborts _ known => exact hosted.aborts known
  | @begins call new joins consumes single =>
      have apart (wants : call.place?.isSome = true) : false = true :=
        (consumes.trans alone).symm.trans wants
      have owned (wants : call.isJoin = true) : before.service.state ≠ .new := by
        rw [single] at wants
        cases wants
      have begins := begins_settled sound numbered new apart owned
      exact hosted.spawn begins.1 (.apart single)
  | @joins door stopFirst held asked =>
      have runtime : before.holder = .runtime ∧ door = .runtime := by
        cases holder : before.holder with
        | nobody =>
            rw [holder] at held
            cases held
        | handle => exact absurd holder hosted.given
        | runtime =>
            rw [holder] at held
            cases held
            exact ⟨rfl, rfl⟩
      have owned := Holder.ne_nobody held
      have unasked := supervised.overseen.unasked owned
      have handed : Act before { before with holder := .nobody } := .handOver .nobody owned
      have hostedThere : Hosted { before with holder := .nobody } := by
        apply hosted.atEase.hosted supervised hosted.started handed rfl
        · intro impossible
          cases impossible
        · intro impossible
          exact absurd rfl impossible
      have apart (wants : (Call.join door stopFirst).place?.isSome = true) : false = true := wants
      have begins := begins_settled (sound.act handed) (numbered.act sound handed) rfl apart
        (fun _ => sound.held owned)
      apply hostedThere.spawn begins.1
      refine .given ?_ ?_ (Unasked.settle ⟨unasked.untold, unasked.nobody⟩ (sound.act handed))
      · rw [runtime.2]
        rfl
      · rw [holder_settle]

end Hosting

end Deployment
end FailureDispatch

import FailureDispatch.Proofs.Drain.Claims

/-!
# Nobody is forgotten

Whoever could act stands in line: a submitter who has been granted a slot, a
call that has not acted yet, and a call that waits for a worker that is done.
So in a settled deployment there are none of them.
-/

namespace FailureDispatch
namespace Deployment

structure Attended (deployment : Deployment) (queue : SubmissionQueue Actor Batch) : Prop where
  granted : ∀ actor ∈ queue.slots.granted, actor ∈ deployment.ready
  pending : ∀ entry ∈ deployment.jobs, entry.2.call.isPending = true →
    .caller entry.1 ∈ deployment.ready
  joiners : deployment.service.worker.isGone = true → ∀ entry ∈ deployment.jobs,
    entry.2.call.awaitsWorker = true → .caller entry.1 ∈ deployment.ready

section Attendance

variable {before after : Deployment} {queue next : SubmissionQueue Actor Batch}

/-- When the head of the line leaves it, the others and those who were woken
are there. -/
theorem mem_stepBack {head actor : Actor} {rest woken : List Actor}
    (line : before.ready = head :: rest) (ready : after.ready = lineUpAll before.ready woken)
    (different : actor ≠ head) (stands : actor ∈ before.ready ∨ actor ∈ woken) :
    actor ∈ after.stepBack.ready := by
  rw [stepBack, ready, line]
  apply (mem_tail_lineUpAll different).mpr
  rw [line] at stands
  rcases stands with present | awoken
  · exact Or.inl (List.mem_of_ne_of_mem different present)
  · exact Or.inr awoken

/-- The calls of others are not forgotten when somebody leaves the line. -/
theorem Attended.others (attended : before.Attended queue) {id : Nat} {rest woken : List Actor}
    (line : before.ready = .caller id :: rest) (ready : after.ready = lineUpAll before.ready woken)
    {entry : Nat × Job} (member : entry ∈ before.jobs) (other : entry.1 ≠ id) :
    (entry.2.call.isPending = true → .caller entry.1 ∈ after.stepBack.ready) ∧
      (before.service.worker.isGone = true → entry.2.call.awaitsWorker = true →
        .caller entry.1 ∈ after.stepBack.ready) := by
  have different : Actor.caller entry.1 ≠ .caller id := fun same => other (Actor.caller.inj same)
  constructor
  · intro pending
    exact mem_stepBack line ready different (Or.inl (attended.pending entry member pending))
  · intro gone awaits
    exact mem_stepBack line ready different (Or.inl (attended.joiners gone entry member awaits))

/-- A call that goes on as it was had nothing to act on. -/
theorem Attended.stays (attended : before.Attended queue) (claimed : before.Claimed queue)
    {id : Nat} {rest : List Actor} (line : before.ready = .caller id :: rest)
    (settled : ∀ job, before.job? id = some job →
      job.call.waitsForSlot = false ∧ job.call.isPending = false ∧
        (job.call.awaitsWorker = true → before.service.worker.isGone = false)) :
    before.stepBack.Attended queue := by
  have nobody : before.ready = lineUpAll before.ready [] := rfl
  have found {entry : Nat × Job} (member : entry ∈ before.jobs) (same : entry.1 = id) :
      before.job? id = some entry.2 := same ▸ job?_of_mem claimed.distinct member
  refine ⟨?_, ?_, ?_⟩
  · intro actor member
    apply mem_stepBack line nobody _ (Or.inl (attended.granted actor member))
    intro same
    have claims := List.mem_append_right queue.slots.line member
    rcases (claimed.claimants actor).mp claims with ⟨entry, there, who, waits⟩
    rw [same] at who
    cases who
    rw [(settled _ (found there rfl)).1] at waits
    cases waits
  · intro entry member pending
    by_cases same : entry.1 = id
    · rw [(settled _ (found member same)).2.1] at pending
      cases pending
    · exact (attended.others line nobody member same).1 pending
  · intro gone entry member awaits
    by_cases same : entry.1 = id
    · have going := (settled _ (found member same)).2.2 awaits
      rw [show before.service.worker.isGone = true from gone] at going
      cases going
    · exact (attended.others line nobody member same).2 gone awaits

/-- A turn of a caller leaves nobody behind who could act. -/
theorem Attended.caller_turn (attended : before.Attended queue) (claimed : before.Claimed queue)
    {id : Nat} {rest : List Actor} (line : before.ready = .caller id :: rest)
    (proceeds : Proceeds before queue id after)
    (buffered : before.source = .buffered queue) (source : after.source = .buffered next)
    (worker : after.service.worker = before.service.worker) : after.stepBack.Attended next := by
  have goneBefore (gone : after.stepBack.service.worker.isGone = true) :
      before.service.worker.isGone = true := worker ▸ gone
  cases proceeds with
  | stays settled =>
      rw [buffered] at source
      cases source
      exact attended.stays claimed line settled
  | @ends _ _ _ _ _ present jobs same roomy quits ready wakes =>
      rw [same] at source
      cases source
      have kept {entry : Nat × Job} (member : entry ∈ after.stepBack.jobs) :
          entry ∈ before.jobs ∧ entry.1 ≠ id := by
        have there : entry ∈ after.jobs := member
        rw [jobs, List.mem_filter, bne_iff_ne] at there
        exact there
      refine ⟨?_, ?_, ?_⟩
      · intro actor member
        have claims := List.mem_append_right next.slots.line member
        apply mem_stepBack line ready ((quits.claimants actor).mp claims).2
        rcases quits.granted actor member with ⟨earlier, _⟩ | awoken
        · exact Or.inl (attended.granted actor earlier)
        · exact Or.inr (wakes actor awoken)
      · intro entry member pending
        exact (attended.others line ready (kept member).1 (kept member).2).1 pending
      · intro gone entry member awaits
        exact (attended.others line ready (kept member).1 (kept member).2).2 (goneBefore gone) awaits
  | @queues _ door batch _ _ present jobs same roomy queues ready =>
      rw [same] at source
      cases source
      have nobody : after.ready = lineUpAll before.ready [] := ready
      have old {entry : Nat × Job} (member : entry ∈ after.stepBack.jobs) :
          (entry ∈ before.jobs ∧ entry.1 ≠ id) ∨ entry = (id, { call := .submit door batch true }) := by
        have there : entry ∈ after.jobs := member
        rw [jobs] at there
        exact mem_setJob there
      refine ⟨?_, ?_, ?_⟩
      · intro actor member
        have earlier : actor ∈ queue.slots.granted := queues.granted ▸ member
        apply mem_stepBack line nobody _ (Or.inl (attended.granted actor earlier))
        intro who
        exact queues.waits (who ▸ member)
      · intro entry member pending
        rcases old member with ⟨kept, other⟩ | new
        · exact (attended.others line nobody kept other).1 pending
        · rw [new] at pending
          cases pending
      · intro gone entry member awaits
        rcases old member with ⟨kept, other⟩ | new
        · exact (attended.others line nobody kept other).2 (goneBefore gone) awaits
        · rw [new] at awaits
          cases awaits
  | @asks _ door _ _ present going jobs same ready =>
      rw [same] at source
      cases source
      have old {entry : Nat × Job} (member : entry ∈ after.stepBack.jobs) :
          (entry ∈ before.jobs ∧ entry.1 ≠ id) ∨ entry = (id, { call := .joining door }) := by
        have there : entry ∈ after.jobs := member
        rw [jobs] at there
        exact mem_setJob there
      have quits := claimed.quits present rfl rfl
      refine ⟨?_, ?_, ?_⟩
      · intro actor member
        have claims := List.mem_append_right queue.slots.line member
        exact mem_stepBack line ready ((quits.claimants actor).mp claims).2
          (Or.inl (attended.granted actor member))
      · intro entry member pending
        rcases old member with ⟨kept, other⟩ | new
        · exact (attended.others line ready kept other).1 pending
        · rw [new] at pending
          cases pending
      · intro gone
        rw [goneBefore gone] at going
        cases going

theorem mem_afterTurn {actor : Actor} {rest woken : List Actor} {service : Service}
    {gates : List (String × Permits Actor)} {trace : Journal}
    (line : before.ready = .worker :: rest) (progress : Progress) (different : actor ≠ .worker)
    (stands : actor ∈ before.ready ∨ actor ∈ woken) :
    actor ∈ ((before.worked woken next service gates trace).afterTurn progress).ready := by
  cases progress with
  | goesOn => exact mem_lineUpAll.mpr stands
  | rests => exact mem_stepBack line rfl different stands

/-- A turn of the worker leaves nobody behind who could act. -/
theorem Attended.worker_turn (attended : before.Attended queue) (claimed : before.Claimed queue)
    (seated : before.Seated queue) {rest : List Actor} (line : before.ready = .worker :: rest)
    {progress : Progress} {woken : List Actor} {service : Service} {trace : Journal}
    (turn : WorkerTurn before queue progress woken next service trace)
    (gates : List (String × Permits Actor)) :
    Attended ((before.worked woken next service gates trace).afterTurn progress) next := by
  have jobs : ((before.worked woken next service gates trace).afterTurn progress).jobs =
      before.jobs := by cases progress <;> rfl
  have worker : ((before.worked woken next service gates trace).afterTurn progress).service =
      service := by cases progress <;> rfl
  have person (id : Nat) : Actor.caller id ≠ .worker := by
    intro impossible
    cases impossible
  refine ⟨?_, ?_, ?_⟩
  · intro actor member
    rcases (turn.alone seated).2.serves claimed.roomy with ⟨roomy, granted, serves, wakes⟩
    have claims := (serves.claimants actor).mp (List.mem_append_right next.slots.line member)
    rcases (claimed.claimants actor).mp claims with ⟨entry, _, who, _⟩
    apply mem_afterTurn line progress (who ▸ person entry.1)
    rcases serves.granted actor member with earlier | awoken
    · exact Or.inl (attended.granted actor earlier)
    · exact Or.inr (wakes actor awoken)
  · intro entry member pending
    rw [jobs] at member
    exact mem_afterTurn line progress (person entry.1)
      (Or.inl (attended.pending entry member pending))
  · intro gone entry member awaits
    rw [worker] at gone
    rw [jobs] at member
    apply mem_afterTurn line progress (person entry.1)
    cases going : before.service.worker.isGone with
    | true => exact Or.inl (attended.joiners going entry member awaits)
    | false =>
        rcases turn.completes_of_ends going gone with ⟨_, _, _, first, _, _, same⟩
        have joins : Actor.caller entry.1 ∈ before.joiners :=
          List.mem_map_of_mem (List.mem_filter.mpr ⟨member, awaits⟩)
        rw [same]
        exact Or.inr (List.mem_append_right first (List.mem_append_right _ joins))

/-- Whatever lengthens the line and leaves the calls alone forgets nobody. -/
theorem Attended.grows (attended : before.Attended queue) (jobs : after.jobs = before.jobs)
    (ready : ∀ actor ∈ before.ready, actor ∈ after.ready)
    (gone : after.service.worker.isGone = true → before.service.worker.isGone = true)
    (serves : queue.slots.Serves next.slots []) : after.Attended next := by
  refine ⟨?_, ?_, ?_⟩
  · intro actor member
    rcases serves.granted actor member with earlier | nobody
    · exact ready actor (attended.granted actor earlier)
    · cases nobody
  · intro entry member pending
    rw [jobs] at member
    exact ready _ (attended.pending entry member pending)
  · intro goneAfter entry member awaits
    rw [jobs] at member
    exact ready _ (attended.joiners (gone goneAfter) entry member awaits)

/-- Nobody ends the worker from outside. -/
theorem Outside.isGone (outside : Outside before queue after)
    (gone : after.service.worker.isGone = true) : before.service.worker.isGone = true := by
  cases outside with
  | aside _ _ _ _ => exact gone
  | accepts _ | refuses _ | closes =>
      rw [adopt_eq] at gone
      exact gone
  | starts _ => cases gone
  | stops holder _ =>
      rcases requestStop_eq { before with holder } with ⟨_, _, _, _, same⟩
      rw [same] at gone
      exact gone

end Attendance

/-! ## Runs that no other consumer disturbs -/

/-- What every move keeps where the worker is the only consumer. -/
structure Undisturbed (deployment : Deployment) (queue : SubmissionQueue Actor Batch) : Prop where
  sound : deployment.OnCourse
  sole : deployment.SoleConsumer
  buffered : deployment.source = .buffered queue
  seated : deployment.Seated queue
  claimed : deployment.Claimed queue
  attended : deployment.Attended queue

theorem Unstarted.undisturbed {origin : Deployment} (unstarted : origin.Unstarted) :
    ∃ queue, origin.Undisturbed queue := by
  rcases unstarted.buffered with ⟨capacity, buffered⟩
  have nobody {entry : Nat × Job} (member : entry ∈ origin.jobs) : False := by
    rw [unstarted.jobs] at member
    cases member
  refine ⟨_, unstarted.onCourse, unstarted.soleConsumer, buffered, ?_, ⟨?_, ?_, ?_⟩, ?_, ?_, ?_⟩
  · unfold Seated
    rw [unstarted.worker]
    exact rfl
  · rw [unstarted.jobs]
    exact List.nodup_nil
  · exact SubmissionQueue.roomy_empty capacity
  · intro actor
    constructor
    · intro claims
      cases claims
    · rintro ⟨entry, member, _⟩
      exact (nobody member).elim
  · intro actor member
    cases member
  · intro entry member
    exact (nobody member).elim
  · intro _ entry member
    exact (nobody member).elim

namespace Undisturbed

variable {before after : Deployment} {queue : SubmissionQueue Actor Batch}
  (undisturbed : before.Undisturbed queue)
include undisturbed

theorem turned (turned : Turned before queue after) (sound : after.OnCourse)
    (sole : after.SoleConsumer) : ∃ next, after.Undisturbed next := by
  rcases undisturbed with ⟨_, soleBefore, buffered, seated, claimed, attended⟩
  cases turned with
  | nobody => exact ⟨queue, sound, soleBefore, buffered, seated, claimed, attended⟩
  | @worker _ progress _ next _ _ gates line turn =>
      have alone := turn.alone seated
      rcases alone.2.serves claimed.roomy with ⟨roomy, granted, serves, _⟩
      refine ⟨next, sound, sole, ?_, ?_, claimed.served ?_ roomy serves,
        attended.worker_turn claimed seated line turn gates⟩
      · cases progress <;> rfl
      · cases progress <;> exact alone.1
      · cases progress <;> rfl
  | caller line turn =>
      have proceeds := claimed.proceeds soleBefore turn buffered
      rcases seated.caller_turn soleBefore turn buffered with ⟨next, source, seatedNext⟩
      rcases claimed.caller_turn proceeds buffered with ⟨same, sourceSame, claimedNext⟩
      rw [source] at sourceSame
      cases sourceSame
      have worker := turn.worker_eq buffered
      exact ⟨next, sound, sole, source, seatedNext,
        ⟨claimedNext.distinct, claimedNext.roomy, claimedNext.claimants⟩,
        attended.caller_turn claimed line proceeds buffered source worker⟩

/-- A call that begins stands in line. -/
theorem begins {id : Nat} {call : Call} (fresh : ∀ entry ∈ before.jobs, entry.1 ≠ id)
    (new : call.isNew = true) :
    Claimed ((before.addJob id call).wake (.caller id)) queue ∧
      Attended ((before.addJob id call).wake (.caller id)) queue := by
  rcases undisturbed with ⟨_, _, _, _, claimed, attended⟩
  have waits := Call.not_waitsForSlot_of_isNew new
  rw [wake_eq]
  have stands {actor : Actor} (member : actor ∈ before.ready) :
      actor ∈ lineUp before.ready (.caller id) := mem_lineUp.mpr (Or.inl member)
  refine ⟨⟨?_, claimed.roomy, ?_⟩, ?_, ?_, ?_⟩
  · simp only [addJob, List.map_append, List.map_cons, List.map_nil]
    apply (List.perm_append_singleton id (before.jobs.map Prod.fst)).nodup_iff.mpr
    refine List.nodup_cons.mpr ⟨?_, claimed.distinct⟩
    intro known
    rcases List.mem_map.mp known with ⟨entry, member, same⟩
    exact fresh entry member same
  · intro actor
    refine (claimed.claimants actor).trans ?_
    constructor
    · rintro ⟨entry, member, who, waiting⟩
      exact ⟨entry, List.mem_append_left _ member, who, waiting⟩
    · rintro ⟨entry, member, who, waiting⟩
      rcases List.mem_append.mp member with old | added
      · exact ⟨entry, old, who, waiting⟩
      · rw [List.mem_singleton.mp added, waits] at waiting
        cases waiting
  · intro actor member
    exact stands (attended.granted actor member)
  · intro entry member pending
    rcases List.mem_append.mp member with old | added
    · exact stands (attended.pending entry old pending)
    · rw [List.mem_singleton.mp added]
      exact mem_lineUp.mpr (Or.inr rfl)
  · intro gone entry member awaits
    rcases List.mem_append.mp member with old | added
    · exact stands (attended.joiners gone entry old awaits)
    · rw [List.mem_singleton.mp added]
      exact mem_lineUp.mpr (Or.inr rfl)

/-- A call that is to be torn down is still the same call. -/
theorem aborts {id : Nat} {job : Job} (known : before.job? id = some job) :
    Claimed ((before.setJob id { job with doomed := true }).wake (.caller id)) queue ∧
      Attended ((before.setJob id { job with doomed := true }).wake (.caller id)) queue := by
  rcases undisturbed with ⟨_, _, _, _, claimed, attended⟩
  have stands {actor : Actor} (member : actor ∈ before.ready) :
      actor ∈ lineUp before.ready (.caller id) := mem_lineUp.mpr (Or.inl member)
  have same : Call.waitsForSlot (Job.call { job with doomed := true }) =
      job.call.waitsForSlot := rfl
  rw [wake_eq]
  refine ⟨claimed.changed known same rfl, ?_, ?_, ?_⟩
  · intro actor member
    exact stands (attended.granted actor member)
  · intro entry member pending
    rcases mem_setJob member with ⟨old, _⟩ | same
    · exact stands (attended.pending entry old pending)
    · rw [same]
      exact mem_lineUp.mpr (Or.inr rfl)
  · intro gone entry member awaits
    rcases mem_setJob member with ⟨old, _⟩ | same
    · exact stands (attended.joiners gone entry old awaits)
    · rw [same]
      exact mem_lineUp.mpr (Or.inr rfl)

theorem move (move : Move false before after) : ∃ next, after.Undisturbed next := by
  have sound := undisturbed.sound.move move
  have sole := undisturbed.sole.move undisturbed.sound move
  have buffered := undisturbed.buffered
  have seated := undisturbed.seated
  cases move with
  | turn => exact undisturbed.turned (tick_turned buffered undisturbed.sound.course) sound sole
  | begins fresh may =>
      rcases undisturbed.begins fresh may.isNew with ⟨claimed, attended⟩
      refine ⟨queue, sound, sole, ?_, ?_, claimed, attended⟩
      · rw [wake_eq]
        exact buffered
      · rw [wake_eq]
        exact seated
  | abort known =>
      rcases undisturbed.aborts known with ⟨claimed, attended⟩
      refine ⟨queue, sound, sole, ?_, ?_, claimed, attended⟩
      · rw [wake_eq]
        exact buffered
      · rw [wake_eq]
        exact seated
  | act act =>
      have outside := act.outside buffered
      rcases outside.serves buffered undisturbed.claimed.roomy with ⟨next, source, roomy, serves⟩
      rcases outside.seated undisturbed.sound buffered seated with ⟨same, sourceSame, seatedNext⟩
      rw [source] at sourceSame
      cases sourceSame
      exact ⟨next, sound, sole, source, seatedNext,
        undisturbed.claimed.served outside.jobs roomy serves,
        undisturbed.attended.grows outside.jobs outside.grows outside.isGone serves⟩

theorem reaches (reaches : Reaches false before after) : ∃ next, after.Undisturbed next := by
  induction reaches with
  | refl => exact ⟨queue, undisturbed⟩
  | tail _ move inductionHypothesis =>
      rcases inductionHypothesis with ⟨next, kept⟩
      exact kept.move move

end Undisturbed

end Deployment
end FailureDispatch

import FailureDispatch.Proofs.Course.Move

/-!
# Every move keeps the course

The worker, the state of its service and the mark of a requested stop belong
together: `Service.OnCourse`.  Turns keep them together by the list of what the
worker does, and what comes from outside changes them only by a start or by a
request to stop.

A request to stop would leave the course if it came before the start.  It
cannot: nobody holds a handle, and no call owns one, while the service is new.
-/

namespace FailureDispatch

theorem Worker.idle_of_home? {worker : Worker} (new : worker.home? = some .new) :
    worker = .idle := by
  cases worker with
  | idle => rfl
  | fetching fetch | drainFetching _ _ fetch => cases fetch <;> cases new
  | dispatching phase _ => cases phase <;> cases new
  | _ => cases new

namespace Service.OnCourse

variable {service : Service} (course : service.OnCourse)
include course

/-- A request to stop that comes after the start keeps the course. -/
theorem stopped (started : service.state ≠ .new) (version : Nat) :
    OnCourse { service with
      state := service.state.stopped, version, stopRequested := true } := by
  rcases course with ⟨home, known, stands⟩
  refine ⟨home, known, ?_⟩
  cases home with
  | new => exact absurd stands.1 started
  | starting | running =>
      rcases stands with ⟨state, untold⟩ | ⟨state, told⟩
      · exact Or.inr ⟨by rw [state]; rfl, rfl⟩
      · exact Or.inr ⟨by rw [state]; rfl, rfl⟩
  | stopping | terminated | failed => exact ⟨by rw [stands.1]; rfl, rfl⟩

/-- A service that can be started has an idle worker, which has not been told
to stop. -/
theorem idle_of_new (new : service.state = .new) :
    service.worker = .idle ∧ service.stopRequested = false := by
  rcases course with ⟨home, known, stands⟩
  cases home with
  | new =>
      refine ⟨?_, stands.2⟩
      exact Worker.idle_of_home? known
  | starting | running =>
      rcases stands with ⟨state, _⟩ | ⟨state, _⟩ <;>
        (rw [new] at state; cases state)
  | stopping | terminated | failed =>
      have impossible := new.symm.trans stands.1
      cases impossible

end Service.OnCourse

namespace Deployment

/-- What a run keeps about the life of a service. -/
structure OnCourse (deployment : Deployment) : Prop where
  buffered : ∃ queue, deployment.source = .buffered queue
  course : deployment.service.OnCourse
  held : deployment.holder ≠ .nobody → deployment.service.state ≠ .new
  joins : ∀ entry ∈ deployment.jobs, entry.2.call.isJoin = true → deployment.service.state ≠ .new

/-- The worker keeps itself on course. -/
theorem WorkerTurn.course {before : Deployment} {queue next : SubmissionQueue Actor Batch}
    {progress : Progress} {woken : List Actor} {service : Service} {trace : Journal}
    (turn : WorkerTurn before queue progress woken next service trace)
    (course : before.service.OnCourse) : service.OnCourse := by
  have stands := course.at_home
  cases turn with
  | rests => exact course
  | startsUp here early =>
      rw [here] at stands
      rcases stands _ rfl with ⟨_, untold⟩ | ⟨late, _⟩
      · exact ⟨.running, rfl, Or.inl ⟨rfl, untold⟩⟩
      · rw [early] at late
        cases late
  | startsLate here late =>
      rw [here] at stands
      rcases stands _ rfl with ⟨early, _⟩ | told
      · rw [late] at early
        cases early
      · exact ⟨.stopping, rfl, told⟩
  | turnsToQueue here running untold => exact ⟨.running, rfl, Or.inl ⟨running, untold⟩⟩
  | leavesLoop here stopping =>
      rw [here] at stands
      rcases stands _ rfl with ⟨running, _⟩ | told
      · rw [stopping] at running
        cases running
      · exact ⟨.stopping, rfl, told⟩
  | interrupted here _ | unparks here _ =>
      rw [here] at stands
      exact ⟨.running, rfl, stands _ rfl⟩
  | shutOut seeks _ | waits seeks _ =>
      cases seeks with
      | main here _ =>
          rw [here] at stands
          exact ⟨.running, rfl, stands _ rfl⟩
  | drainWaits here _ _ =>
      rw [here] at stands
      exact ⟨.stopping, rfl, stands _ rfl⟩
  | takes seeks _ opens _ _ =>
      cases seeks with
      | main here _ =>
          rw [here] at stands
          cases opens <;> exact ⟨.running, rfl, stands _ rfl⟩
      | drain here =>
          rw [here] at stands
          cases opens <;> exact ⟨.stopping, rfl, stands _ rfl⟩
  | @dispatches progress phase _ _ _ here _ _ _ | @finishes phase _ here _ =>
      rw [here] at stands
      cases phase with
      | main => exact ⟨.running, rfl, stands _ rfl⟩
      | drain count => exact ⟨.stopping, rfl, stands _ rfl⟩
  | turnsToDrain here =>
      rw [here] at stands
      exact ⟨.stopping, rfl, stands _ rfl⟩
  | completes here _ =>
      rw [here] at stands
      exact ⟨.terminated, rfl, rfl, (stands _ rfl).2⟩

/-- A service that has been started is never new again. -/
theorem WorkerTurn.started {before : Deployment} {queue next : SubmissionQueue Actor Batch}
    {progress : Progress} {woken : List Actor} {service : Service} {trace : Journal}
    (turn : WorkerTurn before queue progress woken next service trace)
    (started : before.service.state ≠ .new) : service.state ≠ .new := by
  cases turn with
  | startsUp | completes =>
      intro impossible
      cases impossible
  | _ => exact started

end Deployment

theorem ServiceState.stopped_ne_new {state : ServiceState} (started : state ≠ .new) :
    state.stopped ≠ .new := by
  cases state with
  | new => exact absurd rfl started
  | _ =>
      intro impossible
      cases impossible

/-- A request to stop does not make a service new. -/
theorem Service.MaybeStopped.started {service later : Service}
    (maybe : service.MaybeStopped later) (started : service.state ≠ .new) :
    later.state ≠ .new := by
  cases maybe with
  | same => exact started
  | stopped version => exact ServiceState.stopped_ne_new started

namespace Deployment
namespace OnCourse

variable {before : Deployment} (sound : before.OnCourse)
include sound

/-- A request to stop keeps the course once the service has been started. -/
theorem stops (started : before.service.state ≠ .new) (holder : Holder) :
    OnCourse ({ before with holder } : Deployment).requestStop := by
  rcases requestStop_eq { before with holder } with ⟨woken, version, trace, _, same⟩
  rw [same]
  have moved := ServiceState.stopped_ne_new started
  exact ⟨sound.buffered, sound.course.stopped started version, fun _ => moved,
    fun _ _ _ => moved⟩

theorem worker_turn {queue next : SubmissionQueue Actor Batch} {progress : Progress}
    {woken : List Actor} {service : Service} {trace : Journal}
    (turn : WorkerTurn before queue progress woken next service trace)
    (gates : List (String × Permits Actor)) :
    OnCourse ((before.worked woken next service gates trace).afterTurn progress) := by
  have course := turn.course sound.course
  have held (holder : before.holder ≠ .nobody) : service.state ≠ .new :=
    turn.started (sound.held holder)
  have joins (entry) (member : entry ∈ before.jobs) (wants : entry.2.call.isJoin = true) :
      service.state ≠ .new := turn.started (sound.joins entry member wants)
  cases progress with
  | goesOn => exact ⟨⟨next, rfl⟩, course, held, joins⟩
  | rests => exact ⟨⟨next, rfl⟩, course, held, joins⟩

theorem caller_turn {queue : SubmissionQueue Actor Batch} {id : Nat} {after : Deployment}
    (buffered : before.source = .buffered queue) (turn : CallerTurn before queue id after) :
    OnCourse after := by
  have jobs := turn.jobs
  rcases turn.byCaller buffered with
    ⟨ready, next, service, later, outcomes, journal, maybe, owner, same⟩
  rw [same] at jobs ⊢
  refine ⟨⟨next, rfl⟩, ?_, fun held => maybe.started (sound.held held), ?_⟩
  · cases maybe with
    | same => exact sound.course
    | stopped version =>
        rcases owner with untouched | ⟨job, present, wants⟩
        · rw [untouched]
          exact sound.course
        · exact sound.course.stopped (sound.joins _ (mem_of_job? present) wants) version
  · intro entry member wants
    apply maybe.started
    rcases jobs entry member with old | ⟨_, _, job, present, follows⟩
    · exact sound.joins entry old wants
    · apply sound.joins _ (mem_of_job? present)
      rw [← follows.isJoin_eq]
      exact wants

theorem outside {queue : SubmissionQueue Actor Batch} {after : Deployment}
    (outside : Outside before queue after) : OnCourse after := by
  cases outside with
  | aside _ _ _ held =>
      exact ⟨sound.buffered, sound.course, fun holder => sound.held (held holder), sound.joins⟩
  | accepts _ | refuses _ | closes =>
      rw [adopt_eq]
      exact ⟨⟨_, rfl⟩, sound.course, sound.held, sound.joins⟩
  | starts new =>
      have untold := (sound.course.idle_of_new new).2
      have started : ServiceState.starting ≠ .new := by
        intro impossible
        cases impossible
      exact ⟨sound.buffered, ⟨.starting, rfl, Or.inl ⟨rfl, untold⟩⟩, fun _ => started,
        fun _ _ _ => started⟩
  | stops holder held => exact sound.stops (sound.held held) holder

theorem act {after : Deployment} (act : Act before after) : OnCourse after := by
  rcases sound.buffered with ⟨queue, buffered⟩
  exact sound.outside (act.outside buffered)

theorem tick : OnCourse before.tick := by
  rcases sound.buffered with ⟨queue, buffered⟩
  have turned := tick_turned buffered sound.course
  generalize before.tick = after at turned ⊢
  cases turned with
  | nobody => exact sound
  | worker gates _ turn => exact sound.worker_turn turn gates
  | caller _ turn =>
      have kept := sound.caller_turn buffered turn
      exact ⟨kept.buffered, kept.course, kept.held, kept.joins⟩

theorem tick_started (started : before.service.state ≠ .new) :
    before.tick.service.state ≠ .new := by
  rcases sound.buffered with ⟨queue, buffered⟩
  have turned := tick_turned buffered sound.course
  generalize before.tick = after at turned ⊢
  cases turned with
  | nobody => exact started
  | @worker _ progress _ _ _ _ gates _ turn =>
      have later := turn.started started
      cases progress <;> exact later
  | caller _ turn =>
      rcases turn.byCaller buffered with ⟨_, _, _, _, _, _, maybe, _, same⟩
      rw [same]
      exact maybe.started started

/-- Every move keeps the course. -/
theorem move {others : Bool} {after : Deployment} (move : Move others before after) :
    OnCourse after := by
  cases move with
  | turn => exact sound.tick
  | act act => exact sound.act act
  | abort known =>
      rw [wake_eq]
      refine ⟨sound.buffered, sound.course, sound.held, ?_⟩
      intro entry member wants
      rcases mem_setJob member with ⟨old, _⟩ | same
      · exact sound.joins entry old wants
      · rw [same] at wants
        exact sound.joins _ (mem_of_job? known) wants
  | @begins id call fresh may =>
      rw [wake_eq]
      refine ⟨sound.buffered, sound.course, sound.held, ?_⟩
      intro entry member wants
      rcases List.mem_append.mp member with old | new
      · exact sound.joins entry old wants
      · rw [List.mem_singleton.mp new] at wants
        exact may.joins wants

end OnCourse

theorem OnCourse.reaches {others : Bool} {before after : Deployment} (sound : before.OnCourse)
    (reaches : Reaches others before after) : after.OnCourse := by
  induction reaches with
  | refl => exact sound
  | tail _ move inductionHypothesis => exact inductionHypothesis.move move

/-- What moves keep on course is kept by every run that begins on course. -/
theorem Reaches.keeps {others : Bool} {property : Deployment → Prop}
    (keeps : ∀ before after, before.OnCourse → Move others before after → property before →
      property after)
    {origin reached : Deployment} (reaches : Reaches others origin reached)
    (sound : origin.OnCourse) (holds : property origin) : property reached := by
  induction reaches with
  | refl => exact holds
  | tail earlier move inductionHypothesis =>
      exact keeps _ _ (sound.reaches earlier) move inductionHypothesis

end Deployment
end FailureDispatch

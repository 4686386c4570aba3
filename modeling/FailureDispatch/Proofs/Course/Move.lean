import FailureDispatch.Application.Assembly
import FailureDispatch.Proofs.Course.Caller
import Mathlib.Logic.Relation

/-!
# Moves

A run is a sequence of moves: one turn of the first in line, a movement of the
clock, or something that comes from outside.  `Move` admits them in any order.
In particular nothing requires a deployment to be settled before the clock
moves or before the next call begins, so what holds after all moves holds in
the middle of every step of every run.

The parameter of `Move` says whether calls may take batches from the queue.
Without them the worker is the only consumer.
-/

namespace FailureDispatch

/-- What a call may be at its beginning.  The handle, which a call to join
owns, exists once the service has been started. -/
structure Call.MayBegin (call : Call) (others : Bool) (state : ServiceState) : Prop where
  isNew : call.isNew = true
  consumes : call.place?.isSome = true → others = true
  joins : call.isJoin = true → state ≠ .new

namespace Deployment

/-- Something that is done to a deployment from outside and is over at once. -/
inductive Act (before : Deployment) : Deployment → Prop where
  /-- Time passes, and somebody may be woken by it. -/
  | clock (time : Nat) (actors : List Actor) (later : before.now ≤ time) :
      Act before ({ before with now := time }.wakeAll actors)
  | release (gate : String) (count : Nat) :
      Act before
        ((before.setGate gate ((before.gate gate).release count).2).wakeAll
          ((before.gate gate).release count).1)
  | cancel (token : String) :
      Act before
        ({ before with cancelled := token :: before.cancelled }.wakeAll
          (before.callersWith (Call.usesToken token)))
  | submitNow (door : Door) (draft : Draft) : Act before (before.submitNow door draft).2
  | close {queue : SubmissionQueue Actor Batch} (buffered : before.source = .buffered queue) :
      Act before (before.adopt queue.close.1 queue.close.2)
  | logStats (tag : String) : Act before (before.logStats tag)
  | start : Act before before.start.2
  | stop (held : before.holder ≠ .nobody) : Act before before.requestStop
  | drop : Act before before.dropHolder
  /-- The handle changes hands. -/
  | handOver (holder : Holder) (held : before.holder ≠ .nobody) :
      Act before { before with holder }
  | announce (settings : Settings) (held : before.holder ≠ .nobody) :
      Act before (before.announce settings)
  | watch (watches : List (String × Nat)) : Act before { before with watches }

inductive Move (others : Bool) (before : Deployment) : Deployment → Prop where
  | turn : Move others before before.tick
  | begins {id : Nat} {call : Call} (fresh : ∀ entry ∈ before.jobs, entry.1 ≠ id)
      (may : call.MayBegin others before.service.state) :
      Move others before ((before.addJob id call).wake (.caller id))
  | abort {id : Nat} {job : Job} (known : before.job? id = some job) :
      Move others before ((before.setJob id { job with doomed := true }).wake (.caller id))
  | act {after : Deployment} (act : Act before after) : Move others before after

/-- A deployment comes about from another by moves. -/
abbrev Reaches (others : Bool) : Deployment → Deployment → Prop :=
  Relation.ReflTransGen (Move others)

/-! ## Turns -/

/-- Who had the turn leaves the line, unless the turn is to go on. -/
def afterTurn (deployment : Deployment) : Progress → Deployment
  | .goesOn => deployment
  | .rests => deployment.stepBack

/-- What the first in line does. -/
inductive Turned (before : Deployment) (queue : SubmissionQueue Actor Batch) :
    Deployment → Prop where
  | nobody (line : before.ready = []) : Turned before queue before
  | worker {rest progress woken next service trace} (gates : List (String × Permits Actor))
      (line : before.ready = .worker :: rest)
      (turn : WorkerTurn before queue progress woken next service trace) :
      Turned before queue ((before.worked woken next service gates trace).afterTurn progress)
  | caller {id rest after} (line : before.ready = .caller id :: rest)
      (turn : CallerTurn before queue id after) : Turned before queue after.stepBack

theorem tick_turned {before : Deployment} {queue : SubmissionQueue Actor Batch}
    (buffered : before.source = .buffered queue) (course : before.service.OnCourse) :
    Turned before queue before.tick := by
  unfold tick
  cases line : before.ready with
  | nil => exact .nobody line
  | cons head rest =>
      cases head with
      | worker =>
          rcases advanceWorker_turn buffered course with
            ⟨progress, woken, next, service, gates, trace, same, turn, _⟩
          have turned := Turned.worker gates line turn
          rw [same]
          cases progress with
          | goesOn => exact turned
          | rests => exact turned
      | caller id => exact .caller line (advanceCaller_turn buffered course)

/-! ## Acts -/

/-- What an act comes to.  Most acts change nothing that a batch or a call
depends on. -/
inductive Outside (before : Deployment) (queue : SubmissionQueue Actor Batch) :
    Deployment → Prop where
  | aside {now ready gates cancelled watches holder} {trace : Journal}
      (later : before.now ≤ now) (grows : ∀ actor ∈ before.ready, actor ∈ ready)
      (plain : trace.Plain) (held : holder ≠ .nobody → before.holder ≠ .nobody) :
      Outside before queue
        { before with
          now, ready, gates, cancelled, watches, holder, journal := before.journal ++ trace }
  | accepts {batch woken next} (tried : queue.trySubmit batch = (.ok (), woken, next)) :
      Outside before queue ((before.adopt woken next).note (.accepted batch))
  | refuses {batch error woken next} (tried : queue.trySubmit batch = (.error error, woken, next)) :
      Outside before queue ((before.adopt woken next).note (.refused batch))
  | closes : Outside before queue (before.adopt queue.close.1 queue.close.2)
  | starts (new : before.service.state = .new) :
      Outside before queue
        { before with
          ready :=
            lineUp (lineUpAll before.ready (before.callersWith Call.observesState)) .worker
          service :=
            { before.service with
              state := .starting, version := before.service.version + 1, worker := .fresh }
          holder := .handle
          journal := before.journal ++ [.entered .starting] }
  | stops (holder : Holder) (held : before.holder ≠ .nobody) :
      Outside before queue { before with holder }.requestStop

section Acts

variable {before : Deployment} {queue : SubmissionQueue Actor Batch}

theorem Outside.unmoved : Outside before queue before := by
  have aside : Outside before queue { before with journal := before.journal ++ [] } :=
    .aside (Nat.le_refl _) (fun _ member => member) .nil id
  rwa [List.append_nil] at aside

/-- Whatever wakes somebody and changes nothing else of account is aside. -/
theorem Outside.wakes {now : Nat} {gates : List (String × Permits Actor)}
    {cancelled : List String} (actors : List Actor) (later : before.now ≤ now) :
    Outside before queue
      { before with now, ready := lineUpAll before.ready actors, gates, cancelled } := by
  have aside : Outside before queue
      { before with
        now
        ready := lineUpAll before.ready actors
        gates
        cancelled
        journal := before.journal ++ [] } :=
    .aside later (fun _ member => mem_lineUpAll.mpr (Or.inl member)) .nil id
  rwa [List.append_nil] at aside

theorem start_outside : Outside before queue before.start.2 := by
  by_cases new : before.service.state = .new
  · have can : before.service.state.canBecome .starting = true := by
      rw [new]
      rfl
    simp only [start, enter_of_canBecome can, setWorker, wake_eq]
    exact .starts new
  · have cannot : before.service.state.canBecome .starting = false := by
      cases state : before.service.state <;> first | rfl | exact absurd state new
    simp only [start, enter_of_cannot cannot]
    exact .unmoved

/-- Whoever offers a batch at once finds no queue or has none to offer, or the queue
answers and the answer is noted. -/
theorem submitNow_cases (before : Deployment) (door : Door) (draft : Draft) :
    (before.submitNow door draft).2 = before ∨
      ∃ queue woken next batch entry, before.source = .buffered queue ∧
        (entry = .accepted batch ∨ entry = .refused batch) ∧
        (before.submitNow door draft).2 = (before.adopt woken next).note entry := by
  unfold submitNow
  cases before.source with
  | scripted queue => exact Or.inl rfl
  | buffered queue =>
      cases draft.build with
      | error error => exact Or.inl rfl
      | ok batch =>
          dsimp only
          rcases queue.trySubmit batch with ⟨error | accepted, woken, next⟩
          · exact Or.inr ⟨queue, woken, next, batch, _, rfl, Or.inr rfl, rfl⟩
          · exact Or.inr ⟨queue, woken, next, batch, _, rfl, Or.inl rfl, rfl⟩

theorem submitNow_outside (buffered : before.source = .buffered queue) (door : Door)
    (draft : Draft) : Outside before queue (before.submitNow door draft).2 := by
  simp only [submitNow, buffered]
  cases draft.build with
  | error error => exact .unmoved
  | ok batch =>
      dsimp only
      rcases tried : queue.trySubmit batch with ⟨error | accepted, woken, next⟩
      · exact .refuses tried
      · exact .accepts tried

theorem dropHolder_outside : Outside before queue before.dropHolder := by
  unfold dropHolder
  cases holder : before.holder with
  | nobody => exact .unmoved
  | handle | runtime =>
      apply Outside.stops
      rw [holder]
      intro impossible
      cases impossible

theorem announce_eq (buffered : before.source = .buffered queue) (settings : Settings) :
    before.announce settings = { before with
      holder := .runtime
      journal := before.journal ++
        [.logged (.assembled queue.capacity settings.shutdownAwait)] } := by
  simp only [announce, buffered, log, note]

theorem announce_outside (buffered : before.source = .buffered queue) (settings : Settings)
    (held : before.holder ≠ .nobody) : Outside before queue (before.announce settings) := by
  have plain : Journal.Plain [.logged (.assembled queue.capacity settings.shutdownAwait)] :=
    .cons rfl .nil
  rw [announce_eq buffered]
  exact .aside (Nat.le_refl _) (fun _ member => member) plain (fun _ => held)

/-- Every act is of one of the kinds. -/
theorem Act.outside {after : Deployment} (act : Act before after)
    (buffered : before.source = .buffered queue) : Outside before queue after := by
  cases act with
  | clock time actors later =>
      rw [wakeAll_eq]
      exact .wakes actors later
  | release gate count =>
      rw [wakeAll_eq]
      exact .wakes _ (Nat.le_refl _)
  | cancel token =>
      rw [wakeAll_eq]
      exact .wakes _ (Nat.le_refl _)
  | submitNow door draft => exact submitNow_outside buffered door draft
  | close same =>
      rw [buffered] at same
      cases same
      exact .closes
  | logStats tag =>
      rw [logStats_eq]
      exact .aside (Nat.le_refl _) (fun _ member => member) (plain_figures before tag) id
  | start => exact start_outside
  | stop held => exact .stops before.holder held
  | drop => exact dropHolder_outside
  | handOver holder held =>
      have aside : Outside before queue { before with holder, journal := before.journal ++ [] } :=
        .aside (Nat.le_refl _) (fun _ member => member) .nil (fun _ => held)
      rwa [List.append_nil] at aside
  | announce settings held => exact announce_outside buffered settings held
  | watch watches =>
      have aside : Outside before queue { before with watches, journal := before.journal ++ [] } :=
        .aside (Nat.le_refl _) (fun _ member => member) .nil id
      rwa [List.append_nil] at aside

theorem Outside.jobs {after : Deployment} (outside : Outside before queue after) :
    after.jobs = before.jobs := by
  cases outside with
  | accepts _ | refuses _ | closes => simp only [adopt_eq, note]
  | aside _ _ _ _ | starts _ => rfl
  | stops holder _ =>
      rcases requestStop_eq { before with holder } with ⟨_, _, _, _, same⟩
      rw [same]

theorem Outside.outcomes {after : Deployment} (outside : Outside before queue after) :
    after.outcomes = before.outcomes := by
  cases outside with
  | accepts _ | refuses _ | closes => simp only [adopt_eq, note]
  | aside _ _ _ _ | starts _ => rfl
  | stops holder _ =>
      rcases requestStop_eq { before with holder } with ⟨_, _, _, _, same⟩
      rw [same]

/-- Nothing from outside sends anybody out of the line. -/
theorem Outside.grows {after : Deployment} (outside : Outside before queue after) (actor : Actor)
    (member : actor ∈ before.ready) : actor ∈ after.ready := by
  cases outside with
  | aside _ grows _ _ => exact grows actor member
  | accepts _ | refuses _ | closes =>
      simp only [adopt_eq, note]
      exact mem_lineUpAll.mpr (Or.inl member)
  | starts _ => exact mem_lineUp.mpr (Or.inl (mem_lineUpAll.mpr (Or.inl member)))
  | stops holder _ =>
      rcases requestStop_eq { before with holder } with ⟨_, _, _, _, same⟩
      rw [same]
      exact mem_lineUpAll.mpr (Or.inl member)

end Acts

end Deployment
end FailureDispatch

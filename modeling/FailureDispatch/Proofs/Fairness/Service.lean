import FailureDispatch.Proofs.Drain.Completeness
import FailureDispatch.Proofs.Fairness.Simulation
import FailureDispatch.Proofs.Fairness.Submitters

/-!
# Everybody in order

What has been said of slots, seats and submissions, put together for a
deployment: it holds at the beginning, and whatever happens keeps it.  Each
happening also lets the line for the slots and the line for the seat go on in
turn.

A run is made of happenings.  It gives everybody turns until nobody can act, so
a settled deployment is a state of a run like any other.
-/

namespace FailureDispatch
namespace Deployment

/-- A service that nobody has started, over an empty queue, with nobody about. -/
structure Vacant (deployment : Deployment) : Prop where
  unstarted : deployment.Unstarted
  ready : deployment.ready = []
  gates : deployment.gates = []

/-- Everybody at the queue is where he belongs. -/
structure Civil (deployment : Deployment) (queue : SubmissionQueue Actor Batch)
    (sitter : Option Actor) : Prop where
  composed : deployment.Composed
  buffered : deployment.source = .buffered queue
  reserved : (deployment.crowd queue).Reserved
  occupied : (deployment.crowd queue).Occupied sitter
  punctual : (deployment.crowd queue).Punctual

/-- A deployment comes about from another by what really happens. -/
abbrev Happens : Deployment → Deployment → Prop := Relation.ReflTransGen Happening

section Happenings

variable {origin before after reached : Deployment} {queue : SubmissionQueue Actor Batch}
  {sitter : Option Actor}

/-- Nobody is about at first. -/
theorem Vacant.role_eq (vacant : origin.Vacant) (actor : Actor) : origin.role actor = .apart := by
  cases actor with
  | worker =>
      simp only [role, vacant.unstarted.worker]
      rfl
  | caller id =>
      apply role_of_absent
      rw [job?, vacant.unstarted.jobs]
      rfl

theorem Vacant.civil (vacant : origin.Vacant) : ∃ queue, origin.Civil queue none := by
  rcases vacant.unstarted.buffered with ⟨capacity, buffered⟩
  have apart := vacant.role_eq
  have nobody : origin.ready = [] := vacant.ready
  have begins (actor : Actor) : origin.role actor ≠ .submits false := by
    rw [apart]
    exact Role.apart_ne_submits false
  have wants (actor : Actor) (place : SubmissionQueue.Place) :
      origin.role actor ≠ .consumes place := by
    rw [apart]
    exact nofun
  refine ⟨.empty capacity, ⟨vacant.unstarted.onCourse, ?_, ?_⟩, buffered, ?_, ?_, ?_⟩
  · rw [vacant.unstarted.jobs]
    exact List.nodup_nil
  · intro entry member
    rw [vacant.gates] at member
    cases member
  · refine ⟨SubmissionQueue.roomy_empty capacity, ?_, nofun, ?_⟩
    · intro actor
      refine iff_of_false List.not_mem_nil ?_
      rw [show (origin.crowd (.empty capacity)).role actor = .apart from apart actor]
      exact Bool.false_ne_true
    · exact fun actor new => absurd new (begins actor)
  · refine ⟨⟨⟨fun waiting => absurd rfl waiting, List.nodup_nil⟩, rfl, nofun⟩, ?_, nofun, ?_, nofun,
      nofun, nofun⟩
    · exact fun actor => iff_of_false (wants actor .seat) nofun
    · exact fun actor waits => absurd waits (wants actor .line)
  · refine ⟨?_, nofun, ?_⟩
    · rw [show (origin.crowd (.empty capacity)).ready = [] from nobody]
      exact List.nodup_nil
    · exact List.nil_sublist _

/-- Whatever happens, everybody stays where he belongs, and the lines go on in turn. -/
theorem Civil.happening (civil : before.Civil queue sitter) (happening : Happening before after) :
    ∃ next sitter', after.Civil next sitter' ∧
      InTurn (before.crowd queue).submitters (queue.submitted < next.submitted)
        (after.crowd next).submitters ∧
      InTurn (queue.turn.attendance sitter) (queue.consumed < next.consumed)
        (next.turn.attendance sitter') := by
  rcases happening.follows civil.composed civil.buffered with ⟨next, buffered, step⟩
  rcases civil.occupied.step step with ⟨sitter', occupied, consumers⟩
  rcases civil.punctual.step civil.reserved civil.occupied step with ⟨punctual, submitters⟩
  exact ⟨next, sitter', ⟨civil.composed.happening happening, buffered,
    civil.reserved.step step, occupied, punctual⟩, submitters, consumers⟩

theorem Civil.happens (civil : before.Civil queue sitter) (happens : Happens before reached) :
    ∃ next sitter', reached.Civil next sitter' := by
  induction happens with
  | refl => exact ⟨queue, sitter, civil⟩
  | tail _ happening inductionHypothesis =>
      rcases inductionHypothesis with ⟨middle, seated, there⟩
      rcases there.happening happening with ⟨next, sitter', last, _⟩
      exact ⟨next, sitter', last⟩

theorem Vacant.happens (vacant : origin.Vacant) (happens : Happens origin reached) :
    ∃ queue sitter, reached.Civil queue sitter := by
  rcases vacant.civil with ⟨queue, civil⟩
  exact civil.happens happens

theorem Happens.reaches (happens : Happens before after) : Reaches true before after :=
  Relation.ReflTransGen.mono (fun _ _ => Happening.move) _ _ happens

end Happenings

/-! ## Runs -/

section Runs

variable {before after : Deployment} {id : Nat}

theorem happens_settle (deployment : Deployment) : Happens deployment deployment.settle := by
  apply settle_keeps
  · intro reached happens
    exact happens.tail .turn
  · exact .refl

theorem happens_passTime (remaining : Nat) (deployment : Deployment) :
    Happens deployment (passTime remaining deployment) := by
  fun_induction passTime remaining deployment with
  | case1 | case3 => exact .single (.passes _ (Nat.le_add_right _ _))
  | case2 remaining deployment time _ due inductionHypothesis =>
      have rung : Happening deployment (deployment.ring time) := .rings time (Nat.le_of_lt due.1)
      exact ((Relation.ReflTransGen.single rung).trans (happens_settle _)).trans
        inductionHypothesis

theorem happens_spawn (sound : before.OnCourse) (numbered : Numbered id before) {call : Call}
    (new : call.isNew = true) (started : call.isJoin = true → before.service.state ≠ .new) :
    Happens before (before.spawn id call) := by
  rcases numbered.settle sound with ⟨_, settled⟩
  have begins : Happening before.settle ((before.settle.addJob id call).wake (.caller id)) := by
    apply Happening.begins
    · exact fun entry member => Nat.ne_of_lt (settled.1 entry member)
    · exact ⟨new, fun _ => rfl, fun joins => started_settle sound (started joins)⟩
  exact ((happens_settle before).tail begins).trans (happens_settle _)

/-- What a step comes to is made of happenings. -/
theorem Taken.happens {step : Step} (taken : Taken before id step after) (sound : before.OnCourse)
    (numbered : Numbered id before) : Happens before after := by
  cases taken with
  | acts atOnce _ => exact .single (.requests atOnce.request)
  | settles => exact happens_settle before
  | advances duration => exact (happens_settle before).trans (happens_passTime duration _)
  | aborts _ known => exact (Relation.ReflTransGen.single (.aborts known)).trans (happens_settle _)
  | begins new _ _ single =>
      refine happens_spawn sound numbered new ?_
      intro joins
      rw [single] at joins
      cases joins
  | @joins door stopFirst given asked =>
      have held := Holder.ne_nobody given
      have handed : Act before { before with holder := .nobody } := .handOver .nobody held
      have spawned := happens_spawn (sound.act handed) (numbered.act sound handed)
        (show (Call.join door stopFirst).isNew = true from rfl) fun _ => sound.held held
      exact (Relation.ReflTransGen.single (.handsOver .nobody held)).trans spawned

/-- A run is made of happenings. -/
theorem happens_run (sound : before.OnCourse) (numbered : Numbered id before)
    (steps : List (Option Step)) : Happens before (before.run id steps).2 := by
  induction steps generalizing id before with
  | nil => exact .refl
  | cons step rest inductionHypothesis =>
      cases step with
      | none => exact inductionHypothesis sound (numbered.mono (Nat.le_succ id))
      | some step =>
          have taken : Taken before id step (before.take id step).2 := take_taken id step
          have reached : Reaches true before (before.take id step).2 ∧ Numbered (id + 1) _ :=
            taken.reaches sound numbered fun _ => rfl
          exact (taken.happens sound numbered).trans
            (inductionHypothesis (sound.reaches reached.1) reached.2)

end Runs

/-! ## Beginnings -/

/-- Nobody is about at a bare queue. -/
theorem vacant_ofQueue {capacity : Nat} {deployment : Deployment}
    (made : ofQueue capacity = .ok deployment) : deployment.Vacant := by
  refine ⟨unstarted_ofQueue made, ?_, ?_⟩ <;>
    (unfold ofQueue at made; split at made <;> cases made; rfl)

theorem vacant_prepared (settings : Settings) (registry : HandlerRegistry) (acknowledger : Script) :
    (prepared settings registry acknowledger).Vacant :=
  ⟨unstarted_prepared settings registry acknowledger, rfl, rfl⟩

/-- Whatever happens to an assembled runtime begins with a service that nobody has started. -/
theorem happens_of_assembled {settings : Settings} {registry : HandlerRegistry}
    {acknowledger : Script} {origin : Deployment}
    (assembled : assemble settings registry acknowledger = .ok origin) :
    Happens (prepared settings registry acknowledger) origin := by
  have unstarted := unstarted_prepared settings registry acknowledger
  rcases eq_of_assemble assembled with ⟨_, same⟩
  generalize prepared settings registry acknowledger = before at unstarted same ⊢
  have starts : Happens before before.start.2 := .single (.requests .start)
  rw [same]
  exact (starts.trans (happens_settle _)).tail (.announces settings unstarted.held_settled)

/-- A queue as its users get it: with a service that nobody has started, or with a runtime. -/
inductive Opened : Deployment → Prop where
  | vacant {origin : Deployment} (vacant : origin.Vacant) : Opened origin
  | assembled {settings : Settings} {registry : HandlerRegistry} {acknowledger : Script}
      {origin : Deployment} (made : assemble settings registry acknowledger = .ok origin) :
      Opened origin

theorem settled_announce {before : Deployment} (sound : before.OnCourse) (settled : before.Settled)
    (settings : Settings) : (before.announce settings).Settled := by
  rcases sound.buffered with ⟨queue, buffered⟩
  rw [announce_eq buffered]
  exact settled

/-- Everybody is where he belongs at the beginning, and nobody can act. -/
theorem Opened.begins {origin : Deployment} (opened : origin.Opened) :
    (∃ queue sitter, origin.Civil queue sitter) ∧ Numbered 0 origin ∧ origin.Settled := by
  cases opened with
  | vacant vacant =>
      rcases vacant.civil with ⟨queue, civil⟩
      exact ⟨⟨queue, none, civil⟩, vacant.unstarted.numbered, vacant.ready⟩
  | @assembled settings registry acknowledger origin made =>
      have vacant := vacant_prepared settings registry acknowledger
      refine ⟨vacant.happens (happens_of_assembled made), ?_⟩
      rcases eq_of_assemble made with ⟨waits, same⟩
      rcases vacant.unstarted.announced waits settings with ⟨_, _, numbered⟩
      rw [← same] at numbered
      have sound := vacant.unstarted.onCourse.act .start
      refine ⟨numbered, ?_⟩
      rw [same]
      exact settled_announce (sound.reaches (reaches_settle true _)) (settled_settle _) settings

end Deployment
end FailureDispatch

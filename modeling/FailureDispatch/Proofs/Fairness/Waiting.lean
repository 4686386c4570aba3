import FailureDispatch.Proofs.Fairness.Service
import Mathlib.Data.List.Nodup

/-!
# Nobody waits in vain

When nobody can act, whoever still waits has a reason to.  A submission waits
for a slot only at a full buffer: a free slot would have been granted, and
whoever has been granted one can act.  A consumer waits only at an empty buffer
of an open queue: somebody sits in front of the buffer then, and sleeps there.

Slots that have been granted are not free, so submitting without waiting never
takes one of them.  It succeeds just if a slot remains when everybody who waits
has got one.
-/

namespace FailureDispatch

theorem Worker.not_claims (worker : Worker) : worker.role.claims = false := by
  cases worker with
  | fetching fetch | drainFetching _ _ fetch => cases fetch <;> rfl
  | _ => rfl

/-- A submission keeps its claim until it is torn down. -/
theorem Job.role_claims (job : Job) : job.role.claims = job.call.waitsForSlot := by
  rcases job with ⟨call, doomed⟩
  cases call with
  | submit door batch begun => cases doomed <;> cases begun <;> rfl
  | _ => cases doomed <;> rfl

/-- A batch is not accepted at once when no slot is free. -/
theorem SubmissionQueue.trySubmit_ne_ok {ι α : Type} {queue : SubmissionQueue ι α}
    (taken : queue.slots.free = 0) (item : α) : (queue.trySubmit item).1 ≠ .ok () := by
  unfold trySubmit
  cases queue.isOpen <;> simp [taken]

/-- Whoever acts when all granted slots have been picked up frees one slot at most, and it does not
stay free while somebody waits. -/
theorem Acts.spent {queue next : SubmissionQueue Actor Batch} {who : Actor} {woken : List Actor}
    {earlier later : Role} (acts : Acts queue who earlier woken next later)
    (orderly : queue.slots.Orderly) (collected : queue.slots.granted = []) :
    next.slots.granted = [] ∨ next.slots.free = 0 := by
  have asked {answer : Bool × Permits Actor} (asks : queue.slots.Asks who answer) :
      answer.2.granted = [] := by
    cases asks with
    | picksUp granted =>
        rw [collected] at granted
        cases granted
    | obtains _ _ | standsOn _ _ | queues _ _ => exact collected
  have asks := queue.slots.ask_asks who
  cases acts with
  | idles | refused | misses _ _ | vacates _ | sleeps _ _ _ | stands _ | leaves _ =>
      exact Or.inl collected
  | closes =>
      rcases queue.close_eq with ⟨_, same⟩
      rw [same]
      exact Or.inl collected
  | accepted batch answered | queues answered =>
      rw [answered] at asks
      exact Or.inl (asked asks)
  | withdraws =>
      rcases SubmissionQueue.rouseIfExhausted_eq
        { queue with slots := (queue.slots.leave who).2 } with ⟨sleeper, same⟩
      have slots : (queue.withdraw who).2.slots = (queue.slots.leave who).2 :=
        congrArg SubmissionQueue.slots same
      have ungranted : who ∉ queue.slots.granted := by
        rw [collected]
        exact List.not_mem_nil
      rw [slots, Permits.leave, if_neg ungranted]
      exact Or.inl collected
  | takes gets front =>
      cases line : queue.slots.line with
      | nil =>
          refine Or.inl ?_
          simp only [Permits.release, line, collected, List.take_nil, List.append_nil]
      | cons first rest =>
          have taken := orderly.served (List.ne_nil_of_mem (line ▸ List.mem_cons_self))
          refine Or.inr ?_
          simp only [Permits.release, line, taken, List.take_succ_cons, List.take_zero,
            List.length_singleton, Nat.sub_self]

theorem Crowd.Step.spent {before after : Crowd} (step : before.Step after)
    (orderly : before.queue.slots.Orderly) (collected : before.queue.slots.granted = []) :
    after.queue.slots.granted = [] ∨ after.queue.slots.free = 0 := by
  cases step with
  | stirs _ | comes _ _ | dooms _ | approaches _ _ => exact Or.inl collected
  | offers batch => exact Or.inl ((Crowd.trySubmit_claims _ batch).2.1.trans collected)
  | closes =>
      rcases before.queue.close_eq with ⟨_, same⟩
      rw [same]
      exact Or.inl collected
  | turn _ _ acts _ _ => exact acts.spent orderly collected

namespace Deployment

variable {deployment : Deployment} {queue : SubmissionQueue Actor Batch} {sitter : Option Actor}

/-- The claims on the slots are those of the submissions that wait. -/
theorem Civil.mem_claimants (civil : deployment.Civil queue sitter) (actor : Actor) :
    actor ∈ queue.slots.claimants ↔ actor ∈ deployment.callersWith Call.waitsForSlot := by
  refine (civil.reserved.claims actor).trans ?_
  show (deployment.role actor).claims = true ↔ _
  constructor
  · intro claims
    cases actor with
    | worker =>
        rw [role, Worker.not_claims] at claims
        cases claims
    | caller id =>
        cases known : deployment.job? id with
        | none =>
            rw [role_of_absent known] at claims
            cases claims
        | some job =>
            rw [role_of_job? known, job.role_claims] at claims
            exact List.mem_map.mpr
              ⟨(id, job), List.mem_filter.mpr ⟨mem_of_job? known, claims⟩, rfl⟩
  · intro waits
    rcases List.mem_map.mp waits with ⟨entry, among, same⟩
    rcases List.mem_filter.mp among with ⟨present, begun⟩
    rw [← same, role_of_job? (job?_of_mem civil.composed.distinct present), Job.role_claims]
    exact begun

theorem Civil.length_claimants (civil : deployment.Civil queue sitter) :
    queue.slots.claimants.length = (deployment.callersWith Call.waitsForSlot).length := by
  have once : (deployment.callersWith Call.waitsForSlot).Nodup := by
    have among : ((deployment.jobs.filter fun entry => entry.2.call.waitsForSlot).map
        Prod.fst).Sublist (deployment.jobs.map Prod.fst) := List.filter_sublist.map Prod.fst
    have named := List.Nodup.map (fun _ _ => Actor.caller.inj)
      (among.nodup civil.composed.distinct)
    rw [List.map_map] at named
    exact named
  have roomy : queue.Roomy := civil.reserved.roomy
  exact ((List.perm_ext_iff_of_nodup roomy.orderly.distinct once).mpr civil.mem_claimants).length_eq

/-! ## Submitting without waiting -/

/-- Submitting without waiting leaves a slot for everybody who waits for one. -/
theorem Civil.trySubmit_iff (civil : deployment.Civil queue sitter) (batch : Batch) :
    (queue.trySubmit batch).1 = .ok () ↔ queue.isOpen = true ∧
      queue.buffer.length + (deployment.callersWith Call.waitsForSlot).length < queue.capacity := by
  have roomy : queue.Roomy := civil.reserved.roomy
  have measured := roomy.measured
  rw [← civil.length_claimants, Permits.claimants, List.length_append]
  unfold Permits.supply at measured
  have free : 0 < queue.slots.free ↔
      queue.buffer.length + (queue.slots.line.length + queue.slots.granted.length) <
        queue.capacity := by
    by_cases waiting : queue.slots.line = []
    · rw [waiting, List.length_nil]
      omega
    · have taken := roomy.orderly.served waiting
      omega
  unfold SubmissionQueue.trySubmit
  cases queue.isOpen with
  | false => simp
  | true =>
      rw [← free]
      by_cases room : 0 < queue.slots.free
      · simp [room]
      · simp [room]

/-- Nobody gets past a submission that no slot has been granted to. -/
theorem Civil.trySubmit_refused (civil : deployment.Civil queue sitter) {actor : Actor}
    (claims : actor ∈ queue.slots.claimants) (sleeps : actor ∉ deployment.ready) (batch : Batch) :
    (queue.trySubmit batch).1 ≠ .ok () := by
  have roomy : queue.Roomy := civil.reserved.roomy
  have stands : actor ∈ queue.slots.line := by
    rcases List.mem_append.mp claims with stands | granted
    · exact stands
    · exact absurd (civil.reserved.granted actor granted) sleeps
  exact SubmissionQueue.trySubmit_ne_ok (roomy.orderly.served (List.ne_nil_of_mem stands)) batch

/-- Where it succeeds nobody stands in line: whoever waits has been granted a slot. -/
theorem Civil.trySubmit_keeps (civil : deployment.Civil queue sitter) (batch : Batch)
    (passes : (queue.trySubmit batch).1 = .ok ()) :
    (queue.trySubmit batch).2.2.slots.granted = queue.slots.granted ∧
      ∀ actor ∈ deployment.callersWith Call.waitsForSlot, actor ∈ queue.slots.granted := by
  refine ⟨(Crowd.trySubmit_claims queue batch).2.1, fun actor waits => ?_⟩
  have roomy : queue.Roomy := civil.reserved.roomy
  rcases List.mem_append.mp ((civil.mem_claimants actor).mpr waits) with stands | granted
  · have full := roomy.orderly.served (List.ne_nil_of_mem stands)
    exact absurd passes (SubmissionQueue.trySubmit_ne_ok full batch)
  · exact granted

/-! ## When nobody can act -/

section Settled

variable (civil : deployment.Civil queue sitter) (settled : deployment.Settled)
include civil settled

theorem Civil.ungranted : queue.slots.granted = [] ∧ queue.turn.granted = [] := by
  have nobody {actor : Actor} : actor ∉ deployment.ready := by
    rw [settled]
    exact List.not_mem_nil
  constructor <;> apply List.eq_nil_iff_forall_not_mem.mpr
  · exact fun actor granted => nobody (civil.reserved.granted actor granted)
  · exact fun actor granted => nobody (civil.occupied.granted actor granted)

/-- A submission waits only at a full buffer. -/
theorem Civil.full {actor : Actor} {begun : Bool} (waits : deployment.role actor = .submits begun) :
    queue.buffer.length = queue.capacity := by
  have begun : begun = true := by
    cases begun with
    | true => rfl
    | false =>
        have present : actor ∈ deployment.ready := civil.reserved.fresh actor waits
        rw [settled] at present
        cases present
  have claims : actor ∈ queue.slots.claimants := by
    refine (civil.reserved.claims actor).mpr ?_
    rw [show (deployment.crowd queue).role actor = .submits _ from waits, begun]
    rfl
  have ungranted := (civil.ungranted settled).1
  rw [Permits.claimants, ungranted, List.append_nil] at claims
  have roomy : queue.Roomy := civil.reserved.roomy
  have measured := roomy.measured
  rw [Permits.supply, roomy.orderly.served (List.ne_nil_of_mem claims), ungranted,
    List.length_nil] at measured
  omega

/-- Whenever a consumer waits, somebody sits in front of the buffer. -/
theorem Civil.sits {actor : Actor} {place : SubmissionQueue.Place}
    (waits : deployment.role actor = .consumes place) : ∃ other, sitter = some other := by
  cases place with
  | seat => exact ⟨actor, (civil.occupied.sits actor).mp waits⟩
  | line =>
      have seating : queue.turn.Seating sitter := civil.occupied.seating
      have ungranted := (civil.ungranted settled).2
      have stands : actor ∈ queue.turn.line := by
        rcases civil.occupied.attends actor waits with claims | present
        · rw [Permits.claimants, show (deployment.crowd queue).queue = queue from rfl, ungranted,
            List.append_nil] at claims
          exact claims
        · rw [show (deployment.crowd queue).ready = [] from settled] at present
          cases present
      have single := seating.single
      rw [Permits.supply, seating.orderly.served (List.ne_nil_of_mem stands), ungranted] at single
      cases sitter with
      | some other => exact ⟨other, rfl⟩
      | none => cases single

/-- A consumer waits only at an empty buffer of an open queue. -/
theorem Civil.starved {actor : Actor} {place : SubmissionQueue.Place}
    (waits : deployment.role actor = .consumes place) :
    queue.buffer = [] ∧ queue.isOpen = true := by
  rcases civil.sits settled waits with ⟨other, sitting⟩
  have sleeps : queue.sleeper = some other := by
    rcases civil.occupied.awake other sitting with sleeps | present
    · exact sleeps
    · rw [show (deployment.crowd queue).ready = [] from settled] at present
      cases present
  have roomy : queue.Roomy := civil.reserved.roomy
  rcases civil.occupied.asleep other sleeps with ⟨_, empty, more⟩
  have empty : queue.buffer = [] := empty
  have more : queue.mayReceive = true := more
  have quiet := roomy.isQuiet empty (civil.ungranted settled).1
  rw [SubmissionQueue.mayReceive, quiet, Bool.not_true, Bool.or_false] at more
  exact ⟨empty, more⟩

end Settled

/-! ## Between a wake-up and the turn that follows it -/

/-- Every slot that has been granted has been picked up. -/
def Collected (deployment : Deployment) : Prop :=
  ∀ queue, deployment.source = .buffered queue → queue.slots.granted = []

/-- Then nobody gets past a submission that waits. -/
theorem Civil.trySubmit_collected (civil : deployment.Civil queue sitter)
    (collected : deployment.Collected)
    (waiting : deployment.callersWith Call.waitsForSlot ≠ []) (batch : Batch) :
    (queue.trySubmit batch).1 ≠ .ok () := by
  rcases List.exists_mem_of_ne_nil _ waiting with ⟨actor, waits⟩
  have claims := (civil.mem_claimants actor).mpr waits
  rw [Permits.claimants, collected queue civil.buffered, List.append_nil] at claims
  have roomy : queue.Roomy := civil.reserved.roomy
  exact SubmissionQueue.trySubmit_ne_ok (roomy.orderly.served (List.ne_nil_of_mem claims)) batch

/-- Nor does anybody when one slot has been granted since. -/
theorem Civil.trySubmit_next {before after : Deployment} (civil : before.Civil queue sitter)
    (collected : before.Collected) (happening : Happening before after)
    (waiting : after.callersWith Call.waitsForSlot ≠ []) :
    ∃ next, after.source = .buffered next ∧ ∀ batch, (next.trySubmit batch).1 ≠ .ok () := by
  rcases civil.happening happening with ⟨next, sitter', there, _⟩
  refine ⟨next, there.buffered, fun batch => ?_⟩
  rcases happening.follows civil.composed civil.buffered with ⟨reached, buffered, step⟩
  cases there.buffered.symm.trans buffered
  rcases step.spent civil.reserved.roomy.orderly (collected queue civil.buffered) with
    ungranted | taken
  · refine there.trySubmit_collected ?_ waiting batch
    intro other source
    cases source.symm.trans buffered
    exact ungranted
  · exact SubmissionQueue.trySubmit_ne_ok taken batch

/-! ## Between the steps of a run -/

section Runs

variable {origin before after : Deployment} {id : Nat}

/-- Nothing that comes from outside grants a slot. -/
theorem Outside.collected (outside : Outside before queue after)
    (buffered : before.source = .buffered queue) (collected : before.Collected) :
    after.Collected := by
  have ungranted := collected queue buffered
  intro next source
  cases outside with
  | aside _ _ _ _ | starts _ =>
      cases source.symm.trans buffered
      exact ungranted
  | @accepts batch woken offered tried =>
      have granted := (Crowd.trySubmit_claims queue batch).2.1
      rw [tried] at granted
      rw [adopt_eq] at source
      cases source
      exact granted.trans ungranted
  | @refuses batch error woken offered tried =>
      have granted := (Crowd.trySubmit_claims queue batch).2.1
      rw [tried] at granted
      rw [adopt_eq] at source
      cases source
      exact granted.trans ungranted
  | closes =>
      rw [adopt_eq] at source
      cases source
      rcases queue.close_eq with ⟨_, same⟩
      rw [same]
      exact ungranted
  | stops holder held =>
      have kept := source_toldBy ({ before with holder } : Deployment) true
      cases source.symm.trans (kept.trans buffered)
      exact ungranted

theorem Settled.collected (settled : deployment.Settled) (civil : deployment.Civil queue sitter) :
    deployment.Collected := by
  intro other source
  cases source.symm.trans civil.buffered
  exact (civil.ungranted settled).1

/-- A step either comes from outside or leaves nobody who can act. -/
theorem Taken.collected {step : Step} (taken : Taken before id step after)
    (buffered : before.source = .buffered queue) (collected : before.Collected)
    (settles : after.Settled → after.Collected) : after.Collected := by
  cases taken with
  | acts atOnce _ => exact (atOnce.act.outside buffered).collected buffered collected
  | settles | aborts _ _ | begins _ _ _ _ | joins _ _ => exact settles (settled_settle _)
  | advances duration => exact settles (settled_advance _ _)

/-- After each step of a run the granted slots have been picked up. -/
theorem collected_run (civil : before.Civil queue sitter) (numbered : Numbered id before)
    (collected : before.Collected) (steps : List (Option Step)) :
    (before.run id steps).2.Collected := by
  induction steps generalizing id before queue sitter with
  | nil => exact collected
  | cons step rest inductionHypothesis =>
      cases step with
      | none => exact inductionHypothesis civil (numbered.mono (Nat.le_succ id)) collected
      | some step =>
          have sound := civil.composed.sound
          have taken : Taken before id step (before.take id step).2 := take_taken id step
          have reached : Reaches true before (before.take id step).2 ∧ Numbered (id + 1) _ :=
            taken.reaches sound numbered fun _ => rfl
          rcases civil.happens (taken.happens sound numbered) with ⟨next, sitter', there⟩
          refine inductionHypothesis there reached.2 ?_
          exact taken.collected civil.buffered collected fun settled => settled.collected there

end Runs

end Deployment
end FailureDispatch

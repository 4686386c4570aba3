import FailureDispatch.Deployment.Easing.Caller

/-!
# Every deployment settles

A turn that changes something lessens the effort that is left, and a turn that
changes nothing shortens the line.  Hence `workload` bounds the number of
turns, and `settle` ends with nobody in line, whatever the deployment is.

The main statements are `workload_tick_lt` and `settled_settle`.  What every
turn keeps is kept by settling (`settle_keeps`).
-/

namespace FailureDispatch
namespace Deployment

theorem workload_lt_of_effort_lt {before after : Deployment}
    (jobs : after.jobs.length = before.jobs.length) (effort : after.effort < before.effort)
    (ready : after.ready.length < before.ready.length + (4 * before.jobs.length + 20)) :
    after.workload < before.workload := by
  have product := Nat.mul_le_mul_left (4 * before.jobs.length + 20) effort
  rw [Nat.mul_succ] at product
  unfold workload
  rw [jobs]
  omega

theorem workload_lt_of_ready_lt {before after : Deployment}
    (jobs : after.jobs.length = before.jobs.length) (effort : after.effort ≤ before.effort)
    (ready : after.ready.length < before.ready.length) : after.workload < before.workload := by
  have product := Nat.mul_le_mul_left (4 * before.jobs.length + 20) effort
  unfold workload
  rw [jobs]
  omega

/-- Twenty turns are set aside for every call. -/
theorem length_jobs_le_effort (deployment : Deployment) :
    20 * deployment.jobs.length ≤ deployment.effort := by
  have product := Nat.mul_le_mul_right deployment.jobs.length
    (Nat.le_add_left 20 deployment.service.handlers.length)
  unfold effort
  omega

theorem workload_lt_of_jobs_lt {before after : Deployment}
    (jobs : after.jobs.length < before.jobs.length) (effort : after.effort ≤ before.effort)
    (ready : after.ready.length < before.ready.length + (4 * before.jobs.length + 20)) :
    after.workload < before.workload := by
  have reserve := length_jobs_le_effort before
  have product : (4 * after.jobs.length + 20) * after.effort
      ≤ (4 * before.jobs.length + 16) * before.effort :=
    Nat.mul_le_mul (by omega) effort
  have gap : (4 * before.jobs.length + 20) * before.effort
      = (4 * before.jobs.length + 16) * before.effort + 4 * before.effort := by
    rw [← Nat.add_mul]
  unfold workload
  omega

theorem length_tail_lt {actors : List Actor} {bound : Nat} (le : actors.length ≤ bound)
    (positive : 0 < bound) : actors.tail.length < bound := by
  rw [List.length_tail]
  omega

theorem Eases.effort {before after : Deployment} {woken gain : Nat}
    (eases : Eases woken gain before after) : after.effort + gain ≤ before.effort := by
  have load := eases.load
  unfold Deployment.effort callersTurns
  rw [eases.jobs, eases.handlers]
  omega

/-- Every turn uses up some of the workload. -/
theorem workload_tick_lt (deployment : Deployment) (waiting : ¬ deployment.Settled) :
    deployment.tick.workload < deployment.workload := by
  have positive : 0 < deployment.ready.length := List.length_pos_iff.mpr waiting
  unfold tick
  split
  · next empty => exact absurd empty waiting
  · have advances := advances_advanceWorker deployment
    split
    · next after goes =>
      rw [goes] at advances
      have ready := advances.ready
      exact workload_lt_of_effort_lt (congrArg List.length advances.jobs) advances.effort (by
        dsimp only at ready
        omega)
    · next after rests =>
      rw [rests] at advances
      exact workload_lt_of_ready_lt (congrArg List.length advances.jobs) advances.effort
        (length_tail_lt advances.ready positive)
  · next id _ _ =>
    have shorter (after : Deployment) : after.stepBack.ready.length ≤ after.ready.length := by
      simp only [stepBack, List.length_tail]
      omega
    have still := shorter (deployment.advanceCaller id)
    cases answers_advanceCaller deployment id with
    | waits jobs effort ready =>
        exact workload_lt_of_ready_lt jobs effort (length_tail_lt ready positive)
    | moves jobs effort ready => exact workload_lt_of_effort_lt jobs effort (by omega)
    | ends jobs effort ready => exact workload_lt_of_jobs_lt jobs effort (by omega)

/-! ## Settling -/

theorem giveTurns_of_settled {deployment : Deployment} (settled : deployment.Settled)
    (turns : Nat) : giveTurns turns deployment = deployment := by
  cases turns with
  | zero => rfl
  | succ turns => simp [giveTurns, show deployment.ready = [] from settled]

theorem giveTurns_succ {deployment : Deployment} (waiting : ¬ deployment.Settled)
    (turns : Nat) : giveTurns (turns + 1) deployment = giveTurns turns deployment.tick := by
  have line : ¬ deployment.ready = [] := waiting
  simp [giveTurns, line]

theorem settled_giveTurns {deployment : Deployment} {turns : Nat}
    (enough : deployment.workload ≤ turns) : (giveTurns turns deployment).Settled := by
  induction turns generalizing deployment with
  | zero =>
      have : deployment.ready.length = 0 := by
        unfold workload at enough
        omega
      exact List.length_eq_zero_iff.mp this
  | succ turns ih =>
      by_cases settled : deployment.Settled
      · rwa [giveTurns_of_settled settled]
      · rw [giveTurns_succ settled]
        have := workload_tick_lt deployment settled
        exact ih (by omega)

/-- Settling ends with nobody in line. -/
theorem settled_settle (deployment : Deployment) : deployment.settle.Settled :=
  settled_giveTurns (Nat.le_refl _)

theorem settle_of_settled {deployment : Deployment} (settled : deployment.Settled) :
    deployment.settle = deployment :=
  giveTurns_of_settled settled _

/-- More turns than the workload make no difference. -/
theorem giveTurns_eq_settle {deployment : Deployment} (turns : Nat)
    (enough : deployment.workload ≤ turns) : giveTurns turns deployment = deployment.settle := by
  unfold settle
  generalize bound : deployment.workload = least at *
  replace bound : deployment.workload ≤ least := Nat.le_of_eq bound
  induction turns generalizing deployment least with
  | zero =>
      have : least = 0 := by omega
      rw [this]
  | succ turns ih =>
      by_cases settled : deployment.Settled
      · rw [giveTurns_of_settled settled, giveTurns_of_settled settled]
      · have less := workload_tick_lt deployment settled
        cases least with
        | zero => omega
        | succ least =>
            rw [giveTurns_succ settled, giveTurns_succ settled]
            exact ih least (by omega) (by omega)

/-- Settling may begin with a turn. -/
theorem settle_tick (deployment : Deployment) : deployment.tick.settle = deployment.settle := by
  by_cases settled : deployment.Settled
  · unfold tick
    rw [show deployment.ready = [] from settled]
  · have less := workload_tick_lt deployment settled
    rw [← giveTurns_eq_settle deployment.workload (by omega), ← giveTurns_succ settled,
      giveTurns_eq_settle _ (by omega)]

/-- What holds after a turn of whoever is first in line, whatever the line is, holds after
the turn. -/
theorem tick_keeps (property : Deployment → Prop) {deployment : Deployment}
    (line : ∀ later ready, property later → property { later with ready })
    (worker : property deployment.advanceWorker.2)
    (caller : ∀ id, property (deployment.advanceCaller id)) (holds : property deployment) :
    property deployment.tick := by
  unfold tick
  split
  · exact holds
  · split
    · next after turn =>
      rwa [turn] at worker
    · next after turn =>
      rw [turn] at worker
      exact line after _ worker
  · next id _ _ => exact line _ _ (caller id)

/-- What every turn keeps is kept by settling. -/
theorem settle_keeps {property : Deployment → Prop}
    (keeps : ∀ deployment, property deployment → property deployment.tick)
    {deployment : Deployment} (holds : property deployment) : property deployment.settle := by
  unfold settle
  generalize deployment.workload = turns
  induction turns generalizing deployment with
  | zero => exact holds
  | succ turns ih =>
      unfold giveTurns
      split
      · exact holds
      · exact ih (keeps deployment holds)

/-! ## The clock -/

/-- Time leaves a settled deployment settled. -/
theorem settled_passTime (remaining : Nat) {deployment : Deployment}
    (settled : deployment.Settled) : (passTime remaining deployment).Settled := by
  fun_induction passTime remaining deployment with
  | case1 => exact settled
  | case2 _ _ _ _ _ ih => exact ih (settled_settle _)
  | case3 => exact settled

theorem settled_advance (deployment : Deployment) (duration : Nat) :
    (deployment.advance duration).Settled :=
  settled_passTime duration (settled_settle deployment)

end Deployment
end FailureDispatch

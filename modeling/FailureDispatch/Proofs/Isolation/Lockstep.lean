import FailureDispatch.Deployment.Quiescence
import FailureDispatch.Deployment.Report
import FailureDispatch.Proofs.Isolation.Kindred

/-!
# Kindred deployments in step

Kindred deployments have the same actors in line, so the same actor has the next turn
in both, and the same alarms ring.  Hence, if batches in hand keep them kindred
(`Likeness.Serves`), whatever is done to the one and to the other, turn by turn and step
by step, they settle to kindred deployments and give the same answers
(`Kindred.settle`, `Kindred.take`).
-/

namespace FailureDispatch

/-- Batches in hand keep deployments kindred.  They need not be kindred again before
the batch is done with, and until then they need not take the same number of turns. -/
structure Likeness.Serves (likeness : Likeness) : Prop where
  goesOn : ∀ {left right : Deployment}, Deployment.Kindred likeness left right →
    ∀ {phase dispatch}, left.service.worker = .dispatching phase dispatch →
      Deployment.Paired likeness (left.advanceDispatch phase dispatch)
        (right.advanceDispatch phase dispatch)
  takes : ∀ {left right : Deployment}, Deployment.Kindred likeness left right →
    left.IsWorkersTurn → ∀ phase batch, ∃ later other,
      Deployment.Kindred likeness later other ∧
      (left.takeInHand phase batch).settle = later.settle ∧
      (right.takeInHand phase batch).settle = other.settle ∧
      later.workload ≤ (left.takeInHand phase batch).workload

namespace Deployment

theorem passTime_of_due {deployment : Deployment} {remaining time : Nat}
    (next : deployment.nextAlarm? = some time)
    (due : deployment.now < time ∧ time ≤ deployment.now + remaining) :
    passTime remaining deployment =
      passTime (remaining - (time - deployment.now)) (deployment.ring time).settle := by
  rw [passTime, next]
  dsimp only
  rw [dif_pos due]

theorem passTime_of_still {deployment : Deployment} {remaining : Nat}
    (still : ∀ time, deployment.nextAlarm? = some time →
      ¬ (deployment.now < time ∧ time ≤ deployment.now + remaining)) :
    passTime remaining deployment = { deployment with now := deployment.now + remaining } := by
  rw [passTime]
  cases next : deployment.nextAlarm? with
  | none => rfl
  | some time =>
      dsimp only
      rw [dif_neg (still time next)]

namespace Kindred

variable {likeness : Likeness} {left right : Deployment} (kindred : Kindred likeness left right)
include kindred

/-! ## The callers' turns -/

theorem leaveRuntime (id : Nat) (result : Except FailureError Nat) :
    Kindred likeness (left.leaveRuntime id result) (right.leaveRuntime id result) := by
  have told {closed other : Deployment} (later : Kindred likeness closed other) (drained : Nat) :
      Kindred likeness
        ((closed.log (.disassembled drained closed.service.state)).finish id (.drained drained))
        ((other.log (.disassembled drained other.service.state)).finish id (.drained drained)) := by
    rw [later.state]
    exact (later.log _).finish id _
  unfold Deployment.leaveRuntime
  rw [kindred.source]
  cases left.source with
  | buffered queue =>
      have closed := kindred.adopt queue.close.1 queue.close.2
      cases result with
      | ok drained => exact told closed drained
      | error error => exact closed.finish id _
  | scripted queue =>
      cases result with
      | ok drained => exact told kindred drained
      | error error => exact kindred.finish id _

theorem report (id : Nat) (door : Door) (result : Except FailureError Nat) :
    Kindred likeness (left.report id door result) (right.report id door result) := by
  cases door with
  | runtime => exact kindred.leaveRuntime id result
  | service => cases result <;> exact kindred.finish id _

theorem advanceJoin (id : Nat) (door : Door) :
    Kindred likeness (left.advanceJoin id door) (right.advanceJoin id door) := by
  unfold Deployment.advanceJoin
  rw [kindred.worker]
  cases left.service.worker with
  | done drained => exact kindred.report id door _
  | failed error => exact kindred.report id door _
  | aborted text =>
      dsimp only
      rcases kindred.enter .failed with
        ⟨moved, other, entered, enteredToo, later⟩ | ⟨_, refused, refusedToo⟩
      · rw [entered, enteredToo]
        exact later.report id door _
      · rw [refused, refusedToo]
        exact kindred.report id door _
  | _ => exact kindred

theorem settleSubmission (id : Nat) (door : Door) (batch : Batch)
    (submission : SubmissionQueue.Submission) :
    Kindred likeness (left.settleSubmission id door batch submission)
      (right.settleSubmission id door batch submission) := by
  cases submission with
  | accepted => exact (kindred.note _).finish id _
  | refused error => exact (kindred.note _).finish id _
  | waiting => exact kindred.setJob id _

theorem dismantle (id : Nat) (call : Call) :
    Kindred likeness (left.dismantle id call) (right.dismantle id call) := by
  unfold Deployment.dismantle
  rw [kindred.source]
  dsimp only
  cases left.source with
  | buffered queue =>
      cases call with
      | submit door batch begun =>
          cases begun with
          | true => exact (kindred.adopt _ _).finish id _
          | false => exact kindred.finish id _
      | consume token place => exact (kindred.adopt _ _).finish id _
      | consumeWithin deadline place => exact (kindred.adopt _ _).finish id _
      | join door stopFirst => exact kindred.requestStop.finish id _
      | joining | awaitRunning | awaitTerminated => exact kindred.finish id _
  | scripted queue =>
      cases call with
      | join door stopFirst => exact kindred.requestStop.finish id _
      | submit door batch begun => cases begun <;> exact kindred.finish id _
      | _ => exact kindred.finish id _

theorem advanceCall (id : Nat) (call : Call) :
    Kindred likeness (left.advanceCall id call) (right.advanceCall id call) := by
  unfold Deployment.advanceCall
  rw [kindred.source, kindred.cancelled, kindred.now, kindred.state]
  cases call with
  | submit door batch begun =>
      cases left.source with
      | scripted queue => exact kindred
      | buffered queue => exact (kindred.adopt _ _).settleSubmission id door batch _
  | consume token place =>
      cases left.source with
      | scripted queue => exact kindred
      | buffered queue =>
          dsimp only
          split
          · exact (kindred.adopt _ _).finish id _
          · rcases queue.seek (.caller id) place with ⟨batch | _ | place, woken, after⟩
            · exact ((kindred.adopt woken after).note _).finish id _
            · exact (kindred.adopt woken after).finish id _
            · exact (kindred.adopt woken after).setJob id _
  | consumeWithin deadline place =>
      cases left.source with
      | scripted queue => exact kindred
      | buffered queue =>
          dsimp only
          rcases queue.seek (.caller id) place with ⟨batch | _ | place, woken, after⟩
          · exact ((kindred.adopt woken after).note _).finish id _
          · exact (kindred.adopt woken after).finish id _
          · have waiting := kindred.adopt woken after
            dsimp only
            split
            · exact (waiting.adopt _ _).finish id _
            · exact waiting.setJob id _
  | join door stopFirst =>
      have joining {stopped other : Deployment} (later : Kindred likeness stopped other) :=
        (later.setJob id { call := .joining door }).advanceJoin id door
      cases stopFirst with
      | true => exact joining kindred.requestStop
      | false => exact joining kindred
  | joining door => exact kindred.advanceJoin id door
  | awaitRunning =>
      cases left.service.state with
      | new | starting => exact kindred
      | _ => exact kindred.finish id _
  | awaitTerminated =>
      dsimp only
      split
      · exact kindred.finish id _
      · exact kindred

theorem advanceCaller (id : Nat) :
    Kindred likeness (left.advanceCaller id) (right.advanceCaller id) := by
  unfold Deployment.advanceCaller Deployment.job?
  rw [kindred.jobs]
  split
  · exact kindred
  · exact kindred.dismantle id _
  · exact kindred.advanceCall id _

/-! ## Changes from outside -/

theorem stepBack : Kindred likeness left.stepBack right.stepBack :=
  kindred.change (fun deployment => deployment.stepBack)
    (fun _ _ _ => rfl) kindred.stands

theorem setNow (now : Nat) : Kindred likeness { left with now } { right with now } :=
  kindred.change (fun deployment => { deployment with now })
    (fun _ _ _ => rfl) kindred.stands

theorem alarms : right.alarms = left.alarms := by
  rw [Deployment.alarms, Deployment.alarms, kindred.worker, kindred.jobs]

theorem nextAlarm? : right.nextAlarm? = left.nextAlarm? := by
  rw [Deployment.nextAlarm?, Deployment.nextAlarm?, kindred.alarms, kindred.now]

theorem ring (time : Nat) : Kindred likeness (left.ring time) (right.ring time) := by
  unfold Deployment.ring dueAt
  rw [kindred.alarms]
  exact (kindred.setNow time).wakeAll _

theorem addJob (id : Nat) (call : Call) :
    Kindred likeness (left.addJob id call) (right.addJob id call) :=
  kindred.change (fun deployment => deployment.addJob id call)
    (fun _ _ _ => rfl) kindred.stands

theorem door : right.door = left.door := by
  rw [Deployment.door, Deployment.door, kindred.holder]

theorem submitNow (door : Door) (draft : Draft) :
    Paired likeness (left.submitNow door draft) (right.submitNow door draft) := by
  unfold Deployment.submitNow
  rw [kindred.source]
  cases left.source with
  | scripted queue => exact ⟨rfl, kindred⟩
  | buffered queue =>
      cases draft.build with
      | error error => exact ⟨rfl, kindred⟩
      | ok batch =>
          dsimp only
          rcases queue.trySubmit batch with ⟨error | _, woken, after⟩
          · exact ⟨rfl, (kindred.adopt woken after).note _⟩
          · exact ⟨rfl, (kindred.adopt woken after).note _⟩

theorem start : Paired likeness left.start right.start := by
  unfold Deployment.start
  rcases kindred.enter .starting with
    ⟨moved, other, entered, enteredToo, later⟩ | ⟨_, refused, refusedToo⟩
  · have fresh : Worker.fresh.isFree = true := rfl
    rw [entered, enteredToo]
    exact ⟨rfl, ((later.setHolder .handle).free fresh).wake .worker⟩
  · rw [refused, refusedToo]
    exact ⟨rfl, kindred⟩

theorem dropHolder : Kindred likeness left.dropHolder right.dropHolder := by
  unfold Deployment.dropHolder
  rw [kindred.holder]
  cases left.holder with
  | nobody => exact kindred
  | handle | runtime => exact (kindred.setHolder .nobody).requestStop

theorem setGate (gate : String) (permits : Permits Actor) :
    Kindred likeness (left.setGate gate permits) (right.setGate gate permits) :=
  kindred.change (fun deployment => deployment.setGate gate permits)
    (fun _ _ _ => rfl) kindred.stands

theorem setWatches (watches : List (String × Nat)) :
    Kindred likeness { left with watches } { right with watches } :=
  kindred.change (fun deployment => { deployment with watches })
    (fun _ _ _ => rfl) kindred.stands

/-! ## Turns and time -/

section Serving

variable (serves : likeness.Serves)
include serves

/-- Kindred deployments take the same turn, or the same batch in hand. -/
theorem tick :
    Kindred likeness left.tick right.tick ∨
      ∃ before other phase batch, Kindred likeness before other ∧ before.IsWorkersTurn ∧
        left.tick = before.takeInHand phase batch ∧ right.tick = other.takeInHand phase batch := by
  unfold Deployment.tick
  rw [kindred.ready]
  cases line : left.ready with
  | nil => exact Or.inl kindred
  | cons head rest =>
      cases head with
      | worker =>
          have turn := kindred.advanceWorker ⟨rest, line⟩ fun _ _ => serves.goesOn kindred
          dsimp only
          revert turn
          rcases left.advanceWorker with ⟨progress, after⟩
          rcases right.advanceWorker with ⟨_, other⟩
          rintro (⟨⟨same, later⟩⟩ | ⟨earlier, turn, taken, takenToo⟩)
          · cases same
            cases progress with
            | goesOn => exact Or.inl later
            | rests => exact Or.inl later.stepBack
          · cases taken
            cases takenToo
            exact Or.inr ⟨_, _, _, _, earlier, turn, rfl, rfl⟩
      | caller id => exact Or.inl (kindred.advanceCaller id).stepBack

omit kindred in
/-- What kindred deployments settle to is kindred. -/
theorem settle {left right : Deployment}
    (kindred : Kindred likeness left right) : Kindred likeness left.settle right.settle := by
  -- On the workload of the one.  The deployments need not take the same number of turns.
  generalize bound : left.workload = turns
  induction turns using Nat.strong_induction_on generalizing left right with
  | h turns inductionHypothesis =>
      subst bound
      by_cases settled : left.Settled
      · have settledToo : right.Settled := kindred.ready.trans settled
        rw [settle_of_settled settled, settle_of_settled settledToo]
        exact kindred
      · have less := workload_tick_lt left settled
        rw [← settle_tick left, ← settle_tick right]
        rcases kindred.tick serves with
          later | ⟨before, other, phase, batch, earlier, turn, taken, takenToo⟩
        · exact inductionHypothesis _ less later rfl
        · rcases serves.takes earlier turn phase batch with
            ⟨served, servedToo, later, same, sameToo, fewer⟩
          rw [taken] at less
          rw [taken, takenToo, same, sameToo]
          exact inductionHypothesis _ (Nat.lt_of_le_of_lt fewer less) later rfl

omit kindred in
/-- The same time passes for both, with the same alarms on its way. -/
theorem passTime (remaining : Nat) {left right : Deployment}
    (kindred : Kindred likeness left right) :
    Kindred likeness (passTime remaining left) (passTime remaining right) := by
  -- Along the alarms of the one, which are those of the other.
  fun_induction Deployment.passTime remaining left generalizing right with
  | case1 remaining left quiet =>
      rw [passTime_of_still, kindred.now]
      · exact kindred.setNow _
      · intro time rings
        rw [kindred.nextAlarm?, quiet] at rings
        cases rings
  | case2 remaining left time rings due inductionHypothesis =>
      have dueToo : right.now < time ∧ time ≤ right.now + remaining := by
        rw [kindred.now]
        exact due
      have rung := passTime_of_due (kindred.nextAlarm?.trans rings) dueToo
      rw [rung, kindred.now]
      exact inductionHypothesis ((kindred.ring time).settle serves)
  | case3 remaining left time rings late =>
      rw [passTime_of_still, kindred.now]
      · exact kindred.setNow _
      · intro other ringsToo
        rw [kindred.nextAlarm?, rings] at ringsToo
        cases ringsToo
        rw [kindred.now]
        exact late

theorem advance (duration : Nat) :
    Kindred likeness (left.advance duration) (right.advance duration) :=
  passTime serves duration (kindred.settle serves)

/-! ## Steps -/

theorem spawn (id : Nat) (call : Call) :
    Kindred likeness (left.spawn id call) (right.spawn id call) :=
  (((kindred.settle serves).addJob id call).wake (.caller id)).settle serves

theorem spawnSubmission (id : Nat) (door : Door) (draft : Draft) :
    Paired likeness (left.spawnSubmission id door draft)
      (right.spawnSubmission id door draft) := by
  unfold Deployment.spawnSubmission
  rw [kindred.source]
  cases left.source with
  | scripted queue => exact ⟨rfl, kindred⟩
  | buffered queue =>
      cases draft.build with
      | error error => exact ⟨rfl, kindred⟩
      | ok batch => exact ⟨rfl, kindred.spawn serves id _⟩

theorem spawnOnQueue (id : Nat) (call : Call) :
    Paired likeness (left.spawnOnQueue id call) (right.spawnOnQueue id call) := by
  unfold Deployment.spawnOnQueue
  rw [kindred.source]
  cases left.source with
  | scripted queue => exact ⟨rfl, kindred⟩
  | buffered queue => exact ⟨rfl, kindred.spawn serves id call⟩

theorem spawnJoin (id : Nat) (stopFirst : Bool) :
    Paired likeness (left.spawnJoin id stopFirst) (right.spawnJoin id stopFirst) := by
  unfold Deployment.spawnJoin
  rw [kindred.holder, kindred.callersWith]
  cases left.holder with
  | nobody => exact ⟨rfl, kindred⟩
  | handle => exact ⟨rfl, (kindred.setHolder .nobody).spawn serves id _⟩
  | runtime =>
      dsimp only
      split
      · exact ⟨rfl, (kindred.setHolder .nobody).spawn serves id _⟩
      · exact ⟨rfl, kindred⟩

/-- Kindred deployments answer a step alike. -/
theorem take (id : Nat) (step : Step) :
    Paired likeness (left.take id step) (right.take id step) := by
  cases step with
  | settle => exact ⟨rfl, kindred.settle serves⟩
  | advance duration => exact ⟨rfl, kindred.advance serves duration⟩
  | release gate permits =>
      simp only [Deployment.take, Deployment.gate, kindred.gates]
      exact ⟨rfl, (kindred.setGate gate _).wakeAll _⟩
  | cancel token =>
      simp only [Deployment.take, kindred.cancelled, kindred.callersWith]
      split
      · exact ⟨rfl, kindred⟩
      · have cancelled := kindred.change
          (fun deployment => { deployment with cancelled := token :: left.cancelled })
          (fun _ _ _ => rfl) kindred.stands
        exact ⟨rfl, cancelled.wakeAll _⟩
  | abort other =>
      simp only [Deployment.take, Deployment.job?, kindred.jobs]
      split
      · exact ⟨rfl, kindred⟩
      · exact ⟨rfl, ((kindred.setJob other _).wake (.caller other)).settle serves⟩
  | trySubmit draft =>
      simp only [Deployment.take, kindred.door]
      exact kindred.submitNow left.door draft
  | submit draft =>
      simp only [Deployment.take, kindred.door]
      exact kindred.spawnSubmission serves id left.door draft
  | trySubmitDirectly draft => exact kindred.submitNow .service draft
  | submitDirectly draft => exact kindred.spawnSubmission serves id .service draft
  | consume token => exact kindred.spawnOnQueue serves id _
  | consumeWithin wait =>
      simp only [Deployment.take, kindred.now]
      exact kindred.spawnOnQueue serves id _
  | close =>
      simp only [Deployment.take, kindred.source]
      cases left.source with
      | scripted queue => exact ⟨rfl, kindred⟩
      | buffered queue => exact ⟨rfl, kindred.adopt _ _⟩
  | logStats tag =>
      simp only [Deployment.take, kindred.source]
      cases left.source with
      | scripted queue => exact ⟨rfl, kindred⟩
      | buffered queue => exact ⟨rfl, kindred.logStats tag⟩
  | start =>
      have started := kindred.start
      simp only [Deployment.take]
      revert started
      rcases left.start with ⟨answer, after⟩
      rcases right.start with ⟨_, other⟩
      rintro ⟨same, later⟩
      cases same
      cases answer with
      | ok _ => exact ⟨rfl, later⟩
      | error error => exact ⟨rfl, later⟩
  | stop =>
      simp only [Deployment.take, kindred.holder]
      cases left.holder with
      | handle => exact ⟨rfl, kindred.requestStop⟩
      | nobody | runtime => exact ⟨rfl, kindred⟩
  | drop => exact ⟨rfl, kindred.dropHolder⟩
  | join => exact kindred.spawnJoin serves id false
  | shutdown => exact kindred.spawnJoin serves id true
  | awaitRunning => exact ⟨rfl, kindred.spawn serves id _⟩
  | awaitTerminated => exact ⟨rfl, kindred.spawn serves id _⟩
  | viewHandle =>
      simp only [Deployment.take, kindred.holder, kindred.state, kindred.drainWait]
      cases left.holder <;> exact ⟨rfl, kindred⟩
  | viewRuntime =>
      simp only [Deployment.take, kindred.holder, kindred.state, kindred.drainWait, kindred.source]
      cases left.holder <;> cases left.source <;> exact ⟨rfl, kindred⟩
  | watch watcher =>
      simp only [Deployment.take, kindred.version, kindred.watches]
      exact ⟨rfl, kindred.setWatches _⟩
  | pollWatch watcher =>
      simp only [Deployment.take, kindred.version, kindred.watches, kindred.state]
      split
      · exact ⟨rfl, kindred⟩
      · exact ⟨rfl, kindred.setWatches _⟩

end Serving

end Kindred

end Deployment
end FailureDispatch

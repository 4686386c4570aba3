import FailureDispatch.Proofs.Custody.Guarded
import FailureDispatch.Proofs.Drain.Claims
import FailureDispatch.Proofs.Queue.Order

/-!
# What really happens

Moves admit wake-ups without a reason.  In a run nobody is woken but for a
reason: the clock rings for those whose time is up, and a request wakes those
whom it concerns.  `Happening` is a move of this kind, and runs consist of them.

Only the worker ever waits at a gate, so opening a gate wakes nobody else.  This
is what `Gated` says; that calls have numbers of their own belongs to it.
-/

namespace FailureDispatch
namespace Deployment

/-- A move for which there is a reason. -/
inductive Happening (before : Deployment) : Deployment → Prop where
  | turn : Happening before before.tick
  | begins {id : Nat} {call : Call} (fresh : ∀ entry ∈ before.jobs, entry.1 ≠ id)
      (may : call.MayBegin true before.service.state) :
      Happening before ((before.addJob id call).wake (.caller id))
  | aborts {id : Nat} {job : Job} (known : before.job? id = some job) :
      Happening before ((before.setJob id { job with doomed := true }).wake (.caller id))
  | rings (time : Nat) (later : before.now ≤ time) : Happening before (before.ring time)
  | passes (time : Nat) (later : before.now ≤ time) : Happening before { before with now := time }
  | requests {after : Deployment} (request : Request before after) : Happening before after
  | handsOver (holder : Holder) (held : before.holder ≠ .nobody) :
      Happening before { before with holder }
  | announces (settings : Settings) (held : before.holder ≠ .nobody) :
      Happening before (before.announce settings)

theorem Happening.move {before after : Deployment} (happening : Happening before after) :
    Move true before after := by
  cases happening with
  | turn => exact .turn
  | begins fresh may => exact .begins fresh may
  | aborts known => exact .abort known
  | rings time later => exact .act (.clock time _ later)
  | passes time later => exact .act (.clock time [] later)
  | requests request => exact .act request.act
  | handsOver holder held => exact .act (.handOver holder held)
  | announces settings held => exact .act (.announce settings held)

/-! ## Gates -/

/-- Only the worker waits at gates. -/
def Gated (deployment : Deployment) : Prop :=
  ∀ entry ∈ deployment.gates, ∀ actor ∈ entry.2.line, actor = .worker

section Gates

variable {deployment : Deployment}

theorem Gated.gate (gated : deployment.Gated) (name : String) :
    ∀ actor ∈ (deployment.gate name).line, actor = .worker := by
  intro actor stands
  unfold Deployment.gate at stands
  cases found : deployment.gates.lookup name with
  | none =>
      rw [found] at stands
      cases stands
  | some permits =>
      rw [found] at stands
      exact gated (name, permits) (mem_of_lookup found) actor stands

theorem Gated.setGate (gated : deployment.Gated) (name : String) {permits : Permits Actor}
    (line : ∀ actor ∈ permits.line, actor = .worker) : (deployment.setGate name permits).Gated := by
  intro entry member
  rcases List.mem_cons.mp member with same | kept
  · rw [same]
    exact line
  · exact gated entry (List.mem_filter.mp kept).1

/-- The worker may ask for a permit of any gate. -/
theorem Gated.asked (gated : deployment.Gated) (name : String) :
    (deployment.setGate name ((deployment.gate name).ask .worker).2).Gated := by
  apply gated.setGate
  have asks := (deployment.gate name).ask_asks .worker
  generalize (deployment.gate name).ask .worker = answer at asks
  intro actor stands
  cases asks with
  | picksUp _ | obtains _ _ | standsOn _ _ => exact gated.gate name actor stands
  | queues _ _ =>
      rcases List.mem_append.mp stands with stood | last
      · exact gated.gate name actor stood
      · exact List.mem_singleton.mp last

theorem Gated.perform (gated : deployment.Gated) (name : String) (actions : List Action) :
    (deployment.perform name actions).2.Gated := by
  fun_induction Deployment.perform deployment name actions with
  | case1 | case3 | case4 | case5 | case7 => exact gated
  | case2 _ _ inductionHypothesis | case6 _ _ inductionHypothesis =>
      exact inductionHypothesis gated
  | case8 deployment gate rest passed passes inductionHypothesis =>
      have opened : passed = deployment.setGate gate ((deployment.gate gate).ask .worker).2 :=
        (congrArg Prod.snd passes).symm
      rw [opened] at inductionHypothesis ⊢
      exact inductionHypothesis (gated.asked gate)
  | case9 deployment gate rest waiting waits =>
      have closed : waiting = deployment.setGate gate ((deployment.gate gate).ask .worker).2 :=
        (congrArg Prod.snd waits).symm
      rw [closed]
      exact gated.asked gate

theorem Gated.afterAcknowledging (gated : deployment.Gated) (batch : Batch) (ref : HandlerRef)
    (name : String) (performance : Performance) :
    (deployment.afterAcknowledging batch ref name performance).2.Gated := by
  unfold Deployment.afterAcknowledging
  split <;> exact gated

theorem Gated.acknowledge (gated : deployment.Gated) (batch : Batch) (ref : HandlerRef)
    (name : String) : (deployment.acknowledge batch ref name).2.Gated := by
  unfold Deployment.acknowledge
  split
  · exact gated
  · refine Gated.afterAcknowledging (Gated.perform ?_ _ _) batch ref name _
    exact gated

theorem Gated.afterHandling (gated : deployment.Gated) (batch : Batch) (ref : HandlerRef)
    (name : String) (performance : Performance) :
    (deployment.afterHandling batch ref name performance).2.Gated := by
  unfold Deployment.afterHandling
  split
  · exact gated.acknowledge batch ref name
  · exact gated
  · exact gated
  · exact gated

theorem Gated.callHandler (gated : deployment.Gated) (batch : Batch) (ref : HandlerRef) :
    (deployment.callHandler batch ref).2.Gated := by
  unfold Deployment.callHandler
  split
  · exact gated
  · refine Gated.afterHandling (Gated.perform ?_ _ _) batch ref _ _
    exact gated

theorem Gated.continueCall (gated : deployment.Gated) (batch : Batch) (invocation : Invocation) :
    (deployment.continueCall batch invocation).2.Gated := by
  unfold Deployment.continueCall
  split
  · exact gated
  · dsimp only
    split
    · exact Gated.afterHandling (Gated.perform gated _ _) batch _ _ _
    · exact Gated.afterAcknowledging (Gated.perform gated _ _) batch _ _ _

theorem Gated.pauseOver (gated : deployment.Gated) (pause : Pause) :
    (deployment.pauseOver pause).2.Gated := by
  cases pause with
  | alarm time => exact gated
  | gate name => exact gated.asked name

theorem Gated.advanceDispatch (gated : deployment.Gated) (phase : Phase) (dispatch : Dispatch) :
    (deployment.advanceDispatch phase dispatch).2.Gated := by
  unfold Deployment.advanceDispatch
  split
  · next invocation _ =>
    have paused := gated.pauseOver invocation.pause
    split
    · next waiting same =>
      rwa [same] at paused
    · next resumed same =>
      rw [same] at paused
      exact paused.continueCall dispatch.batch invocation
  · split
    · next ref rest _ => exact gated.callHandler dispatch.batch ref
    · exact gated

/-- Whatever a request does to a gate, only the worker waits there. -/
theorem Gated.request {after : Deployment} (gated : deployment.Gated)
    (request : Request deployment after) : after.Gated := by
  cases request with
  | release gate count =>
      rw [wakeAll_eq]
      apply gated.setGate
      exact fun actor stands => gated.gate gate actor (List.mem_of_mem_drop stands)
  | cancel token =>
      rw [wakeAll_eq]
      exact gated
  | close buffered =>
      rw [adopt_eq]
      exact gated
  | submitNow door draft =>
      rcases submitNow_cases deployment door draft with
        same | ⟨queue, woken, next, batch, entry, _, _, same⟩ <;> rw [same]
      · exact gated
      · rw [adopt_eq]
        exact gated
  | logStats tag =>
      rw [logStats_eq]
      exact gated
  | start =>
      unfold start
      cases can : deployment.service.state.canBecome .starting with
      | true =>
          simp only [enter_of_canBecome can, setWorker, wake_eq]
          exact gated
      | false =>
          simp only [enter_of_cannot can]
          exact gated
  | stop held =>
      rcases requestStop_eq deployment with ⟨_, _, _, _, same⟩
      rw [same]
      exact gated
  | drop =>
      unfold dropHolder
      split
      · exact gated
      all_goals
        rcases requestStop_eq { deployment with holder := .nobody } with ⟨_, _, _, _, same⟩
        rw [same]
        exact gated
  | watch watches => exact gated

end Gates

/-! ## Calls and gates in order -/

/-- What every happening keeps: the course of the service, numbers for the calls, and that
only the worker waits at gates. -/
structure Composed (deployment : Deployment) : Prop where
  sound : deployment.OnCourse
  distinct : (deployment.jobs.map Prod.fst).Nodup
  gated : deployment.Gated

namespace Composed

variable {before after : Deployment} (composed : before.Composed)
include composed

theorem tick : before.tick.Composed := by
  rcases composed.sound.buffered with ⟨queue, buffered⟩
  have regular := composed.sound.regular
  refine ⟨composed.sound.tick, ?_, ?_⟩
  · apply tick_keeps fun later => (later.jobs.map Prod.fst).Nodup
    · exact fun _ _ distinct => distinct
    · rw [(works_advanceWorker regular.lawful).jobs]
      exact composed.distinct
    · intro id
      cases (visits_advanceCaller regular.lawful regular.joins).visit with
      | rests jobs _ _ =>
          rw [jobs]
          exact composed.distinct
      | stays _ _ jobs _ _ =>
          rw [jobs, fst_setJob]
          exact composed.distinct
      | ends _ _ jobs _ =>
          rw [jobs]
          exact composed.distinct.sublist (fst_finish .aborted)
    · exact composed.distinct
  · apply tick_keeps Gated
    · exact fun _ _ gated => gated
    · rcases advanceWorker_turn buffered composed.sound.course with
        ⟨progress, woken, next, service, gates, trace, same, _, kept | ⟨phase, dispatch, here⟩⟩
      · rw [same]
        intro entry member
        exact composed.gated entry (kept ▸ member)
      · have dispatches : before.advanceWorker = before.advanceDispatch phase dispatch := by
          unfold advanceWorker
          rw [here]
        rw [dispatches]
        exact composed.gated.advanceDispatch phase dispatch
    · intro id
      have turn : CallerTurn before queue id (before.advanceCaller id) :=
        advanceCaller_turn buffered composed.sound.course
      rcases turn.byCaller buffered with ⟨_, _, _, _, _, _, _, _, same⟩
      rw [same]
      exact composed.gated
    · exact composed.gated

theorem happening (happening : Happening before after) : after.Composed := by
  have sound := composed.sound.move happening.move
  cases happening with
  | turn => exact composed.tick
  | @begins id call fresh may =>
      rw [wake_eq] at sound ⊢
      refine ⟨sound, ?_, composed.gated⟩
      have jobs : ((before.addJob id call).jobs.map Prod.fst) = before.jobs.map Prod.fst ++ [id] :=
        List.map_append
      simp only [jobs]
      refine (List.perm_append_singleton id _).nodup_iff.mpr
        (List.nodup_cons.mpr ⟨?_, composed.distinct⟩)
      intro member
      rcases List.mem_map.mp member with ⟨entry, present, same⟩
      exact fresh entry present same
  | aborts known =>
      rw [wake_eq] at sound ⊢
      refine ⟨sound, ?_, composed.gated⟩
      simp only [fst_setJob]
      exact composed.distinct
  | rings time later =>
      rw [ring, wakeAll_eq] at sound ⊢
      exact ⟨sound, composed.distinct, composed.gated⟩
  | passes time later => exact ⟨sound, composed.distinct, composed.gated⟩
  | requests request =>
      rcases composed.sound.buffered with ⟨queue, buffered⟩
      refine ⟨sound, ?_, composed.gated.request request⟩
      rw [(request.act.outside buffered).jobs]
      exact composed.distinct
  | handsOver holder held => exact ⟨sound, composed.distinct, composed.gated⟩
  | announces settings held =>
      rcases composed.sound.buffered with ⟨queue, buffered⟩
      rw [announce_eq buffered] at sound ⊢
      exact ⟨sound, composed.distinct, composed.gated⟩

end Composed

end Deployment
end FailureDispatch

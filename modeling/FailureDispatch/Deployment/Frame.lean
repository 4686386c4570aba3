import FailureDispatch.Deployment.Turns
import FailureDispatch.Queue.Buffer

/-!
# What a turn leaves alone

Most parts of a turn only write to the journal, wake others or change what a
handler will do next.  `Frame` says so once for all of them: the calls, the
queue and the place of the worker are as before, and so many actors at most
have joined the line.
-/

namespace FailureDispatch

theorem Service.length_setHandler (service : Service) (ref : HandlerRef) (handler : Handler) :
    (service.setHandler ref handler).handlers.length = service.handlers.length := by
  cases ref <;> simp [Service.setHandler]

namespace Deployment

/-- The second deployment differs from the first in nothing that decides how
much is left to be done, and has at most `woken` more actors in line. -/
structure Frame (woken : Nat) (before after : Deployment) : Prop where
  jobs : after.jobs = before.jobs
  source : after.source = before.source
  worker : after.service.worker = before.service.worker
  stop : after.service.stopRequested = before.service.stopRequested
  handlers : after.service.handlers.length = before.service.handlers.length
  ready : after.ready.length ≤ before.ready.length + woken

namespace Frame

theorem refl (deployment : Deployment) : Frame 0 deployment deployment :=
  ⟨rfl, rfl, rfl, rfl, rfl, Nat.le_refl _⟩

theorem trans {m n : Nat} {a b c : Deployment} (first : Frame m a b) (second : Frame n b c) :
    Frame (m + n) a c where
  jobs := second.jobs.trans first.jobs
  source := second.source.trans first.source
  worker := second.worker.trans first.worker
  stop := second.stop.trans first.stop
  handlers := second.handlers.trans first.handlers
  ready := by
    have := first.ready
    have := second.ready
    omega

theorem weaken {m n : Nat} {a b : Deployment} (frame : Frame m a b) (le : m ≤ n) :
    Frame n a b :=
  { frame with ready := Nat.le_trans frame.ready (by omega) }

end Frame

/-! ## Records and wake-ups -/

theorem frame_note (deployment : Deployment) (entry : Occurrence) :
    Frame 0 deployment (deployment.note entry) :=
  ⟨rfl, rfl, rfl, rfl, rfl, Nat.le_refl _⟩

theorem frame_noteAll (deployment : Deployment) (trace : Journal) :
    Frame 0 deployment (deployment.noteAll trace) :=
  ⟨rfl, rfl, rfl, rfl, rfl, Nat.le_refl _⟩

theorem frame_log (deployment : Deployment) (notice : Notice) :
    Frame 0 deployment (deployment.log notice) :=
  frame_note deployment _

theorem frame_count (deployment : Deployment) (counter : Counter) (amount : Nat) :
    Frame 0 deployment (deployment.count counter amount) :=
  frame_note deployment _

theorem frame_wake (deployment : Deployment) (actor : Actor) :
    Frame 1 deployment (deployment.wake actor) := by
  unfold wake
  split
  · exact (Frame.refl deployment).weaken (Nat.zero_le 1)
  · exact ⟨rfl, rfl, rfl, rfl, rfl, by simp⟩

theorem frame_wakeAll (deployment : Deployment) (actors : List Actor) :
    Frame actors.length deployment (deployment.wakeAll actors) := by
  unfold wakeAll
  induction actors generalizing deployment with
  | nil => exact Frame.refl deployment
  | cons actor rest ih =>
      exact ((frame_wake deployment actor).trans (ih _)).weaken (by simp; omega)

theorem length_callersWith_le (deployment : Deployment) (property : Call → Bool) :
    (deployment.callersWith property).length ≤ deployment.jobs.length := by
  simpa [callersWith] using List.length_filter_le _ deployment.jobs

theorem frame_logStats (deployment : Deployment) (tag : String) :
    Frame 0 deployment (deployment.logStats tag) := by
  unfold logStats
  split
  · exact frame_log deployment _
  · exact frame_note deployment _

theorem frame_requestStats (deployment : Deployment) (tag : String) :
    Frame 0 deployment (deployment.requestStats tag) :=
  (frame_note deployment _).trans (frame_logStats _ tag)

theorem frame_setGate (deployment : Deployment) (name : String) (permits : Permits Actor) :
    Frame 0 deployment (deployment.setGate name permits) :=
  ⟨rfl, rfl, rfl, rfl, rfl, Nat.le_refl _⟩

/-- A transition wakes at most every caller. -/
theorem frame_enter (deployment : Deployment) (next : ServiceState) :
    Frame deployment.jobs.length deployment (deployment.enter next).2 := by
  unfold enter
  split
  · have woken := frame_wakeAll
      ({ deployment with
          service :=
            { deployment.service with state := next, version := deployment.service.version + 1 }
        }.note (.entered next))
      (deployment.callersWith Call.observesState)
    have few := deployment.length_callersWith_le Call.observesState
    exact ⟨woken.jobs, woken.source, woken.worker, woken.stop, woken.handlers,
      Nat.le_trans woken.ready (Nat.add_le_add_left few _)⟩
  · exact (Frame.refl deployment).weaken (Nat.zero_le _)

/-! ## Dispatch -/

theorem frame_passGate (deployment : Deployment) (name : String) :
    Frame 0 deployment (deployment.passGate name).2 :=
  frame_setGate deployment name _

theorem frame_perform (deployment : Deployment) (name : String) (actions : List Action) :
    Frame 0 deployment (deployment.perform name actions).2 := by
  fun_induction perform deployment name actions with
  | case1 | case3 | case4 | case5 => exact Frame.refl _
  | case2 _ _ ih => exact ih
  | case6 _ _ ih => exact ih
  | case7 => exact Frame.refl _
  | case8 deployment gate rest passed passes ih =>
      have := deployment.frame_passGate gate
      rw [passes] at this
      exact this.trans ih
  | case9 deployment gate rest waiting waits =>
      have := deployment.frame_passGate gate
      rwa [waits] at this

theorem frame_pauseOver (deployment : Deployment) (pause : Pause) :
    Frame 0 deployment (deployment.pauseOver pause).2 := by
  cases pause with
  | alarm => exact Frame.refl deployment
  | gate name => exact deployment.frame_passGate name

theorem frame_fault (deployment : Deployment) (name : String) (batch : Batch)
    (error : FailureError) : Frame 0 deployment (deployment.fault name batch error) :=
  (frame_log deployment _).trans (frame_count _ _ _)

theorem frame_afterAcknowledging (deployment : Deployment) (batch : Batch) (ref : HandlerRef)
    (name : String) (performance : Performance) :
    Frame 0 deployment (deployment.afterAcknowledging batch ref name performance).2 := by
  unfold afterAcknowledging
  split
  · exact deployment.frame_fault name batch _
  · exact Frame.refl deployment
  · exact Frame.refl deployment

theorem frame_setAcknowledger (deployment : Deployment) (acknowledger : Script) :
    Frame 0 deployment
      { deployment with service := { deployment.service with acknowledger } } :=
  ⟨rfl, rfl, rfl, rfl, rfl, Nat.le_refl _⟩

theorem frame_setHandler (deployment : Deployment) (ref : HandlerRef) (handler : Handler) :
    Frame 0 deployment
      { deployment with service := deployment.service.setHandler ref handler } := by
  refine ⟨rfl, rfl, ?_, ?_, Service.length_setHandler _ _ _, Nat.le_refl _⟩ <;> cases ref <;> rfl

theorem frame_acknowledge (deployment : Deployment) (batch : Batch) (ref : HandlerRef)
    (name : String) : Frame 0 deployment (deployment.acknowledge batch ref name).2 := by
  unfold acknowledge
  split
  · exact deployment.frame_fault name batch _
  · next refs _ =>
    have counted := (frame_count deployment .unitsAcknowledged refs.length).trans
      (frame_note _ (.acknowledged refs))
    exact counted.trans (((frame_setAcknowledger _ _).trans (frame_perform _ _ _)).trans
      (frame_afterAcknowledging _ _ _ _ _))

theorem frame_afterHandling (deployment : Deployment) (batch : Batch) (ref : HandlerRef)
    (name : String) (performance : Performance) :
    Frame 0 deployment (deployment.afterHandling batch ref name performance).2 := by
  unfold afterHandling
  split
  · exact deployment.frame_acknowledge batch ref name
  · exact deployment.frame_fault name batch _
  · exact deployment.frame_fault name batch _
  · exact Frame.refl deployment

theorem frame_callHandler (deployment : Deployment) (batch : Batch) (ref : HandlerRef) :
    Frame 0 deployment (deployment.callHandler batch ref).2 := by
  unfold callHandler
  split
  · exact Frame.refl deployment
  · exact (((frame_setHandler _ _ _).trans (frame_noteAll _ _)).trans (frame_perform _ _ _)).trans
      (frame_afterHandling _ _ _ _ _)

theorem frame_continueCall (deployment : Deployment) (batch : Batch) (invocation : Invocation) :
    Frame 0 deployment (deployment.continueCall batch invocation).2 := by
  unfold continueCall
  split
  · exact Frame.refl deployment
  · dsimp only
    split
    · exact (frame_perform _ _ _).trans (frame_afterHandling _ _ _ _ _)
    · exact (frame_perform _ _ _).trans (frame_afterAcknowledging _ _ _ _ _)

end Deployment
end FailureDispatch

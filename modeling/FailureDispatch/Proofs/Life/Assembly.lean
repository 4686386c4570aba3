import FailureDispatch.Proofs.Drain.Completeness

/-!
# What checked settings assemble

Settings are checked before anything is built, and the queue is built before the
service is started.  The two do not look at the same range: the check refuses the
capacity zero, while the slots of a queue can be counted only up to `maxCapacity`.
So settings that have been checked assemble a running service unless their
capacity lies beyond that bound, and then they assemble nothing.

Between the start and the handing over, the worker has three turns: it starts up,
turns to the queue, and falls asleep in front of it.  All three are computed here
once, for any settings, and the assembled service is read off the result.
-/

namespace FailureDispatch

namespace Settings

/-- Settings that have been checked leave room for a batch. -/
theorem queueCapacity_pos {settings : Settings} {checked : Unit}
    (valid : settings.validate = .ok checked) : 0 < settings.queueCapacity := by
  apply Nat.pos_of_ne_zero
  intro zero
  unfold validate at valid
  rw [if_pos zero] at valid
  cases valid

end Settings

namespace Deployment

/-- A service that is ready for use and has not been used: it runs and nobody has
told it to stop, its queue is open, empty and as large as it was asked to be, and
its drain will wait as long as it was asked to. -/
structure ReadyForUse (settings : Settings) (runtime : Deployment) : Prop where
  state : runtime.service.state = .running
  untold : runtime.service.stopRequested = false
  held : runtime.holder = .runtime
  queue : ∃ queue, runtime.source = .buffered queue ∧ queue.isOpen = true ∧ queue.buffer = [] ∧
    queue.capacity = settings.queueCapacity ∧ queue.slots = ⟨settings.queueCapacity, [], []⟩ ∧
    queue.submitted = 0 ∧ queue.consumed = 0 ∧ queue.rejected = 0
  drainWait : runtime.service.drainWait = settings.shutdownAwait
  settled : runtime.Settled

/-- A service that has been started over an empty queue and has come to rest.  Its
worker sleeps in front of the queue. -/
def opened (settings : Settings) (registry : HandlerRegistry) (acknowledger : Script) :
    Deployment where
  source := .buffered
    { SubmissionQueue.empty settings.queueCapacity with
      turn := ⟨0, [], []⟩
      sleeper := some .worker }
  service :=
    { handlers := registry.handlers
      fallback := registry.fallback
      acknowledger
      drainWait := settings.shutdownAwait
      state := .running
      version := 2
      worker := .fetching (.queued .seat) }
  holder := .handle
  journal := registry.handlers.flatMap HandlerRegistry.registrationTrace ++ [.entered .starting] ++
    [.logged (.startingUp registry.handlers.length registry.fallback.name)] ++
    [.entered .running] ++ [.logged .upAndRunning] ++ [.contact .waits]

section Assembly

variable (settings : Settings) (registry : HandlerRegistry) (acknowledger : Script)

/-- The three turns of the worker after the start. -/
theorem tick_start_prepared :
    (prepared settings registry acknowledger).start.2.tick.tick.tick =
      opened settings registry acknowledger := rfl

theorem settle_start_prepared :
    (prepared settings registry acknowledger).start.2.settle =
      opened settings registry acknowledger := by
  have settled : (opened settings registry acknowledger).Settled := rfl
  rw [← settle_tick, ← settle_tick, ← settle_tick, tick_start_prepared, settle_of_settled settled]

/-- What is handed over is ready for use. -/
theorem readyForUse_announce (positive : 0 < settings.queueCapacity) :
    ((opened settings registry acknowledger).announce settings).ReadyForUse settings := by
  have capacity : max settings.queueCapacity 1 = settings.queueCapacity :=
    Nat.max_eq_left positive
  refine ⟨rfl, rfl, rfl, ⟨_, rfl, rfl, rfl, capacity, ?_, rfl, rfl, rfl⟩, rfl, rfl⟩
  exact congrArg (fun free => (⟨free, [], []⟩ : Permits Actor)) capacity

/-- Checked settings are assembled as far as their slots can be counted. -/
theorem assemble_of_valid {settings : Settings} {checked : Unit}
    (valid : settings.validate = .ok checked) :
    assemble settings registry acknowledger =
      if settings.queueCapacity ≤ SubmissionQueue.maxCapacity then
        .ok ((opened settings registry acknowledger).announce settings)
      else .error (.uncountable settings.queueCapacity) := by
  have settles := settle_start_prepared settings registry acknowledger
  have starts : (prepared settings registry acknowledger).start =
      (.ok (), (prepared settings registry acknowledger).start.2) := rfl
  have running : runningNow (opened settings registry acknowledger).service.state =
      some (.ok ()) := rfl
  unfold prepared at settles starts
  by_cases countable : settings.queueCapacity ≤ SubmissionQueue.maxCapacity
  · have made : SubmissionQueue.empty? settings.queueCapacity =
        some (.empty settings.queueCapacity : SubmissionQueue Actor Batch) := if_pos countable
    rw [if_pos countable]
    unfold assemble
    simp only [valid, made]
    rw [starts]
    simp only [settles, running]
  · have refused : (SubmissionQueue.empty? settings.queueCapacity :
        Option (SubmissionQueue Actor Batch)) = none := if_neg countable
    rw [if_neg countable]
    unfold assemble
    simp only [valid, refused]

end Assembly

/-- Settings that have been checked assemble a service that is ready for use, whatever
its handlers and its acknowledger are, if the slots of its queue can be counted.  If
they cannot, nothing is assembled. -/
theorem readyForUse_of_valid {settings : Settings} (valid : settings.validate = .ok ())
    (registry : HandlerRegistry) (acknowledger : Script) :
    (settings.queueCapacity ≤ SubmissionQueue.maxCapacity →
      ∃ runtime, assemble settings registry acknowledger = .ok runtime ∧
        runtime.ReadyForUse settings) ∧
      (SubmissionQueue.maxCapacity < settings.queueCapacity →
        assemble settings registry acknowledger =
          .error (.uncountable settings.queueCapacity)) := by
  have assembled := assemble_of_valid registry acknowledger valid
  constructor
  · intro countable
    rw [if_pos countable] at assembled
    exact ⟨_, assembled,
      readyForUse_announce settings registry acknowledger (Settings.queueCapacity_pos valid)⟩
  · intro beyond
    rwa [if_neg (Nat.not_le.mpr beyond)] at assembled

/-- The largest queue and the longest wait that can be asked for together. -/
def largestSettings : Settings where
  shutdownAwait := UInt64.size - 1
  queueCapacity := 2 ^ 61 - 1

/-- They assemble a service that is ready for use. -/
theorem readyForUse_of_valid_largest :
    largestSettings.validate = .ok () ∧
      ∃ runtime, assemble largestSettings {} ⟨[]⟩ = .ok runtime ∧
        runtime.ReadyForUse largestSettings := by
  have valid : largestSettings.validate = .ok () := by decide +kernel
  exact ⟨valid, (readyForUse_of_valid valid {} ⟨[]⟩).1 (by decide +kernel)⟩

/-- Settings whose capacity exceeds the bound by one pass the check and assemble nothing. -/
theorem valid_not_assembled :
    ({ queueCapacity := 2 ^ 61 } : Settings).validate = .ok () ∧
      assemble { queueCapacity := 2 ^ 61 } {} ⟨[]⟩ = .error (.uncountable (2 ^ 61)) := by
  have valid : ({ queueCapacity := 2 ^ 61 } : Settings).validate = .ok () := by decide +kernel
  have assembled := assemble_of_valid {} ⟨[]⟩ valid
  rw [if_neg (by decide +kernel)] at assembled
  exact ⟨valid, assembled⟩

end Deployment
end FailureDispatch

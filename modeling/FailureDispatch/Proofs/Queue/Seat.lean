import FailureDispatch.Proofs.Queue.Balance

/-!
# A queue with one consumer

The seat in front of the buffer is handed on in order of arrival.  Where there
is only one consumer, nobody else ever takes it: it is free whenever that
consumer does not sit in it.  So a look at the queue is decided by the buffer
alone, and a consumer who waits has found the buffer empty.
-/

namespace FailureDispatch
namespace SubmissionQueue

variable {ι α : Type}

/-- The only consumer waits there, or would begin to wait in line. -/
def SeatedAt (queue : SubmissionQueue ι α) : Place → Prop
  | .line => queue.turn = ⟨1, [], []⟩
  | .seat => queue.turn = ⟨0, [], []⟩

/-- Only the turn of the consumers matters. -/
theorem SeatedAt.of_turn {queue next : SubmissionQueue ι α} {place : Place}
    (seated : queue.SeatedAt place) (same : next.turn = queue.turn) : next.SeatedAt place := by
  cases place with
  | line => exact same.trans seated
  | seat => exact same.trans seated

/-! ## Submitters leave the seat alone -/

theorem turn_rouseIfExhausted (queue : SubmissionQueue ι α) :
    queue.rouseIfExhausted.2.turn = queue.turn := by
  unfold rouseIfExhausted
  split <;> rfl

theorem turn_close (queue : SubmissionQueue ι α) : queue.close.2.turn = queue.turn :=
  turn_rouseIfExhausted _

theorem turn_trySubmit (queue : SubmissionQueue ι α) (item : α) :
    (queue.trySubmit item).2.2.turn = queue.turn := by
  unfold trySubmit
  split
  · rfl
  · split <;> rfl

section Waiting

variable [DecidableEq ι]

theorem turn_resume (queue : SubmissionQueue ι α) (who : ι) (item : α) :
    (queue.resume who item).2.2.turn = queue.turn := by
  unfold resume
  split <;> rfl

theorem turn_submit (queue : SubmissionQueue ι α) (who : ι) (item : α) :
    (queue.submit who item).2.2.turn = queue.turn := by
  unfold submit
  split
  · exact turn_resume queue who item
  · rfl

theorem turn_withdraw (queue : SubmissionQueue ι α) (who : ι) :
    (queue.withdraw who).2.turn = queue.turn :=
  turn_rouseIfExhausted _

/-! ## The only consumer -/

/-- What a look at the queue brings to its only consumer. -/
inductive LooksAlone (queue : SubmissionQueue ι α) (who : ι) :
    Catch α × List ι × SubmissionQueue ι α → Prop where
  | item {item rest} (front : queue.buffer = item :: rest) :
      LooksAlone queue who
        (.item item, (queue.slots.release 1).1,
          { queue with
            buffer := rest
            slots := (queue.slots.release 1).2
            turn := ⟨1, [], []⟩
            consumed := queue.consumed + 1 })
  | exhausted (empty : queue.buffer = []) (last : queue.mayReceive = false) :
      LooksAlone queue who (.exhausted, [], { queue with turn := ⟨1, [], []⟩ })
  | waits (empty : queue.buffer = []) (more : queue.mayReceive = true) :
      LooksAlone queue who
        (.waiting .seat, [], { queue with turn := ⟨0, [], []⟩, sleeper := some who })

omit [DecidableEq ι] in
theorem receive_alone {queue : SubmissionQueue ι α} (seated : queue.SeatedAt .seat) (who : ι) :
    LooksAlone queue who (queue.receive who) := by
  have turn : queue.turn = ⟨0, [], []⟩ := seated
  unfold receive
  split
  · next item rest front =>
    have taken : LooksAlone queue who _ := .item front
    simp only [vacate, turn]
    rw [show (queue.slots.release 1).1 = (queue.slots.release 1).1 ++ [] from
      (List.append_nil _).symm] at taken
    exact taken
  · next empty =>
    split
    · next more =>
      have waits : LooksAlone queue who _ := .waits empty more
      rw [← turn] at waits
      exact waits
    · next last =>
      have exhausted : LooksAlone queue who _ := .exhausted empty (Bool.eq_false_iff.mpr last)
      simp only [vacate, turn]
      exact exhausted

/-- The only consumer is decided by the buffer. -/
theorem seek_alone {queue : SubmissionQueue ι α} {place : Place}
    (seated : queue.SeatedAt place) (who : ι) :
    LooksAlone queue who (queue.seek who place) := by
  cases place with
  | seat => exact receive_alone seated who
  | line =>
      have turn : queue.turn = ⟨1, [], []⟩ := seated
      have asked : queue.turn.ask who = (true, ⟨0, [], []⟩) := by
        rw [turn]
        rfl
      have inSeat : SeatedAt { queue with turn := ⟨0, [], []⟩ } .seat := rfl
      have looks := receive_alone inSeat who
      simp only [seek, asked]
      generalize result : receive { queue with turn := ⟨0, [], []⟩ } who = answer at looks
      cases looks with
      | item front => exact .item front
      | exhausted empty last => exact .exhausted empty last
      | waits empty more => exact .waits empty more

/-- The only consumer leaves a free seat. -/
theorem depart_alone {queue : SubmissionQueue ι α} {place : Place}
    (seated : queue.SeatedAt place) (who : ι) :
    ∃ sleeper, queue.depart who place = ([], { queue with turn := ⟨1, [], []⟩, sleeper }) := by
  cases place with
  | seat =>
      have turn : queue.turn = ⟨0, [], []⟩ := seated
      refine ⟨none, ?_⟩
      simp only [depart, vacate, turn]
      rfl
  | line =>
      have turn : queue.turn = ⟨1, [], []⟩ := seated
      refine ⟨queue.sleeper, ?_⟩
      simp only [depart, turn, Permits.leave]
      rfl

end Waiting

end SubmissionQueue
end FailureDispatch

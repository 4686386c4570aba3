import FailureDispatch.Queue.Basic

/-!
# The buffer of a submission queue

What the operations do to the buffer, and how many they wake.  Only an
accepted submission adds to the buffer, always at the end, and only a consumer
who obtains an item takes from it, always at the front.  Waiting, giving up
and closing leave it alone.
-/

namespace FailureDispatch

namespace Permits

variable {ι : Type}

theorem length_release_le (permits : Permits ι) (count : Nat) :
    (permits.release count).1.length ≤ count := by
  simp only [release, List.length_take]
  omega

variable [DecidableEq ι]

theorem length_leave_le (permits : Permits ι) (who : ι) :
    (permits.leave who).1.length ≤ 1 := by
  unfold leave
  split
  · exact length_release_le _ 1
  · exact Nat.zero_le 1

end Permits

namespace SubmissionQueue

variable {ι α : Type}

theorem length_rouse_le (queue : SubmissionQueue ι α) : queue.rouse.1.length ≤ 1 := by
  cases queue with
  | mk _ _ _ _ _ sleeper => cases sleeper <;> simp [rouse]

theorem length_push_le (queue : SubmissionQueue ι α) (item : α) :
    (queue.push item).1.length ≤ 1 := length_rouse_le _

theorem buffer_rouseIfExhausted (queue : SubmissionQueue ι α) :
    queue.rouseIfExhausted.2.buffer = queue.buffer := by
  unfold rouseIfExhausted
  split <;> rfl

theorem length_rouseIfExhausted_le (queue : SubmissionQueue ι α) :
    queue.rouseIfExhausted.1.length ≤ 1 := by
  unfold rouseIfExhausted
  split
  · exact Nat.zero_le 1
  · exact length_rouse_le queue

theorem buffer_close (queue : SubmissionQueue ι α) : queue.close.2.buffer = queue.buffer :=
  buffer_rouseIfExhausted _

theorem length_close_le (queue : SubmissionQueue ι α) : queue.close.1.length ≤ 1 :=
  length_rouseIfExhausted_le _

theorem length_vacate_le (queue : SubmissionQueue ι α) : queue.vacate.1.length ≤ 1 :=
  Permits.length_release_le _ 1

/-- What becomes of the buffer when a submission has come so far. -/
def Submission.Fits (queue after : SubmissionQueue ι α) (item : α) (woken : List ι) :
    Submission → Prop
  | .accepted => after.buffer = queue.buffer ++ [item] ∧ woken.length ≤ 1
  | .refused _ | .waiting => after.buffer = queue.buffer ∧ woken = []

/-- What becomes of the buffer when a consumer obtains this. -/
def Catch.Fits (queue after : SubmissionQueue ι α) (woken : List ι) : Catch α → Prop
  | .item first => queue.buffer = first :: after.buffer ∧ woken.length ≤ 2
  | .exhausted => after.buffer = queue.buffer ∧ woken.length ≤ 1
  | .waiting _ => after.buffer = queue.buffer ∧ woken = []

theorem receive_fits (queue : SubmissionQueue ι α) (who : ι) :
    (queue.receive who).1.Fits queue (queue.receive who).2.2 (queue.receive who).2.1 := by
  unfold receive
  split
  · next item rest front =>
    refine ⟨front, ?_⟩
    have submitter := queue.slots.length_release_le 1
    have next := queue.turn.length_release_le 1
    simp only [vacate, List.length_append]
    omega
  · split
    · exact ⟨rfl, rfl⟩
    · exact ⟨rfl, length_vacate_le queue⟩

variable [DecidableEq ι]

theorem resume_fits (queue : SubmissionQueue ι α) (who : ι) (item : α) :
    (queue.resume who item).1.Fits queue (queue.resume who item).2.2 item
      (queue.resume who item).2.1 := by
  unfold resume
  split
  · exact ⟨rfl, length_push_le _ item⟩
  · exact ⟨rfl, rfl⟩

theorem submit_fits (queue : SubmissionQueue ι α) (who : ι) (item : α) :
    (queue.submit who item).1.Fits queue (queue.submit who item).2.2 item
      (queue.submit who item).2.1 := by
  unfold submit
  split
  · exact resume_fits queue who item
  · exact ⟨rfl, rfl⟩

theorem buffer_withdraw (queue : SubmissionQueue ι α) (who : ι) :
    (queue.withdraw who).2.buffer = queue.buffer :=
  buffer_rouseIfExhausted _

theorem length_withdraw_le (queue : SubmissionQueue ι α) (who : ι) :
    (queue.withdraw who).1.length ≤ 2 := by
  have granted := queue.slots.length_leave_le who
  have roused :=
    length_rouseIfExhausted_le { queue with slots := (queue.slots.leave who).2 }
  simp only [withdraw, List.length_append]
  omega

theorem seek_fits (queue : SubmissionQueue ι α) (who : ι) (place : Place) :
    (queue.seek who place).1.Fits queue (queue.seek who place).2.2
      (queue.seek who place).2.1 := by
  cases place with
  | seat => exact receive_fits queue who
  | line =>
      simp only [seek]
      split
      · next turn _ => exact receive_fits { queue with turn } who
      · exact ⟨rfl, rfl⟩

theorem buffer_depart (queue : SubmissionQueue ι α) (who : ι) (place : Place) :
    (queue.depart who place).2.buffer = queue.buffer := by
  cases place <;> rfl

theorem length_depart_le (queue : SubmissionQueue ι α) (who : ι) (place : Place) :
    (queue.depart who place).1.length ≤ 1 := by
  cases place with
  | seat => exact length_vacate_le _
  | line => exact queue.turn.length_leave_le who

end SubmissionQueue
end FailureDispatch

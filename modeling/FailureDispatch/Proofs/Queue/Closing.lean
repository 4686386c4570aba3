import FailureDispatch.Proofs.Queue.Balance

/-!
# A closed queue

Only closing decides whether a queue is open, and nothing opens it again.  A queue
that is closed refuses every submission that begins.
-/

namespace FailureDispatch
namespace SubmissionQueue

variable {ι α : Type} (queue : SubmissionQueue ι α)

@[simp] theorem isOpen_rouseIfExhausted : queue.rouseIfExhausted.2.isOpen = queue.isOpen := by
  rcases rouseIfExhausted_eq queue with ⟨_, same⟩
  rw [same]

@[simp] theorem isOpen_close : queue.close.2.isOpen = false := by
  rcases close_eq queue with ⟨_, same⟩
  rw [same]

@[simp] theorem isOpen_trySubmit (item : α) :
    (queue.trySubmit item).2.2.isOpen = queue.isOpen := by
  unfold trySubmit
  split
  · rfl
  · split <;> rfl

theorem isOpen_receive (who : ι) : (queue.receive who).2.2.isOpen = queue.isOpen := by
  unfold receive
  split
  · rfl
  · split <;> rfl

variable [DecidableEq ι]

@[simp] theorem isOpen_resume (who : ι) (item : α) :
    (queue.resume who item).2.2.isOpen = queue.isOpen := by
  unfold resume
  split <;> rfl

@[simp] theorem isOpen_submit (who : ι) (item : α) :
    (queue.submit who item).2.2.isOpen = queue.isOpen := by
  unfold submit
  split
  · exact isOpen_resume queue who item
  · rfl

@[simp] theorem isOpen_withdraw (who : ι) : (queue.withdraw who).2.isOpen = queue.isOpen :=
  isOpen_rouseIfExhausted { queue with slots := (queue.slots.leave who).2 }

@[simp] theorem isOpen_seek (who : ι) (place : Place) :
    (queue.seek who place).2.2.isOpen = queue.isOpen := by
  cases place with
  | seat => exact isOpen_receive queue who
  | line =>
      simp only [seek]
      split
      · next turn _ => exact isOpen_receive { queue with turn } who
      · rfl

@[simp] theorem isOpen_depart (who : ι) (place : Place) :
    (queue.depart who place).2.isOpen = queue.isOpen := by
  cases place <;> rfl

end SubmissionQueue
end FailureDispatch

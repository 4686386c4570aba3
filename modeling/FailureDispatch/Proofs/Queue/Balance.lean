import FailureDispatch.Queue.Buffer

/-!
# The balance of a queue

Every operation on a queue adds a few items at the end of its buffer, takes a
few from its front, and counts both.  `Balanced` says which: the old buffer
followed by what was accepted is what was taken followed by the new buffer.

An operation accepts or takes at most one item, and only if it says so in its
answer.
-/

namespace FailureDispatch
namespace SubmissionQueue

variable {ι α : Type}

/-- What an operation accepted and what it took account for the difference
between the queues before and after it. -/
structure Balanced (queue next : SubmissionQueue ι α) (accepted taken : List α) : Prop where
  buffer : queue.buffer ++ accepted = taken ++ next.buffer
  submitted : next.submitted = queue.submitted + accepted.length
  consumed : next.consumed = queue.consumed + taken.length

namespace Balanced

/-- An operation that leaves the buffer and the counters alone. -/
theorem idle {queue next : SubmissionQueue ι α} (buffer : next.buffer = queue.buffer)
    (submitted : next.submitted = queue.submitted) (consumed : next.consumed = queue.consumed) :
    Balanced queue next [] [] where
  buffer := (List.append_nil _).trans buffer.symm
  submitted := submitted
  consumed := consumed

theorem refl (queue : SubmissionQueue ι α) : Balanced queue queue [] [] := idle rfl rfl rfl

/-- What is done first may leave everything alone. -/
theorem after_idle {first second third : SubmissionQueue ι α} {accepted taken : List α}
    (still : Balanced first second [] []) (later : Balanced second third accepted taken) :
    Balanced first third accepted taken where
  buffer := by
    have same : first.buffer = second.buffer := (List.append_nil _).symm.trans still.buffer
    rw [same]
    exact later.buffer
  submitted := later.submitted.trans (congrArg (· + accepted.length) still.submitted)
  consumed := later.consumed.trans (congrArg (· + taken.length) still.consumed)

end Balanced

/-! ## Submitters -/

theorem push_balanced (queue : SubmissionQueue ι α) (item : α) :
    Balanced queue (queue.push item).2 [item] [] where
  buffer := rfl
  submitted := rfl
  consumed := rfl

/-- Rousing the consumer touches nothing else. -/
theorem rouseIfExhausted_eq (queue : SubmissionQueue ι α) :
    ∃ sleeper, queue.rouseIfExhausted.2 = { queue with sleeper } := by
  unfold rouseIfExhausted
  split
  · exact ⟨queue.sleeper, rfl⟩
  · exact ⟨none, rfl⟩

theorem close_eq (queue : SubmissionQueue ι α) :
    ∃ sleeper, queue.close.2 = { queue with isOpen := false, sleeper } :=
  rouseIfExhausted_eq { queue with isOpen := false }

theorem rouseIfExhausted_balanced (queue : SubmissionQueue ι α) :
    Balanced queue queue.rouseIfExhausted.2 [] [] := by
  unfold rouseIfExhausted
  split
  · exact .refl queue
  · exact .idle rfl rfl rfl

theorem close_balanced (queue : SubmissionQueue ι α) : Balanced queue queue.close.2 [] [] := by
  have still : Balanced queue { queue with isOpen := false } [] [] := .idle rfl rfl rfl
  exact still.after_idle (rouseIfExhausted_balanced _)

/-- What a submission that has come so far adds to the buffer. -/
def Submission.added (item : α) : Submission → List α
  | .accepted => [item]
  | .refused _ | .waiting => []

/-- What an immediate submission adds to the buffer. -/
def admitted (item : α) : Except FailureError Unit → List α
  | .ok _ => [item]
  | .error _ => []

theorem trySubmit_balanced (queue : SubmissionQueue ι α) (item : α) :
    Balanced queue (queue.trySubmit item).2.2 (admitted item (queue.trySubmit item).1) [] := by
  unfold trySubmit
  by_cases closed : !queue.isOpen
  · rw [if_pos closed]
    exact .idle rfl rfl rfl
  · rw [if_neg closed]
    by_cases room : 0 < queue.slots.free
    · rw [if_pos room]
      have still : Balanced queue
          { queue with slots := { queue.slots with free := queue.slots.free - 1 } } [] [] :=
        .idle rfl rfl rfl
      exact still.after_idle (push_balanced _ item)
    · rw [if_neg room]
      exact .idle rfl rfl rfl

section Waiting

variable [DecidableEq ι]

theorem resume_balanced (queue : SubmissionQueue ι α) (who : ι) (item : α) :
    Balanced queue (queue.resume who item).2.2 ((queue.resume who item).1.added item) [] := by
  unfold resume
  split
  · next slots _ =>
    have still : Balanced queue { queue with slots } [] [] := .idle rfl rfl rfl
    exact still.after_idle (push_balanced _ item)
  · exact .idle rfl rfl rfl

theorem submit_balanced (queue : SubmissionQueue ι α) (who : ι) (item : α) :
    Balanced queue (queue.submit who item).2.2 ((queue.submit who item).1.added item) [] := by
  unfold submit
  split
  · exact resume_balanced queue who item
  · exact .idle rfl rfl rfl

theorem withdraw_balanced (queue : SubmissionQueue ι α) (who : ι) :
    Balanced queue (queue.withdraw who).2 [] [] := by
  have still : Balanced queue { queue with slots := (queue.slots.leave who).2 } [] [] :=
    .idle rfl rfl rfl
  exact still.after_idle (rouseIfExhausted_balanced _)

/-! ## Consumers -/

/-- What a consumer obtains from the buffer. -/
def Catch.obtained : Catch α → List α
  | .item first => [first]
  | .exhausted | .waiting _ => []

omit [DecidableEq ι] in
theorem receive_balanced (queue : SubmissionQueue ι α) (who : ι) :
    Balanced queue (queue.receive who).2.2 [] (queue.receive who).1.obtained := by
  unfold receive
  split
  · next item rest front =>
    refine ⟨?_, rfl, rfl⟩
    rw [front]
    exact List.append_nil _
  · split
    · exact .idle rfl rfl rfl
    · exact .idle rfl rfl rfl

theorem seek_balanced (queue : SubmissionQueue ι α) (who : ι) (place : Place) :
    Balanced queue (queue.seek who place).2.2 [] (queue.seek who place).1.obtained := by
  cases place with
  | seat => exact receive_balanced queue who
  | line =>
      simp only [seek]
      split
      · next turn _ =>
        have still : Balanced queue { queue with turn } [] [] := .idle rfl rfl rfl
        exact still.after_idle (receive_balanced { queue with turn } who)
      · exact .idle rfl rfl rfl

theorem depart_balanced (queue : SubmissionQueue ι α) (who : ι) (place : Place) :
    Balanced queue (queue.depart who place).2 [] [] := by
  cases place with
  | seat => exact .idle rfl rfl rfl
  | line => exact .idle rfl rfl rfl

end Waiting

end SubmissionQueue
end FailureDispatch

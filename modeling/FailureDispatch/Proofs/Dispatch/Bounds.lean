import FailureDispatch.Proofs.Dispatch.Opening

/-!
# Where a dispatch begins and ends

All that a dispatch leaves in the journal lies between one entry for its beginning and one
for its end.  So a worker that takes a batch in hand has ended the dispatch exactly if no
batch is left in hand.
-/

namespace FailureDispatch
namespace Staff

section Calls

variable (staff : Staff) (batch : Batch)

theorem inner_afterAcknowledging (name : String) (conclusion : Conclusion) :
    (staff.afterAcknowledging batch name conclusion).trace.Inner := by
  cases conclusion with
  | panic => exact Deployment.inner_fault staff batch name _
  | success | failure _ => exact .nil

theorem inner_acknowledge (name : String) : (staff.acknowledge batch name).trace.Inner := by
  unfold acknowledge
  split
  · exact Deployment.inner_fault staff batch name _
  · exact Journal.Inner.append (.cons rfl (.cons rfl .nil)) (inner_afterAcknowledging _ batch name _)

theorem inner_afterHandling (name : String) (conclusion : Conclusion) :
    (staff.afterHandling batch name conclusion).trace.Inner := by
  cases conclusion with
  | success => exact inner_acknowledge staff batch name
  | failure _ | panic => exact Deployment.inner_fault staff batch name _

theorem inner_call (ref : HandlerRef) : (staff.call batch ref).trace.Inner := by
  unfold call
  split
  · exact .nil
  · next handler _ =>
    exact (Deployment.inner_handing handler batch).append
      (inner_afterHandling _ batch handler.name _)

theorem inner_callAll (refs : List HandlerRef) : (staff.callAll batch refs).trace.Inner := by
  induction refs generalizing staff with
  | nil => exact .nil
  | cons ref rest inductionHypothesis =>
      exact (inner_call staff batch ref).append (inductionHypothesis _)

theorem inner_resume (current : Option Invocation) : (staff.resume batch current).trace.Inner := by
  unfold resume
  split
  · exact .nil
  · split
    · exact .nil
    · dsimp only
      split
      · exact inner_afterHandling staff batch _ _
      · exact inner_afterAcknowledging staff batch _ _

end Calls

/-- What is left of a dispatch ends with its end. -/
theorem complete_bounded (staff : Staff) (dispatch : Dispatch) :
    ∃ calls : Journal, calls.Inner ∧
      (staff.complete dispatch).trace = calls ++ [.dispatchEnded dispatch.batch] := by
  have resumed := inner_resume staff dispatch.batch dispatch.current
  have called := inner_callAll (staff.resume dispatch.batch dispatch.current).staff dispatch.batch
    dispatch.pending
  refine ⟨_, resumed.append called, ?_⟩
  simp only [complete, callRest, Account.andThen, List.append_assoc]

/-- A dispatch begins with its beginning and ends with its end. -/
theorem serve_bounded (staff : Staff) (batch : Batch) :
    ∃ calls : Journal, calls.Inner ∧
      (staff.serve batch).trace = .dispatchBegun batch :: (calls ++ [.dispatchEnded batch]) := by
  have asked := (Deployment.questions_choose staff.handlers staff.fallback batch).inner
  unfold serve
  generalize Selection.choose staff.handlers staff.fallback batch = selection at asked ⊢
  cases nobody : selection.chosen.isEmpty with
  | true =>
      have discarded : Journal.Inner
          [.logged (.discarded batch.type batch.size), .counted (.dropped batch.type) 1] :=
        .cons rfl (.cons rfl .nil)
      refine ⟨_, asked.append discarded, ?_⟩
      simp only [Account.andThen, nobody, if_true, List.cons_append, List.append_assoc,
        List.nil_append]
  | false =>
      have called := inner_callAll { staff with handlers := selection.handlers } batch selection.chosen
      have counted : Journal.Inner (.counted (.handled batch.type) 1 :: _) := .cons rfl called
      refine ⟨_, asked.append counted, ?_⟩
      simp only [Account.andThen, nobody, callRest, Bool.false_eq_true, if_false, List.cons_append,
        List.append_assoc, List.nil_append]

end Staff
end FailureDispatch

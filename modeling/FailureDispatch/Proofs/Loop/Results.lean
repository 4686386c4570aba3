import FailureDispatch.Proofs.Course.Beside
import FailureDispatch.Proofs.Dispatch.Opening
import FailureDispatch.Proofs.Dispatch.Trace

/-!
# What the results of the queue call for

The main loop calls its queue, and every call comes out in one of two ways: with a
batch, or with an error.  `Staff.attend` says what the loop has to write for a list of
such results: for a batch the trace of its dispatch, for an error one line, and nothing
between one result and the next.  Each is preceded by the call that it answers.

The results that a service has been given are read off its journal, event by event
(`heard`).  The number of batches that a line about an interruption shows is not written
anywhere else; it is what the queue holds when the event is over.
-/

namespace FailureDispatch

/-- How a call of the main loop to its queue comes out.  An error comes with the number
of batches that the queue holds at that moment. -/
inductive Result where
  | batch (batch : Batch)
  | error (error : FailureError) (backlog : Nat)
  deriving DecidableEq

/-- The result that an entry records, if it records one. -/
def Occurrence.result? (backlog : Nat) : Occurrence → Option Result
  | .contact (.gives batch) => some (.batch batch)
  | .contact (.fails error) => some (.error error backlog)
  | _ => none

namespace Journal

/-- The results that are recorded, in order. -/
def results (backlog : Nat) (journal : Journal) : List Result :=
  journal.filterMap (Occurrence.result? backlog)

@[simp] theorem results_append (backlog : Nat) (journal trace : Journal) :
    results backlog (journal ++ trace) = journal.results backlog ++ trace.results backlog :=
  List.filterMap_append

theorem OfOthers.results_eq {trace : Journal} (others : trace.OfOthers) (backlog : Nat) :
    trace.results backlog = [] := by
  apply List.filterMap_eq_nil_iff.mpr
  intro entry member
  have selected := others entry member
  cases entry with
  | contact passed => cases passed <;> first | rfl | cases selected
  | _ => rfl

theorem OfDispatch.results_eq {trace : Journal} (ofDispatch : trace.OfDispatch) (backlog : Nat) :
    trace.results backlog = [] := by
  apply List.filterMap_eq_nil_iff.mpr
  intro entry member
  have inside := ofDispatch entry member
  cases entry with
  | contact passed => cases inside
  | _ => rfl

end Journal

/-- What a call of the main loop to its queue leaves.  Only a scripted queue observes
it. -/
def Source.callTrace : Source → Journal
  | .buffered _ => [.contact .waits]
  | .scripted _ => [.contact .waits, .fetched]

theorem Source.Becomes.callTrace_eq {source later : Source} (becomes : source.Becomes later) :
    later.callTrace = source.callTrace := by
  cases becomes <;> rfl

/-- An interruption is told with the size of the queue, any other error as an error. -/
theorem Notice.level_ofMiss (backlog : Nat) (error : FailureError) :
    (Notice.ofMiss backlog error).level = (if error = .cancelled then .info else .error) ∧
      (error = .cancelled →
        (Notice.ofMiss backlog error).fields = [("queue_size", .number backlog)]) := by
  cases error <;> simp [Notice.ofMiss, Notice.level, Notice.fields]

namespace Staff

/-- What one result leaves, with the call that it answers. -/
def meet (call : Journal) (staff : Staff) : Result → Account
  | .batch batch =>
      (Account.mk (call ++ [.contact (.gives batch)]) staff).andThen fun staff => staff.serve batch
  | .error error backlog =>
      ⟨call ++ [.contact (.fails error), .logged (.ofMiss backlog error)], staff⟩

/-- What results leave, one after the other. -/
def attend (call : Journal) : List Result → Staff → Account
  | [], staff => .idle staff
  | result :: rest, staff => (staff.meet call result).andThen (attend call rest)

theorem attend_append (call : Journal) (earlier later : List Result) (staff : Staff) :
    staff.attend call (earlier ++ later) =
      (staff.attend call earlier).andThen (attend call later) := by
  induction earlier generalizing staff with
  | nil => rfl
  | cons result rest inductionHypothesis =>
      simp only [List.cons_append, attend, Account.andThen_assoc]
      congr 1
      funext staff
      exact inductionHypothesis staff

theorem attend_concat (call : Journal) (earlier : List Result) (result : Result) (staff : Staff) :
    staff.attend call (earlier ++ [result]) =
      (staff.attend call earlier).andThen fun staff => staff.meet call result := by
  rw [attend_append]
  congr 1
  funext staff
  exact Account.andThen_idle _

end Staff

namespace Deployment

/-- The results that an event brings. -/
def heard (before after : Deployment) : List Result :=
  Journal.results after.backlog (after.journal.drop before.journal.length)

theorem heard_eq {before after : Deployment} {trace : Journal}
    (journal : after.journal = before.journal ++ trace) :
    heard before after = trace.results after.backlog := by
  rw [heard, journal, List.drop_left]

/-- Taking a batch in hand records that the queue gave it, and nothing else of the queue. -/
theorem takeInHand_eq (deployment : Deployment) (phase : Phase) (batch : Batch) :
    ∃ (staff : Staff) (worker : Worker) (trace : Journal),
      deployment.takeInHand phase batch =
        { deployment with
          service := { deployment.service.withStaff staff with worker }
          journal := deployment.journal ++ trace } ∧
      (worker = phase.resume ∨ ∃ dispatch, worker = .dispatching phase dispatch) ∧
      ∀ backlog, trace.results backlog = [.batch batch] := by
  rcases beginDispatch_opens (deployment.noteAll [.contact (.gives batch), .taken batch]) phase batch
    with ⟨stretch, worker, same, opens, ofDispatch, _⟩
  refine ⟨stretch.staff, worker, [.contact (.gives batch), .taken batch] ++ stretch.trace, ?_, ?_, ?_⟩
  · rw [takeInHand, same]
    simp only [noteAll, List.append_assoc]
  · cases opens with
    | discards => exact Or.inl rfl
    | calls _ _ => exact Or.inr ⟨_, rfl⟩
  · intro backlog
    rw [Journal.results_append, ofDispatch.results_eq]
    rfl

/-- The results that have come by the given moment of a history. -/
def resultsBy (history : ℕ → Deployment) : ℕ → List Result
  | 0 => []
  | n + 1 => resultsBy history n ++ heard (history n) (history (n + 1))

/-- Results are not forgotten. -/
theorem resultsBy_prefix (history : ℕ → Deployment) {n m : ℕ} (later : n ≤ m) :
    resultsBy history n <+: resultsBy history m := by
  induction later with
  | refl => exact List.prefix_rfl
  | step _ inductionHypothesis => exact inductionHypothesis.trans (List.prefix_append _ _)

/-- What does not concern the worker brings no result. -/
theorem Elsewhere.heard_eq {before after : Deployment} (elsewhere : Elsewhere before after) :
    heard before after = [] := by
  rcases elsewhere.journal with ⟨trace, others, journal⟩
  rw [Deployment.heard_eq journal, others.results_eq]

/-- A queue that changes its mind has not answered yet. -/
theorem Whim.heard_eq {before after : Deployment} (whim : Whim before after) :
    heard before after = [] := by
  have silent (same : after.journal = before.journal ++ []) : heard before after = [] := by
    rw [Deployment.heard_eq same]
    rfl
  apply silent
  rw [List.append_nil]
  cases whim with
  | answers _ _ => rfl
  | main _ _ _ | drain _ _ _ =>
      rw [wake_eq]
      rfl

end Deployment
end FailureDispatch

import FailureDispatch.Proofs.Tally.Handings
import FailureDispatch.Proofs.Tally.Outlook

/-!
# What the counters of a service say

A batch taken from the queue is counted once, by its type, as handled or as
dropped, and it counts as dropped exactly if no handler is given it.  The failures
of a handler are its panics while it was asked and the faults of its invocations,
the acknowledged units are those in the lists that the acknowledger was given, and
it was called once for each success with references that could be had.

All of this holds in the middle of a dispatch too, wherever a handler or the
acknowledger makes its worker wait.
-/

namespace FailureDispatch
namespace Deployment

/-- What has been counted so far is what has ended so far. -/
theorem InOrder.tallied {staff : Staff} {deployment : Deployment}
    (inOrder : deployment.InOrder staff) {ended : List Ending}
    (whole : ended ++ deployment.outlook = staff.serveAllEndings deployment.journal.begun) :
    Tallied deployment.journal.dispatches deployment.journal.begun ended := by
  have all := staff.tallied_serveAll deployment.journal.begun
  rw [← whole] at all
  unfold InOrder at inOrder
  cases here : deployment.service.worker with
  | dispatching phase dispatch =>
      rw [here] at inOrder
      have outlook : deployment.outlook = deployment.service.staff.completeEndings dispatch := by
        simp only [Deployment.outlook, here]
      rw [← inOrder.total, outlook, ← List.append_nil deployment.journal.begun] at all
      exact all.cancel (deployment.service.staff.tallied_complete dispatch)
  | _ =>
      have free : deployment.service.worker.isFree = true := by
        rw [here]
        rfl
      rw [here] at inOrder
      rw [← inOrder.account_eq rfl, outlook_of_free free, List.append_nil] at all
      exact all

theorem get_totals_of_dispatch (journal : Journal) {counter : Counter}
    (ofDispatch : counter.isOfDispatch = true) :
    journal.totals.get counter = journal.dispatches.tally counter := by
  rw [Journal.get_totals, Journal.tally_dispatches ofDispatch]

theorem acknowledgements_dispatches (journal : Journal) :
    journal.dispatches.acknowledgements = journal.acknowledgements := by
  unfold Journal.acknowledgements Journal.dispatches
  rw [List.filterMap_filter]
  congr 1
  funext entry
  cases entry <;> first | rfl | exact ite_self _

/-- Batches of all types are batches. -/
theorem countP_types (batches : List Batch) :
    batches.countP (·.type == .indexing) + batches.countP (·.type == .processing) =
      batches.length := by
  induction batches with
  | nil => rfl
  | cons batch rest inductionHypothesis =>
      rw [List.countP_cons, List.countP_cons, List.length_cons, ← inductionHypothesis]
      cases type : batch.type <;> simp +arith

/-- In every state of every run with the worker as the only consumer, the
counters of handled and of dropped batches sum up, type by type, to the batches
removed from the queue.  With nobody in line, the dropped batches are those that
no handler was given.  What has ended so far, followed by the outlook on the rest
of the dispatch in hand, is what the staff and its scripts let expect of the
batches that were removed; the failures counted for a handler are the panics and
the faults in it.  The acknowledged units are those in the lists passed to the
acknowledger, also if it panicked, and it was called once for each success with
references that could be had. -/
theorem metrics_conserved {origin reached : Deployment} (unstarted : origin.Unstarted)
    (reaches : Reaches false origin reached) :
    ∃ queue ended, reached.source = .buffered queue ∧
      ended ++ reached.outlook =
        origin.service.staff.serveAllEndings reached.journal.taken ∧
      (∀ type, reached.journal.totals.get (.handled type) +
          reached.journal.totals.get (.dropped type) =
        reached.journal.taken.countP (·.type == type)) ∧
      reached.journal.totals.get (.handled .indexing) +
          reached.journal.totals.get (.dropped .indexing) +
          (reached.journal.totals.get (.handled .processing) +
            reached.journal.totals.get (.dropped .processing)) = queue.consumed ∧
      (reached.Settled → ∀ type, reached.journal.totals.get (.dropped type) =
        reached.journal.neverHanded.countP (·.type == type)) ∧
      (∀ name, reached.journal.totals.get (.handlerFailures name) =
        ended.countP (·.isPanicOf name) + ended.countP (·.isFaultOf name)) ∧
      reached.journal.totals.get .unitsAcknowledged =
        (reached.journal.acknowledgements.map List.length).sum ∧
      reached.journal.acknowledgements.length = ended.countP (·.isAcknowledgeable) := by
  rcases reaches_conserves unstarted reaches with ⟨queue, buffered, conserved⟩
  rcases reaches_foretold unstarted reaches with ⟨ended, whole⟩
  have tallied := (reaches_inOrder unstarted reaches).tallied whole
  have begun := reaches_begun_eq_taken unstarted reaches
  have batches (type : FailureType) : reached.journal.totals.get (.handled type) +
      reached.journal.totals.get (.dropped type) =
        reached.journal.taken.countP (·.type == type) := by
    rw [get_totals_of_dispatch _ rfl, get_totals_of_dispatch _ rfl, tallied.batches, begun]
  refine ⟨queue, ended, buffered, by rw [← begun]; exact whole, batches, ?_, ?_, ?_, ?_, ?_⟩
  · rw [batches, batches, countP_types, conserved.consumed]
  · intro settled type
    rw [Journal.get_totals]
    exact (reaches_portioned unstarted reaches).settled settled type
  · intro name
    rw [get_totals_of_dispatch _ rfl, tallied.failures]
  · rw [get_totals_of_dispatch _ rfl, tallied.units, acknowledgements_dispatches]
  · rw [← acknowledgements_dispatches, tallied.calls]

/-- One handler panics whenever it is asked.  Another panics at its first call and
waits at a gate in its second. -/
def faulty : Deployment where
  source := .buffered (.empty 2)
  service :=
    { handlers :=
        [⟨"unasked", .scripted .panic none ⟨[]⟩⟩,
          ⟨"slow", .scripted .all none ⟨[[.panic], [.pass "door"]]⟩⟩] }

theorem unstarted_faulty : faulty.Unstarted :=
  ⟨⟨2, rfl⟩, rfl, rfl, rfl, rfl, rfl, rfl, .nil⟩

/-- Two batches have been taken in hand, and the second call waits. -/
def halfway : Deployment :=
  (faulty.run 0 [some .start, some (.trySubmit .single), some (.trySubmit .single),
    some .settle]).2

/-- Two panics while it was asked are counted for the one handler, one fault for
the other, and the call that waits is not counted yet. -/
theorem metrics_conserved_halfway :
    ∃ ended : List Ending, halfway.Settled ∧ halfway.outlook.length = 2 ∧
      ended.countP (·.isPanicOf "unasked") + ended.countP (·.isFaultOf "unasked") = 2 ∧
      ended.countP (·.isPanicOf "slow") + ended.countP (·.isFaultOf "slow") = 1 ∧
      halfway.journal.totals.get (.handled .indexing) = 2 ∧
      halfway.journal.neverHanded.countP (·.type == .indexing) = 0 := by
  have reaches : Reaches false faulty halfway :=
    reaches_run unstarted_faulty.onCourse unstarted_faulty.numbered _ (by simp [Step.consumes])
  have settled : halfway.Settled := by decide +kernel
  have unasked : halfway.journal.totals.get (.handlerFailures "unasked") = 2 := by decide +kernel
  have slow : halfway.journal.totals.get (.handlerFailures "slow") = 1 := by decide +kernel
  have handled : halfway.journal.totals.get (.handled .indexing) = 2 := by decide +kernel
  have dropped : halfway.journal.totals.get (.dropped .indexing) = 0 := by decide +kernel
  have outlook : halfway.outlook.length = 2 := by decide +kernel
  rcases metrics_conserved unstarted_faulty reaches with
    ⟨_, ended, _, _, _, _, never, failures, _, _⟩
  exact ⟨ended, settled, outlook, (failures _).symm.trans unasked, (failures _).symm.trans slow,
    handled, (never settled _).symm.trans dropped⟩

end Deployment
end FailureDispatch

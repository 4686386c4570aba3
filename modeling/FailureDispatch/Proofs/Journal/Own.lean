import FailureDispatch.Proofs.Journal.Views

/-!
# The worker's own entries

Calls and acts from outside write to the same journal as the worker.  Some entries
can only be the worker's: what a dispatch leaves, what passes between the loop and
its queue, what the loop writes to the log, and that the service runs.  `own` keeps
these, in order.

An entry that somebody else might have made is left out, even where the worker makes
it as well.  So what `own` shows is the worker's beyond doubt, and it shows all of
what he does between his start and a request to stop except the mere removal of a
batch from the queue, which is recorded beside the contact that gives it.
-/

namespace FailureDispatch

namespace Occurrence

/-- Whether somebody other than the worker may have made the entry. -/
def isOfOthers : Occurrence → Bool
  | accepted _ | refused _ | taken _ | reported _ | contact (.reports _) => true
  | logged (.stopRequested) | logged (.stats _ _) | logged (.assembled _ _)
  | logged (.disassembled _ _) => true
  | entered state => decide (state ≠ .running)
  | _ => false

/-- Nobody else takes part in a dispatch. -/
theorem isOfOthers_of_isOfDispatch (entry : Occurrence) (inside : entry.isOfDispatch = true) :
    entry.isOfOthers = false := by
  cases entry with
  | logged notice => cases notice <;> first | rfl | cases inside
  | contact _ | entered _ | accepted _ | refused _ | taken _ | reported _ => cases inside
  | _ => rfl

end Occurrence

namespace Journal

/-- The entries that only the worker makes. -/
def own (journal : Journal) : Journal := journal.filter fun entry => !entry.isOfOthers

/-- Entries that somebody else may have made. -/
def OfOthers (trace : Journal) : Prop := ∀ entry ∈ trace, entry.isOfOthers = true

@[simp] theorem own_append (journal trace : Journal) :
    own (journal ++ trace) = journal.own ++ trace.own :=
  List.filter_append ..

theorem OfOthers.nil : OfOthers [] := by
  intro entry member
  cases member

theorem OfOthers.cons {entry : Occurrence} {rest : Journal} (selected : entry.isOfOthers = true)
    (others : rest.OfOthers) : OfOthers (entry :: rest) := by
  intro other member
  rcases List.mem_cons.mp member with same | later
  · rw [same]
    exact selected
  · exact others other later

theorem OfOthers.append {first second : Journal} (left : first.OfOthers)
    (right : second.OfOthers) : OfOthers (first ++ second) := by
  intro entry member
  rcases List.mem_append.mp member with earlier | later
  · exact left entry earlier
  · exact right entry later

/-- Nothing of what others write is the worker's. -/
theorem OfOthers.own_eq {trace : Journal} (others : trace.OfOthers) : trace.own = [] := by
  apply List.filter_eq_nil_iff.mpr
  intro entry member
  rw [others entry member]
  exact Bool.false_ne_true

/-- A dispatch is the worker's. -/
theorem OfDispatch.own_eq {trace : Journal} (ofDispatch : trace.OfDispatch) :
    trace.own = trace := by
  apply List.filter_eq_self.mpr
  intro entry member
  rw [entry.isOfOthers_of_isOfDispatch (ofDispatch entry member)]
  rfl

section Views

variable {view : Occurrence → Bool}
  (ofWorker : ∀ entry, view entry = true → entry.isOfOthers = false)
include ofWorker

/-- A view that shows nothing of what others write loses nothing by leaving it out. -/
theorem filter_own (journal : Journal) : journal.own.filter view = journal.filter view := by
  rw [own, List.filter_filter]
  apply List.filter_congr
  intro entry _
  cases seen : view entry with
  | false => rfl
  | true =>
      rw [ofWorker entry seen]
      rfl

theorem OfOthers.filter_eq {trace : Journal} (others : trace.OfOthers) :
    trace.filter view = [] := by
  rw [← filter_own ofWorker, others.own_eq]
  rfl

end Views

/-- Others begin no dispatch. -/
theorem OfOthers.begun_eq {trace : Journal} (others : trace.OfOthers) : trace.begun = [] := by
  apply List.filterMap_eq_nil_iff.mpr
  intro entry member
  have selected := others entry member
  cases entry <;> first | rfl | cases selected

theorem dispatches_own (journal : Journal) : journal.own.dispatches = journal.dispatches :=
  filter_own Occurrence.isOfOthers_of_isOfDispatch journal

end Journal
end FailureDispatch

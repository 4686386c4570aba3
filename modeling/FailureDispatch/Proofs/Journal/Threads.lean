import FailureDispatch.Proofs.Journal.Apart
import FailureDispatch.Proofs.Tally.Endings
import Mathlib.Algebra.BigOperators.Group.List.Basic
import Mathlib.Data.List.Count

/-!
# The threads of a journal

Handlers write to one journal, and so do the acknowledger and the service.  Every
entry is somebody's: the questions to a handler, the calls of it and the notices of
its failures are that handler's, the acknowledgements are the acknowledger's, and the
rest is the service's.  The warnings of the logging conduct name no handler and form a
thread of their own.

Two journals with the same threads differ only in how these are woven together.  So
they consist of the same entries, count the same, and show the same of each
collaborator.  Traces that are exchangeable one by one may be written in any order
(`SameThreads.flatMap`).
-/

namespace FailureDispatch

/-- Whose entry it is. -/
inductive Thread where
  | handler (name : String)
  | acknowledger
  /-- The warnings of the logging conduct. -/
  | warnings
  | service
  deriving DecidableEq

namespace Occurrence

def thread : Occurrence → Thread
  | asked name | checked name | handled name _ | logged (.selectionPanicked name _)
  | logged (.handlerFailed name _ _ _) | counted (.handlerFailures name) _ => .handler name
  | acknowledged _ | counted .unitsAcknowledged _ => .acknowledger
  | logged (.failure _) => .warnings
  | _ => .service

/-- Whether the named handler is called, or asked whether it is to be called. -/
def isInquiryOf (name : String) : Occurrence → Bool
  | asked other | checked other | handled other _ => other == name
  | _ => false

end Occurrence

namespace Journal

/-- The entries of a thread, in order. -/
def thread (journal : Journal) (thread : Thread) : Journal :=
  journal.filter fun entry => entry.thread = thread

/-- The questions to a handler and the calls of it, in order. -/
def inquiriesOf (journal : Journal) (name : String) : Journal :=
  journal.filter (Occurrence.isInquiryOf name)

@[simp] theorem thread_append (first second : Journal) (thread : Thread) :
    (first ++ second : Journal).thread thread = first.thread thread ++ second.thread thread :=
  List.filter_append ..

/-- Entries that all belong to one thread. -/
def Of (trace : Journal) (thread : Thread) : Prop := ∀ entry ∈ trace, entry.thread = thread

theorem Of.nil (thread : Thread) : Of [] thread := by
  intro entry member
  cases member

theorem Of.cons {entry : Occurrence} {rest : Journal} {thread : Thread}
    (own : entry.thread = thread) (others : rest.Of thread) : Of (entry :: rest) thread :=
  List.forall_mem_cons.mpr ⟨own, others⟩

theorem Of.append {first second : Journal} {thread : Thread} (left : first.Of thread)
    (right : second.Of thread) : Of (first ++ second) thread := by
  intro entry member
  rcases List.mem_append.mp member with earlier | later
  · exact left entry earlier
  · exact right entry later

theorem Of.whole {trace : Journal} {thread : Thread} (own : trace.Of thread) :
    trace.thread thread = trace := by
  apply List.filter_eq_self.mpr
  intro entry member
  rw [own entry member, decide_eq_true_eq]

/-- Nothing of one thread is seen in another. -/
theorem Of.elsewhere {trace : Journal} {thread other : Thread} (own : trace.Of thread)
    (different : other ≠ thread) : trace.thread other = [] := by
  apply List.filter_eq_nil_iff.mpr
  intro entry member
  rw [own entry member, decide_eq_true_eq]
  exact Ne.symm different

/-- The journals are woven from the same threads. -/
def SameThreads (left right : Journal) : Prop :=
  ∀ thread, left.thread thread = right.thread thread

namespace SameThreads

variable {left right : Journal}

theorem refl (journal : Journal) : SameThreads journal journal := fun _ => rfl

theorem symm (same : SameThreads left right) : SameThreads right left :=
  fun thread => (same thread).symm

theorem trans (same : SameThreads left right) {last : Journal} (later : SameThreads right last) :
    SameThreads left last :=
  fun thread => (same thread).trans (later thread)

theorem append (same : SameThreads left right) {later other : Journal}
    (goesOn : SameThreads later other) : SameThreads (left ++ later) (right ++ other) := by
  intro thread
  rw [thread_append, thread_append, same thread, goesOn thread]

/-- Traces of different threads may be written in either order. -/
theorem exchange {first second : Journal} {thread other : Thread} (own : first.Of thread)
    (otherOwn : second.Of other) (different : thread ≠ other) :
    SameThreads (first ++ second) (second ++ first) := by
  intro seen
  rw [thread_append, thread_append]
  by_cases here : seen = thread
  · rw [otherOwn.elsewhere (here ▸ different), List.append_nil, List.nil_append]
  · rw [own.elsewhere here, List.append_nil, List.nil_append]

/-- What is exchangeable one by one may be written in any order. -/
theorem flatMap {α : Type} {write : α → Journal} {first second : List α}
    (order : first.Perm second)
    (exchangeable : first.Pairwise fun one other =>
      SameThreads (write one ++ write other) (write other ++ write one)) :
    SameThreads (first.flatMap write) (second.flatMap write) := by
  induction order with
  | nil => exact refl _
  | cons one _ inductionHypothesis =>
      rw [List.flatMap_cons, List.flatMap_cons]
      exact (refl _).append (inductionHypothesis (List.pairwise_cons.mp exchangeable).2)
  | swap one other rest =>
      have exchanged := (List.pairwise_cons.mp exchangeable).1 one List.mem_cons_self
      simp only [List.flatMap_cons, ← List.append_assoc]
      exact exchanged.append (refl _)
  | trans order _ inductionHypothesis laterHypothesis =>
      have exchangeableToo := (order.pairwise_iff fun exchanged => exchanged.symm).mp exchangeable
      exact (inductionHypothesis exchangeable).trans (laterHypothesis exchangeableToo)

/-! ## What the threads determine -/

section Views

variable (same : SameThreads left right)
include same

/-- The same entries are made, in whatever order. -/
theorem perm : left.Perm right := by
  rw [List.perm_iff_count]
  intro entry
  have count (journal : Journal) :
      (journal.thread entry.thread).count entry = journal.count entry :=
    List.count_filter (by simp)
  rw [← count left, ← count right, same entry.thread]

/-- A view of one thread shows the same. -/
theorem filterMap_eq {α : Type} {view : Occurrence → Option α} (thread : Thread)
    (within : ∀ entry, entry.thread ≠ thread → view entry = none) :
    left.filterMap view = right.filterMap view := by
  have seen (journal : Journal) :
      (journal.thread thread).filterMap view = journal.filterMap view := by
    rw [Journal.thread, List.filterMap_filter]
    apply List.filterMap_congr
    intro entry _
    by_cases here : entry.thread = thread
    · simp [here]
    · simp [here, within entry here]
  rw [← seen left, ← seen right, same thread]

theorem inquiriesOf_eq (name : String) : left.inquiriesOf name = right.inquiriesOf name := by
  unfold inquiriesOf
  rw [← List.filterMap_eq_filter]
  apply same.filterMap_eq (.handler name)
  intro entry elsewhere
  cases entry with
  | asked other | checked other | handled other units =>
      have different : other ≠ name := fun equal => elsewhere (congrArg Thread.handler equal)
      simp [Option.guard, Occurrence.isInquiryOf, different]
  | _ => rfl

theorem acknowledgements_eq : left.acknowledgements = right.acknowledgements := by
  apply same.filterMap_eq .acknowledger
  intro entry elsewhere
  cases entry with
  | acknowledged refs => exact absurd rfl elsewhere
  | _ => rfl

theorem totals_eq (counter : Counter) :
    left.totals.get counter = right.totals.get counter := by
  rw [get_totals, get_totals, tally, tally]
  exact (same.perm.filterMap _).sum_eq

end Views

end SameThreads
end Journal
end FailureDispatch

import FailureDispatch.Deployment.Dispatch
import FailureDispatch.Proofs.Journal.Views

/-!
# How questions and calls end

The counters of a service are raised at five places, between waits and around
panics.  Here they are compared with what they are meant to count: the ends of
questions and of calls, which are said without any counter.

An `Ending` is one such end.  `Tallied` compares a trace with the batches whose
dispatches it opens and with the endings that fall into it.  It is a comparison
of sums, so it holds of the first part of a trace if it holds of the whole and of
the last part: what a dispatch has counted so far follows from what it will have
counted in the end and from what is still to come.
-/

namespace FailureDispatch

/-- The end of a question to a handler, or of a call of a handler or of the
acknowledger. -/
inductive Ending where
  /-- The handler panicked while it was asked, and was passed over. -/
  | passedOver (handler : String)
  | handled (handler : String) (batch : Batch) (conclusion : Conclusion)
  /-- The acknowledger, called after a success of the handler, has concluded. -/
  | acknowledged (handler : String) (batch : Batch) (conclusion : Conclusion)

namespace Ending

/-- Whether a handler of that name panicked while it was asked. -/
def isPanicOf (name : String) : Ending → Bool
  | passedOver handler => handler == name
  | handled _ _ _ | acknowledged _ _ _ => false

/-- Whether an invocation of a handler of that name ends here in an error or a
panic: of the handler, of the references of the batch after its success, or of
the acknowledger, which has no way to report an error. -/
def isFaultOf (name : String) : Ending → Bool
  | passedOver _ => false
  | handled handler batch .success => handler == name && batch.ackRefs.isNone
  | handled handler _ (.failure _) | handled handler _ .panic => handler == name
  | acknowledged handler _ .panic => handler == name
  | acknowledged _ _ .success | acknowledged _ _ (.failure _) => false

/-- Whether a handler has succeeded with a batch whose references can be had. -/
def isAcknowledgeable : Ending → Bool
  | handled _ batch .success => batch.ackRefs.isSome
  | _ => false

end Ending

namespace Occurrence

def acknowledged? : Occurrence → Option (List String)
  | acknowledged refs => some refs
  | _ => none

/-- Whether the entry raises a counter or calls the acknowledger. -/
def isFigure : Occurrence → Bool
  | counted _ _ | acknowledged _ => true
  | _ => false

end Occurrence

namespace Journal

/-- The lists that were passed to the acknowledger, in order. -/
def acknowledgements (journal : Journal) : List (List String) :=
  journal.filterMap Occurrence.acknowledged?

@[simp] theorem acknowledgements_append (journal trace : Journal) :
    acknowledgements (journal ++ trace) = journal.acknowledgements ++ trace.acknowledgements :=
  List.filterMap_append

theorem tally_cons_none {counter : Counter} {entry : Occurrence}
    (none : entry.amount? counter = none) (rest : Journal) :
    tally counter (entry :: rest) = tally counter rest := by
  rw [tally, List.filterMap_cons_none none]
  rfl

theorem tally_counted (counter other : Counter) (amount : Nat) (rest : Journal) :
    tally counter (.counted other amount :: rest) =
      (if other = counter then amount else 0) + tally counter rest := by
  rw [← List.singleton_append, tally_append]
  by_cases same : other = counter <;> simp [tally, Occurrence.amount?, same]

end Journal

/-- The counters of a trace say what became of these batches, and how these
questions and calls ended. -/
structure Tallied (trace : Journal) (batches : List Batch) (endings : List Ending) : Prop where
  batches : ∀ type, trace.tally (.handled type) + trace.tally (.dropped type) =
    batches.countP (·.type == type)
  failures : ∀ name, trace.tally (.handlerFailures name) =
    endings.countP (·.isPanicOf name) + endings.countP (·.isFaultOf name)
  units : trace.tally .unitsAcknowledged = (trace.acknowledgements.map List.length).sum
  calls : trace.acknowledgements.length = endings.countP (·.isAcknowledgeable)

namespace Tallied

variable {first second : Journal} {earlier later : List Batch} {ended remaining : List Ending}

theorem append (left : Tallied first earlier ended) (right : Tallied second later remaining) :
    Tallied (first ++ second) (earlier ++ later) (ended ++ remaining) := by
  constructor
  · intro type
    have before := left.batches type
    have after := right.batches type
    rw [Journal.tally_append, Journal.tally_append, List.countP_append]
    omega
  · intro name
    have before := left.failures name
    have after := right.failures name
    rw [Journal.tally_append, List.countP_append, List.countP_append]
    omega
  · rw [Journal.tally_append, Journal.acknowledgements_append, List.map_append,
      List.sum_append_nat, left.units, right.units]
  · rw [Journal.acknowledgements_append, List.length_append, List.countP_append, left.calls,
      right.calls]

/-- What the whole and its last part say leaves only this for the first part. -/
theorem cancel (whole : Tallied (first ++ second) (earlier ++ later) (ended ++ remaining))
    (right : Tallied second later remaining) : Tallied first earlier ended := by
  constructor
  · intro type
    have all := whole.batches type
    have after := right.batches type
    rw [Journal.tally_append, Journal.tally_append, List.countP_append] at all
    omega
  · intro name
    have all := whole.failures name
    have after := right.failures name
    rw [Journal.tally_append, List.countP_append, List.countP_append] at all
    omega
  · have all := whole.units
    have after := right.units
    rw [Journal.tally_append, Journal.acknowledgements_append, List.map_append,
      List.sum_append_nat] at all
    omega
  · have all := whole.calls
    have after := right.calls
    rw [Journal.acknowledgements_append, List.length_append, List.countP_append] at all
    omega

/-- A trace without figures tells nothing. -/
theorem of_silent {trace : Journal} (silent : ∀ entry ∈ trace, entry.isFigure = false) :
    Tallied trace [] [] := by
  have nothing (counter : Counter) : trace.tally counter = 0 := by
    have unseen : trace.filterMap (Occurrence.amount? counter) = [] := by
      apply List.filterMap_eq_nil_iff.mpr
      intro entry member
      have figure := silent entry member
      cases entry <;> first | rfl | cases figure
    rw [Journal.tally, unseen, List.sum_nil]
  have nobody : trace.acknowledgements = [] := by
    apply List.filterMap_eq_nil_iff.mpr
    intro entry member
    have figure := silent entry member
    cases entry <;> first | rfl | cases figure
  constructor
  · intro type
    rw [nothing, nothing, List.countP_nil]
  · intro name
    rw [nothing, List.countP_nil, List.countP_nil]
  · rw [nothing, nobody]
    rfl
  · rw [nobody]
    rfl

theorem nil : Tallied [] [] [] :=
  of_silent (by
    intro entry member
    cases member)

/-- One more entry in front, which is no figure. -/
theorem cons {entry : Occurrence} (figure : entry.isFigure = false)
    (tallied : Tallied first earlier ended) : Tallied (entry :: first) earlier ended :=
  (of_silent (List.forall_mem_singleton.mpr figure)).append tallied

/-- A failure of a handler, counted once, is one ending. -/
theorem of_failure {name : String} {ending : Ending} {notice : Notice}
    (counts : ∀ other, [ending].countP (·.isPanicOf other) + [ending].countP (·.isFaultOf other) =
      if name = other then 1 else 0)
    (calls : ending.isAcknowledgeable = false) :
    Tallied [.logged notice, .counted (.handlerFailures name) 1] [] [ending] := by
  apply Tallied.cons rfl
  constructor
  · intro type
    rfl
  · intro other
    rw [counts, Journal.tally_counted]
    simp only [Counter.handlerFailures.injEq]
    rfl
  · rfl
  · rw [List.countP_singleton, calls]
    rfl

/-- An ending that nobody counts. -/
theorem of_uncounted {ending : Ending} (panics : ∀ name, ending.isPanicOf name = false)
    (faults : ∀ name, ending.isFaultOf name = false) (calls : ending.isAcknowledgeable = false) :
    Tallied [] [] [ending] := by
  constructor
  · intro type
    rfl
  · intro name
    rw [List.countP_singleton, List.countP_singleton, panics, faults]
    rfl
  · rfl
  · rw [List.countP_singleton, calls]
    rfl

end Tallied

end FailureDispatch

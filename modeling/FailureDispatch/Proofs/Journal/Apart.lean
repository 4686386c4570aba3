import FailureDispatch.Proofs.Journal.Views

/-!
# The journal apart from one handler's success

A handler that fails where it might have succeeded is followed by a notice in
place of an acknowledgement.  `Journal.apart name` leaves out what may hang on
this: the notices of failed calls and their counts, whoever failed, and the
acknowledgements that were made after a call of the handler of that name.  Of
other handlers the acknowledgements stay, and so does everything else.

Whether an entry is left out depends on whose call was begun last.  A call of a
scripted handler begins with `handled`, one of the logging handler with the
first failure that it writes, and neither of these is left out.  So the reading
of a journal is determined by what it has kept (`latest_apartFrom`), and two
journals that read alike go on reading alike.

Handlers appear in the journal under their names.  The registry admits one
handler of a name; a fallback that bears the same name is read here as that handler.
-/

namespace FailureDispatch

namespace Counter

/-- Whether the counter says how calls came out. -/
def tellsOutcome : Counter → Bool
  | handlerFailures _ | unitsAcknowledged => true
  | handled _ | dropped _ | drained => false

end Counter

namespace Occurrence

/-- Whether the call begun last, after the entry, is one of the named handler.
Before the entry that was `own`. -/
def latestCall (name : String) (own : Bool) : Occurrence → Bool
  | handled other _ => other == name
  | logged (.failure _) => false
  | _ => own

/-- Whether the entry may hang on how a call of the named handler came out.  The
call begun last is one of that handler if `own` says so. -/
def tellsOutcome (own : Bool) : Occurrence → Bool
  | logged (.handlerFailed _ _ _ _) | counted (.handlerFailures _) _ => true
  | counted .unitsAcknowledged _ | acknowledged _ => own
  | _ => false

/-- Whether a handler is called, or asked whether it is to be called. -/
def isInquiry : Occurrence → Bool
  | asked _ | checked _ | handled _ _ => true
  | _ => false

/-- No call begins with an entry that tells how another came out. -/
theorem latestCall_of_tellsOutcome {own : Bool} {entry : Occurrence}
    (tells : entry.tellsOutcome own = true) (name : String) : entry.latestCall name own = own := by
  cases entry with
  | handled other units => cases tells
  | logged notice => cases notice <;> first | rfl | cases tells
  | _ => rfl

end Occurrence

namespace Journal

/-- What is left of a journal, if the call begun last before it is one of the
named handler or not. -/
def apartFrom (name : String) : Bool → Journal → Journal
  | _, [] => []
  | own, entry :: rest =>
      if entry.tellsOutcome own then apartFrom name own rest
      else entry :: apartFrom name (entry.latestCall name own) rest

/-- The journal without what may hang on how the calls of the named handler came
out. -/
def apart (journal : Journal) (name : String) : Journal := apartFrom name false journal

/-- The questions to handlers and the calls of them, in order. -/
def inquiries (journal : Journal) : Journal := journal.filter Occurrence.isInquiry

/-- Whether the call begun last is one of the named handler. -/
def latest (name : String) (own : Bool) (journal : Journal) : Bool :=
  journal.foldl (Occurrence.latestCall name) own

section Reading

variable (name : String) (own : Bool)

theorem apartFrom_append (first second : Journal) :
    apartFrom name own (first ++ second) =
      apartFrom name own first ++ apartFrom name (latest name own first) second := by
  induction first generalizing own with
  | nil => rfl
  | cons entry rest inductionHypothesis =>
      cases tells : entry.tellsOutcome own with
      | true =>
          have begun := Occurrence.latestCall_of_tellsOutcome tells name
          simp only [List.cons_append, apartFrom, tells, if_true, latest, List.foldl_cons, begun]
          exact inductionHypothesis own
      | false =>
          simp only [List.cons_append, apartFrom, tells, Bool.false_eq_true, if_false, latest,
            List.foldl_cons]
          exact congrArg _ (inductionHypothesis _)

/-- What is left out does not change the reading of what follows. -/
theorem latest_apartFrom (journal : Journal) :
    latest name own (apartFrom name own journal) = latest name own journal := by
  induction journal generalizing own with
  | nil => rfl
  | cons entry rest inductionHypothesis =>
      cases tells : entry.tellsOutcome own with
      | true =>
          have begun := Occurrence.latestCall_of_tellsOutcome tells name
          simp only [apartFrom, tells, if_true, latest, List.foldl_cons, begun]
          exact inductionHypothesis own
      | false =>
          simp only [apartFrom, tells, Bool.false_eq_true, if_false, latest, List.foldl_cons]
          exact inductionHypothesis _

/-- A view that never sees how calls came out loses nothing. -/
theorem filterMap_apartFrom {α : Type} {view : Occurrence → Option α}
    (blind : ∀ own entry, entry.tellsOutcome own = true → view entry = none)
    (journal : Journal) : (apartFrom name own journal).filterMap view = journal.filterMap view := by
  induction journal generalizing own with
  | nil => rfl
  | cons entry rest inductionHypothesis =>
      cases tells : entry.tellsOutcome own with
      | true =>
          simp only [apartFrom, tells, if_true, List.filterMap_cons, blind own entry tells]
          exact inductionHypothesis own
      | false =>
          simp only [apartFrom, tells, Bool.false_eq_true, if_false, List.filterMap_cons,
            inductionHypothesis]

end Reading

/-! ## Journals that read alike -/

/-- Two journals read alike, whoever has been called before them. -/
def Alike (name : String) (left right : Journal) : Prop :=
  ∀ own, apartFrom name own left = apartFrom name own right

namespace Alike

variable {name : String} {left right : Journal}

theorem refl (name : String) (journal : Journal) : Alike name journal journal :=
  fun _ => rfl

theorem append (alike : Alike name left right) {later other : Journal}
    (goesOn : Alike name later other) : Alike name (left ++ later) (right ++ other) := by
  intro own
  have begun : latest name own left = latest name own right := by
    rw [← latest_apartFrom, alike own, latest_apartFrom]
  rw [apartFrom_append, apartFrom_append, alike own, begun, goesOn]

/-- A call of the named handler has been begun, and what follows tells how it
came out. -/
theorem of_own {called later other : Journal} (own : ∀ own, latest name own called = true)
    (tells : ∀ entry ∈ later, entry.tellsOutcome true = true)
    (tellsToo : ∀ entry ∈ other, entry.tellsOutcome true = true) :
    Alike name (called ++ later) (called ++ other) := by
  have nothing {trace : Journal} (all : ∀ entry ∈ trace, entry.tellsOutcome true = true) :
      apartFrom name true trace = [] := by
    induction trace with
    | nil => rfl
    | cons entry rest inductionHypothesis =>
        rcases List.forall_mem_cons.mp all with ⟨here, there⟩
        rw [apartFrom, if_pos here]
        exact inductionHypothesis there
  intro before
  rw [apartFrom_append, apartFrom_append, own before, nothing tells, nothing tellsToo]

/-- Entries that tell of failed calls are never read. -/
theorem of_failures {trace other : Journal}
    (fails : ∀ entry ∈ trace, ∀ own, entry.tellsOutcome own = true)
    (failsToo : ∀ entry ∈ other, ∀ own, entry.tellsOutcome own = true) :
    Alike name trace other := by
  have nothing {trace : Journal} (all : ∀ entry ∈ trace, ∀ own, entry.tellsOutcome own = true)
      (own : Bool) : apartFrom name own trace = [] := by
    induction trace with
    | nil => rfl
    | cons entry rest inductionHypothesis =>
        rcases List.forall_mem_cons.mp all with ⟨here, there⟩
        rw [apartFrom, if_pos (here own)]
        exact inductionHypothesis there
  intro own
  rw [nothing fails own, nothing failsToo own]

theorem filterMap_eq (alike : Alike name left right) {α : Type} {view : Occurrence → Option α}
    (blind : ∀ own entry, entry.tellsOutcome own = true → view entry = none) :
    left.filterMap view = right.filterMap view := by
  rw [← filterMap_apartFrom name false blind left, alike false,
    filterMap_apartFrom name false blind]

/-- The same handlers are asked and called, in the same order and with the same
units. -/
theorem inquiries_eq (alike : Alike name left right) : left.inquiries = right.inquiries := by
  unfold inquiries
  rw [← List.filterMap_eq_filter]
  apply alike.filterMap_eq
  intro own entry tells
  cases entry <;> first | rfl | cases tells

/-- The same batches have been dispatched. -/
theorem begun_eq (alike : Alike name left right) : left.begun = right.begun := by
  apply alike.filterMap_eq
  intro own entry tells
  cases entry <;> first | rfl | cases tells

/-- Counters that do not say how calls came out have the same value. -/
theorem totals_eq (alike : Alike name left right) {counter : Counter}
    (apart : counter.tellsOutcome = false) :
    left.totals.get counter = right.totals.get counter := by
  rw [get_totals, get_totals, tally, tally]
  apply congrArg List.sum
  apply alike.filterMap_eq
  intro own entry tells
  cases entry with
  | counted other amount =>
      have outcome : other.tellsOutcome = true := by
        cases other <;> first | rfl | cases tells
      have different : other ≠ counter := by
        intro equal
        rw [← equal, outcome] at apart
        cases apart
      exact if_neg different
  | _ => rfl

end Alike

end Journal
end FailureDispatch

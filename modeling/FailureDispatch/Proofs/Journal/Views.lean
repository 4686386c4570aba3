import FailureDispatch.Journal.Basic
import Mathlib.Algebra.Ring.Nat

/-!
# Views of the journal

Statements about runs speak of batches in some order: the accepted ones, those
taken from the queue, those whose dispatch has begun.  Each of these sequences
is a view of the journal, and so are the trace of all dispatches and the total
of a counter.

Every view turns appending into appending.  A trace that a view does not see
leaves it alone, and most traces fall into one of two classes: those written
while a batch is being served, and those that concern no batch at all.
-/

namespace FailureDispatch

namespace Notice

/-- Whether the notice is written while a batch is being dispatched. -/
def isOfDispatch : Notice → Bool
  | selectionPanicked _ _ | handlerFailed _ _ _ _ | discarded _ _ | failure _ => true
  | _ => false

end Notice

namespace Counter

/-- Whether the counter is incremented while a batch is being dispatched. -/
def isOfDispatch : Counter → Bool
  | drained => false
  | _ => true

end Counter

namespace Occurrence

/-- Whether the entry is made between the beginning and the end of a dispatch. -/
def isInner : Occurrence → Bool
  | asked _ | checked _ | handled _ _ | acknowledged _ => true
  | counted counter _ => counter.isOfDispatch
  | logged notice => notice.isOfDispatch
  | _ => false

/-- Whether the entry is made while handlers are chosen. -/
def isQuestion : Occurrence → Bool
  | asked _ | checked _ | logged (.selectionPanicked _ _) | counted (.handlerFailures _) _ => true
  | _ => false

/-- Whether the entry belongs to the dispatch of a batch. -/
def isOfDispatch : Occurrence → Bool
  | dispatchBegun _ | dispatchEnded _ => true
  | entry => entry.isInner

/-- Whether the entry concerns neither a batch nor the count of the drain. -/
def isPlain : Occurrence → Bool
  | logged notice => !notice.isOfDispatch
  | fetched | fetchedWithin _ | reported _ | entered _ | contact _ => true
  | _ => false

/-- Whether the entry concerns the queue, but no dispatch and no drain. -/
def isClerical : Occurrence → Bool
  | accepted _ | refused _ | taken _ => true
  | entry => entry.isPlain

def accepted? : Occurrence → Option Batch
  | accepted batch => some batch
  | _ => none

def taken? : Occurrence → Option Batch
  | taken batch => some batch
  | _ => none

def begun? : Occurrence → Option Batch
  | dispatchBegun batch => some batch
  | _ => none

def entered? : Occurrence → Option ServiceState
  | entered state => some state
  | _ => none

def contact? : Occurrence → Option Contact
  | contact passed => some passed
  | _ => none

/-- The size that the queue is said to have.  Only the note about an interrupted wait says one. -/
def size? : Occurrence → Option Nat
  | logged (.interrupted size) => some size
  | _ => none

/-- What the entry adds to a counter. -/
def amount? (counter : Counter) : Occurrence → Option Nat
  | counted other amount => if other = counter then some amount else none
  | _ => none

end Occurrence

namespace Journal

/-- The batches whose submission succeeded, in the order of acceptance. -/
def accepted (journal : Journal) : List Batch := journal.filterMap Occurrence.accepted?

/-- The batches removed from the queue, in the order of removal. -/
def taken (journal : Journal) : List Batch := journal.filterMap Occurrence.taken?

/-- The batches whose dispatch has begun. -/
def begun (journal : Journal) : List Batch := journal.filterMap Occurrence.begun?

/-- The states that the service has entered, in order. -/
def states (journal : Journal) : List ServiceState := journal.filterMap Occurrence.entered?

/-- What has passed between the service and its queue. -/
def contacts (journal : Journal) : List Contact := journal.filterMap Occurrence.contact?

/-- The sizes that the service has found its queue to have, each time it has asked. -/
def sizes (journal : Journal) : List Nat := journal.filterMap Occurrence.size?

/-- Everything that belongs to the dispatch of some batch. -/
def dispatches (journal : Journal) : Journal := journal.filter Occurrence.isOfDispatch

/-- The sum of what was added to a counter. -/
def tally (counter : Counter) (journal : Journal) : Nat :=
  (journal.filterMap (Occurrence.amount? counter)).sum

section Append

variable (journal trace : Journal)

@[simp] theorem accepted_append :
    accepted (journal ++ trace) = journal.accepted ++ trace.accepted :=
  List.filterMap_append

@[simp] theorem taken_append : taken (journal ++ trace) = journal.taken ++ trace.taken :=
  List.filterMap_append

@[simp] theorem begun_append : begun (journal ++ trace) = journal.begun ++ trace.begun :=
  List.filterMap_append

@[simp] theorem states_append : states (journal ++ trace) = journal.states ++ trace.states :=
  List.filterMap_append

@[simp] theorem contacts_append :
    contacts (journal ++ trace) = journal.contacts ++ trace.contacts :=
  List.filterMap_append

@[simp] theorem sizes_append : sizes (journal ++ trace) = journal.sizes ++ trace.sizes :=
  List.filterMap_append

@[simp] theorem dispatches_append :
    dispatches (journal ++ trace) = journal.dispatches ++ trace.dispatches :=
  List.filter_append ..

@[simp] theorem tally_append (counter : Counter) :
    tally counter (journal ++ trace) = journal.tally counter + trace.tally counter := by
  simp only [tally, List.filterMap_append, List.sum_append_nat]

end Append

/-- What is counted while batches are dispatched is part of the dispatches. -/
theorem tally_dispatches {counter : Counter} (ofDispatch : counter.isOfDispatch = true)
    (journal : Journal) : journal.dispatches.tally counter = journal.tally counter := by
  have view : (fun entry : Occurrence =>
      if entry.isOfDispatch then entry.amount? counter else none) = Occurrence.amount? counter := by
    funext entry
    cases entry with
    | counted other amount =>
        by_cases same : other = counter
        · rw [same]
          exact if_pos ofDispatch
        · simp only [Occurrence.amount?, if_neg same, ite_self]
    | _ => exact ite_self _
  rw [tally, dispatches, List.filterMap_filter, view]
  rfl

/-! ## Traces that a view does not see -/

/-- Entries that mention neither a state of the service nor its queue. -/
structure Unspoken (trace : Journal) : Prop where
  states_eq : trace.states = []
  contacts_eq : trace.contacts = []

theorem Unspoken.nil : Unspoken [] := ⟨rfl, rfl⟩

/-- They do not say either how large the queue is. -/
structure Aside (trace : Journal) : Prop extends Unspoken trace where
  sizes_eq : trace.sizes = []

theorem Aside.nil : Aside [] := ⟨.nil, rfl⟩

/-- A contact, and whatever else is written at it. -/
theorem Aside.contacts_cons {trace : Journal} (aside : trace.Aside) (passed : Contact) :
    contacts (.contact passed :: trace) = [passed] :=
  congrArg (List.cons passed) aside.contacts_eq

/-- Entries of a choice of handlers. -/
def Questions (trace : Journal) : Prop := ∀ entry ∈ trace, entry.isQuestion = true

/-- Entries of one dispatch, without its two ends. -/
def Inner (trace : Journal) : Prop := ∀ entry ∈ trace, entry.isInner = true

/-- Entries of dispatches. -/
def OfDispatch (trace : Journal) : Prop := ∀ entry ∈ trace, entry.isOfDispatch = true

/-- Entries about the queue, and entries that no view sees. -/
def Clerical (trace : Journal) : Prop := ∀ entry ∈ trace, entry.isClerical = true

/-- Entries that no view sees. -/
def Plain (trace : Journal) : Prop := ∀ entry ∈ trace, entry.isPlain = true

theorem Questions.nil : Questions [] := by
  intro entry member
  cases member

theorem Questions.single {entry : Occurrence} (selected : entry.isQuestion = true) :
    Questions [entry] := by
  intro other member
  rw [List.mem_singleton.mp member]
  exact selected

theorem Questions.append {first second : Journal} (left : first.Questions)
    (right : second.Questions) : Questions (first ++ second) := by
  intro entry member
  rcases List.mem_append.mp member with earlier | later
  · exact left entry earlier
  · exact right entry later

theorem Questions.inner {trace : Journal} (questions : trace.Questions) : trace.Inner := by
  intro entry member
  have selected := questions entry member
  cases entry with
  | logged notice => cases notice <;> first | rfl | cases selected
  | counted counter _ => cases counter <;> first | rfl | cases selected
  | _ => first | rfl | cases selected

theorem Inner.nil : Inner [] := by
  intro entry member
  cases member

theorem Inner.cons {entry : Occurrence} {rest : Journal} (selected : entry.isInner = true)
    (inner : rest.Inner) : Inner (entry :: rest) :=
  List.forall_mem_cons.mpr ⟨selected, inner⟩

theorem Inner.append {first second : Journal} (left : first.Inner) (right : second.Inner) :
    Inner (first ++ second) := by
  intro entry member
  rcases List.mem_append.mp member with earlier | later
  · exact left entry earlier
  · exact right entry later

theorem Inner.ofDispatch {trace : Journal} (inner : trace.Inner) : trace.OfDispatch := by
  intro entry member
  have selected := inner entry member
  cases entry <;> first | exact selected | rfl

theorem OfDispatch.append {first second : Journal} (left : first.OfDispatch)
    (right : second.OfDispatch) : OfDispatch (first ++ second) := by
  intro entry member
  rcases List.mem_append.mp member with earlier | later
  · exact left entry earlier
  · exact right entry later

theorem OfDispatch.nil : OfDispatch [] := by
  intro entry member
  cases member

theorem OfDispatch.cons {entry : Occurrence} {rest : Journal}
    (selected : entry.isOfDispatch = true) (ofDispatch : rest.OfDispatch) :
    OfDispatch (entry :: rest) :=
  List.forall_mem_cons.mpr ⟨selected, ofDispatch⟩

theorem Plain.nil : Plain [] := by
  intro entry member
  cases member

theorem Plain.cons {entry : Occurrence} {rest : Journal} (selected : entry.isPlain = true)
    (plain : rest.Plain) : Plain (entry :: rest) :=
  List.forall_mem_cons.mpr ⟨selected, plain⟩

theorem Plain.append {first second : Journal} (left : first.Plain) (right : second.Plain) :
    Plain (first ++ second) := by
  intro entry member
  rcases List.mem_append.mp member with earlier | later
  · exact left entry earlier
  · exact right entry later

theorem Plain.clerical {trace : Journal} (plain : trace.Plain) : trace.Clerical := by
  intro entry member
  have selected := plain entry member
  cases entry <;> first | exact selected | rfl

theorem Clerical.single {entry : Occurrence} (selected : entry.isClerical = true) :
    Clerical [entry] := by
  intro other member
  rw [List.mem_singleton.mp member]
  exact selected

/-- A view by selection misses a trace all of whose entries it misses. -/
private theorem filterMap_eq_nil {α : Type} {trace : Journal} {class? : Occurrence → Bool}
    {view : Occurrence → Option α} (all : ∀ entry ∈ trace, class? entry = true)
    (misses : ∀ entry, class? entry = true → view entry = none) : trace.filterMap view = [] := by
  apply List.filterMap_eq_nil_iff.mpr
  intro entry member
  exact misses entry (all entry member)

/-- A stretch within a dispatch begins no other. -/
theorem Inner.begun_eq {trace : Journal} (inner : trace.Inner) : trace.begun = [] := by
  apply filterMap_eq_nil inner
  intro entry selected
  cases entry <;> first | rfl | cases selected

namespace OfDispatch

variable {trace : Journal} (ofDispatch : trace.OfDispatch)
include ofDispatch

theorem accepted_eq : trace.accepted = [] := by
  apply filterMap_eq_nil ofDispatch
  intro entry selected
  cases entry <;> first | rfl | cases selected

theorem taken_eq : trace.taken = [] := by
  apply filterMap_eq_nil ofDispatch
  intro entry selected
  cases entry <;> first | rfl | cases selected

theorem aside : trace.Aside := by
  refine ⟨⟨?_, ?_⟩, ?_⟩
  · apply filterMap_eq_nil ofDispatch
    intro entry selected
    cases entry <;> first | rfl | cases selected
  · apply filterMap_eq_nil ofDispatch
    intro entry selected
    cases entry <;> first | rfl | cases selected
  · apply filterMap_eq_nil ofDispatch
    intro entry selected
    cases entry with
    | logged notice => cases notice <;> first | rfl | cases selected
    | _ => rfl

theorem dispatches_eq : trace.dispatches = trace := List.filter_eq_self.mpr ofDispatch

theorem tally_drained_eq : trace.tally .drained = 0 := by
  have unseen : trace.filterMap (Occurrence.amount? .drained) = [] := by
    apply filterMap_eq_nil ofDispatch
    intro entry selected
    cases entry with
    | counted counter amount => cases counter <;> first | rfl | cases selected
    | _ => rfl
  rw [tally, unseen, List.sum_nil]

end OfDispatch

namespace Clerical

variable {trace : Journal} (clerical : trace.Clerical)
include clerical

theorem begun_eq : trace.begun = [] := by
  apply filterMap_eq_nil clerical
  intro entry selected
  cases entry <;> first | rfl | cases selected

theorem dispatches_eq : trace.dispatches = [] := by
  apply List.filter_eq_nil_iff.mpr
  intro entry member
  have selected := clerical entry member
  cases entry with
  | logged notice =>
      have outside : notice.isOfDispatch = false := by
        simpa [Occurrence.isClerical, Occurrence.isPlain] using selected
      simp only [Occurrence.isOfDispatch, Occurrence.isInner, outside, Bool.false_eq_true,
        not_false_eq_true]
  | accepted _ | refused _ | taken _ | fetched | fetchedWithin _ | reported _ | entered _
  | contact _ =>
      exact Bool.false_ne_true
  | _ => cases selected

theorem tally_eq (counter : Counter) : trace.tally counter = 0 := by
  have unseen : trace.filterMap (Occurrence.amount? counter) = [] := by
    apply filterMap_eq_nil clerical
    intro entry selected
    cases entry <;> first | rfl | cases selected
  rw [tally, unseen, List.sum_nil]

end Clerical

namespace Plain

variable {trace : Journal} (plain : trace.Plain)
include plain

theorem accepted_eq : trace.accepted = [] := by
  apply filterMap_eq_nil plain
  intro entry selected
  cases entry <;> first | rfl | cases selected

theorem taken_eq : trace.taken = [] := by
  apply filterMap_eq_nil plain
  intro entry selected
  cases entry <;> first | rfl | cases selected

end Plain

/-! ## Totals -/

end Journal

namespace Totals

theorem get_cons (rest : Totals) (listed counter : Counter) (value : Nat) :
    get ((listed, value) :: rest) counter = if counter = listed then value else rest.get counter := by
  by_cases asked : counter = listed
  · subst asked
    simp only [get, List.lookup_cons_self, Option.getD_some, if_true]
  · have different : (counter == listed) = false := beq_false_of_ne asked
    simp only [get, List.lookup_cons, different, if_neg asked]

/-- Adding to a counter raises the value of that counter and no other. -/
theorem get_add (totals : Totals) (counter other : Counter) (amount : Nat) :
    (totals.add other amount).get counter =
      totals.get counter + if other = counter then amount else 0 := by
  induction totals with
  | nil =>
      rw [add, get_cons]
      by_cases same : other = counter
      · simp [same, get]
      · simp [same, Ne.symm same]
  | cons entry rest inductionHypothesis =>
      rcases entry with ⟨listed, value⟩
      by_cases found : listed = other
      · rw [add, if_pos found, get_cons, get_cons]
        by_cases same : other = counter <;> simp [found, same, Ne.symm]
      · rw [add, if_neg found, get_cons, get_cons, inductionHypothesis]
        by_cases asked : counter = listed
        · have different : ¬ other = counter := by
            intro equal
            exact found (asked.symm.trans equal.symm)
          simp only [if_pos asked, if_neg different, Nat.add_zero]
        · simp only [if_neg asked]

end Totals

namespace Journal

/-- The value of a counter is the sum of what was added to it. -/
theorem get_totals (journal : Journal) (counter : Counter) :
    journal.totals.get counter = journal.tally counter := by
  suffices grown : ∀ totals : Totals,
      (journal.foldl (fun totals entry =>
        match entry with
        | .counted other amount => totals.add other amount
        | _ => totals) totals).get counter = totals.get counter + journal.tally counter by
    have start := grown []
    rwa [show Totals.get [] counter = 0 from rfl, Nat.zero_add] at start
  induction journal with
  | nil =>
      intro totals
      rfl
  | cons entry rest inductionHypothesis =>
      intro totals
      have split : tally counter (entry :: rest) = tally counter [entry] + tally counter rest :=
        tally_append [entry] rest counter
      rw [List.foldl_cons, inductionHypothesis, split, ← Nat.add_assoc]
      cases entry with
      | counted other amount =>
          rw [Totals.get_add]
          by_cases same : other = counter <;> simp [tally, Occurrence.amount?, same]
      | _ => rfl

end Journal
end FailureDispatch

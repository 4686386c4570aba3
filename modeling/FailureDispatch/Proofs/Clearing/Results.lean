import FailureDispatch.Proofs.Dispatch.Bounds
import FailureDispatch.Proofs.Loop.Results
import Mathlib.Data.List.Induction

/-!
# What the results of a drain call for

The drain calls its queue within a limit, again and again.  A call comes out with a
batch, with nothing, or with an error.  A batch is dispatched and counted, and the next
call is made.  The other two end the drain (`DrainEnd`), and both go by the same accounts:
the number of batches is counted once, the queue is asked once for its statistics, and one
line is written.  Only what that line says, the state of the service, and what is handed
to whoever joins, depend on which of the two it is.

`drained` says what the worker has to write up to there, and `DrainEnd.closing` what he
writes then.  The statistics come in between, in the form that the queue gives them
(`Occurrence.showsFigures`).
-/

namespace FailureDispatch

/-- How the last call of a drain comes out. -/
inductive DrainEnd where
  | nothing
  | error (error : FailureError)
  deriving DecidableEq

/-- How a call of the drain to its queue comes out. -/
inductive Yield where
  | batch (batch : Batch)
  | ending (ending : DrainEnd)
  deriving DecidableEq

namespace DrainEnd

def contact : DrainEnd → Contact
  | nothing => .givesNothing
  | error reason => .fails reason

def notice (count : Nat) : DrainEnd → Notice
  | nothing => .drained count
  | error reason => .drainFailed reason count

/-- The state in which the service ends. -/
def state : DrainEnd → ServiceState
  | nothing => .terminated
  | error _ => .failed

def worker (count : Nat) : DrainEnd → Worker
  | nothing => .done count
  | error reason => .failed reason

/-- What is handed to whoever joins. -/
def result (count : Nat) : DrainEnd → Except FailureError Nat
  | nothing => .ok count
  | error reason => .error reason

variable (ending : DrainEnd) (count : Nat)

theorem isGone_worker : (ending.worker count).isGone = true := by
  cases ending <;> rfl

theorem isTerminal_state : ending.state.isTerminal = true := by
  cases ending <;> rfl

theorem verdict?_worker : (ending.worker count).verdict? = some (ending.result count) := by
  cases ending <;> rfl

theorem canBecome_state : ServiceState.canBecome .stopping ending.state = true := by
  cases ending <;> rfl

/-- What is written when a drain is over. -/
def closing (figures : Occurrence) : Journal :=
  drainTrace ending.contact count figures (ending.notice count) ++ [.entered ending.state]

end DrainEnd

namespace Occurrence

/-- The result of a limited call that an entry records, if it records one. -/
def yield? : Occurrence → Option Yield
  | contact (.gives batch) => some (.batch batch)
  | contact .givesNothing => some (.ending .nothing)
  | contact (.fails error) => some (.ending (.error error))
  | _ => none

/-- Whether the entry is a call of the drain. -/
def isLimitedCall : Occurrence → Bool
  | contact (.waitsWithin _) => true
  | _ => false

/-- Whether the entry counts drained batches. -/
def isDrainCount : Occurrence → Bool
  | counted .drained _ => true
  | _ => false

/-- Whether a service whose drain is over asks its queue for the statistics. -/
def isDrainReport : Occurrence → Bool
  | contact (.reports tag) => tag == Deployment.drainTag
  | _ => false

/-- What a queue makes of a request for its statistics. -/
def showsFigures (tag : String) : Occurrence → Bool
  | logged (.stats shown _) | reported shown => shown == tag
  | _ => false

theorem isOfOthers_of_isLimitedCall (entry : Occurrence) (calls : entry.isLimitedCall = true) :
    entry.isOfOthers = false := by
  cases entry with
  | contact passed => cases passed <;> first | rfl | cases calls
  | _ => cases calls

theorem isOfOthers_of_isDrainCount (entry : Occurrence) (counts : entry.isDrainCount = true) :
    entry.isOfOthers = false := by
  cases entry <;> first | rfl | cases counts

end Occurrence

namespace Journal

/-- The results of limited calls that are recorded, in order. -/
def yields (journal : Journal) : List Yield := journal.filterMap Occurrence.yield?

/-- The queue is not asked for its statistics at the end of a drain. -/
def Unreported (trace : Journal) : Prop := .reports Deployment.drainTag ∉ trace.contacts

@[simp] theorem yields_append (journal trace : Journal) :
    yields (journal ++ trace) = journal.yields ++ trace.yields :=
  List.filterMap_append

theorem yields_own (journal : Journal) : journal.own.yields = journal.yields := by
  have same : (fun entry : Occurrence =>
      if (!entry.isOfOthers) = true then entry.yield? else none) = Occurrence.yield? := by
    funext entry
    cases entry with
    | contact passed => cases passed <;> rfl
    | _ => exact ite_self _
  rw [yields, own, List.filterMap_filter, same]
  rfl

theorem OfOthers.yields_eq {trace : Journal} (others : trace.OfOthers) : trace.yields = [] := by
  rw [← yields_own, others.own_eq]
  rfl

theorem OfDispatch.yields_eq {trace : Journal} (ofDispatch : trace.OfDispatch) :
    trace.yields = [] := by
  apply List.filterMap_eq_nil_iff.mpr
  intro entry member
  have inside := ofDispatch entry member
  cases entry with
  | contact passed => cases inside
  | _ => rfl

namespace Unreported

variable {trace rest : Journal}

theorem append (earlier : trace.Unreported) (later : rest.Unreported) :
    Unreported (trace ++ rest) := by
  unfold Unreported
  rw [contacts_append]
  intro reported
  rcases List.mem_append.mp reported with first | second
  · exact earlier first
  · exact later second

theorem of_aside (aside : trace.Aside) : trace.Unreported := by
  unfold Unreported
  rw [aside.contacts_eq]
  exact List.not_mem_nil

/-- Where no report is, none is found. -/
theorem filter_eq (unreported : trace.Unreported) : trace.filter Occurrence.isDrainReport = [] := by
  apply List.filter_eq_nil_iff.mpr
  intro entry member reports
  cases entry with
  | contact passed =>
      cases passed with
      | reports tag =>
          have same : tag = Deployment.drainTag := beq_iff_eq.mp reports
          rw [same] at member
          exact unreported (List.mem_filterMap.mpr ⟨_, member, rfl⟩)
      | _ => cases reports
  | _ => cases reports

end Unreported
end Journal

/-! ## The closing of the accounts -/

theorem Occurrence.showsFigures_cases {tag : String} {figures : Occurrence}
    (shows : figures.showsFigures tag = true) :
    (∃ stats, figures = .logged (.stats tag stats)) ∨ figures = .reported tag := by
  cases figures with
  | logged notice =>
      cases notice with
      | stats shown stats =>
          rw [show shown = tag from beq_iff_eq.mp shows]
          exact Or.inl ⟨stats, rfl⟩
      | _ => cases shows
  | reported shown =>
      rw [show shown = tag from beq_iff_eq.mp shows]
      exact Or.inr rfl
  | _ => cases shows

namespace DrainEnd

section Closing

variable (ending : DrainEnd) (count : Nat) {figures : Occurrence}
  (shows : figures.showsFigures Deployment.drainTag = true)
include shows

theorem yields_closing : (ending.closing count figures).yields = [.ending ending] := by
  rcases figures.showsFigures_cases shows with ⟨stats, rfl⟩ | rfl <;> cases ending <;> rfl

theorem dispatches_closing : (ending.closing count figures).dispatches = [] := by
  rcases figures.showsFigures_cases shows with ⟨stats, rfl⟩ | rfl <;> cases ending <;> rfl

theorem limitedCalls_closing :
    (ending.closing count figures).countP Occurrence.isLimitedCall = 0 := by
  rcases figures.showsFigures_cases shows with ⟨stats, rfl⟩ | rfl <;> cases ending <;> rfl

/-- The batches are counted once. -/
theorem drainCounts_closing : (ending.closing count figures).filter Occurrence.isDrainCount =
    [.counted .drained count] := by
  rcases figures.showsFigures_cases shows with ⟨stats, rfl⟩ | rfl <;> cases ending <;> rfl

/-- The queue is asked for its statistics once. -/
theorem drainReports_closing : (ending.closing count figures).filter Occurrence.isDrainReport =
    [.contact (.reports Deployment.drainTag)] := by
  rcases figures.showsFigures_cases shows with ⟨stats, rfl⟩ | rfl <;> cases ending <;>
    simp [closing, drainTrace, contact, Occurrence.isDrainReport]

end Closing

end DrainEnd

/-- What a call of the drain to its queue leaves.  Only a scripted queue observes it. -/
def Source.drainCall (limit : Nat) : Source → Journal
  | .buffered _ => [.contact (.waitsWithin limit)]
  | .scripted _ => [.contact (.waitsWithin limit), .fetchedWithin limit]

theorem Source.Becomes.drainCall_eq {source later : Source} (becomes : source.Becomes later)
    (limit : Nat) : later.drainCall limit = source.drainCall limit := by
  cases becomes <;> rfl

/-- All of a dispatch is of the dispatch. -/
theorem Staff.ofDispatch_serve (staff : Staff) (batch : Batch) :
    (staff.serve batch).trace.OfDispatch := by
  rcases staff.serve_bounded batch with ⟨calls, inner, whole⟩
  rw [whole]
  exact .cons rfl (inner.ofDispatch.append (.cons rfl .nil))

namespace Deployment

/-! ## The reference -/

/-- What a call of the drain leaves. -/
def drainCall (deployment : Deployment) : Journal :=
  deployment.source.drainCall deployment.service.drainWait

/-- What the worker has to have written when he has done what the batches call for. -/
def drained (left : Deployment) (batches : List Batch) : Account :=
  left.service.staff.attend left.drainCall (batches.map Result.batch)

/-- What he has to have written when he has called the queue once more. -/
def drainedAndCalled (left : Deployment) (batches : List Batch) : Account :=
  (left.drained batches).andThen fun staff => ⟨left.drainCall, staff⟩

section Reference

variable (left : Deployment) (batches : List Batch)

theorem drained_concat (batch : Batch) :
    left.drained (batches ++ [batch]) =
      (left.drainedAndCalled batches).andThen fun staff =>
        (Account.mk [.contact (.gives batch)] staff).andThen fun staff => staff.serve batch := by
  rw [drained, List.map_append, List.map_singleton, Staff.attend_concat]
  simp only [drainedAndCalled, drained, Staff.meet, Account.andThen, List.append_assoc]

theorem trace_drainedAndCalled :
    (left.drainedAndCalled batches).trace = (left.drained batches).trace ++ left.drainCall := rfl

theorem trace_drained_concat (batch : Batch) :
    (left.drained (batches ++ [batch])).trace =
      (left.drained batches).trace ++ left.drainCall ++ (.contact (.gives batch) ::
        ((left.drained batches).staff.serve batch).trace) := by
  rw [drained_concat]
  rfl

/-! ### What a call leaves -/

theorem own_drainCall : left.drainCall.own = left.drainCall := by
  unfold drainCall
  cases left.source <;> rfl

theorem unreported_drainCall : left.drainCall.Unreported := by
  intro reported
  have calls : left.drainCall.contacts = [.waitsWithin left.service.drainWait] := by
    unfold drainCall
    cases left.source <;> rfl
  rw [calls] at reported
  cases List.mem_singleton.mp reported

theorem yields_drainCall : left.drainCall.yields = [] := by
  unfold drainCall
  cases left.source <;> rfl

theorem dispatches_drainCall : left.drainCall.dispatches = [] := by
  unfold drainCall
  cases left.source <;> rfl

theorem drainCounts_drainCall : left.drainCall.filter Occurrence.isDrainCount = [] := by
  unfold drainCall
  cases left.source <;> rfl

theorem limitedCalls_drainCall : left.drainCall.countP Occurrence.isLimitedCall = 1 := by
  unfold drainCall
  cases left.source <;> rfl

/-! ### What the batches leave -/

theorem yields_drained : (left.drained batches).trace.yields = batches.map Yield.batch := by
  induction batches using List.reverseRecOn with
  | nil => rfl
  | append_singleton earlier batch inductionHypothesis =>
      have given (trace : Journal) : Journal.yields (.contact (.gives batch) :: trace) =
          .batch batch :: trace.yields := rfl
      rw [trace_drained_concat, Journal.yields_append, Journal.yields_append, inductionHypothesis,
        yields_drainCall, given, (Staff.ofDispatch_serve _ batch).yields_eq, List.append_nil,
        List.map_append]
      rfl

theorem staff_drained :
    (left.drained batches).staff = (left.service.staff.serveAll batches).staff := by
  induction batches using List.reverseRecOn with
  | nil => rfl
  | append_singleton earlier batch inductionHypothesis =>
      have served : (left.drained (earlier ++ [batch])).staff =
          ((left.drained earlier).staff.serve batch).staff := by
        rw [drained_concat]
        rfl
      rw [served, inductionHypothesis, Staff.serveAll_concat]
      rfl

theorem dispatches_drained :
    (left.drained batches).trace.dispatches = (left.service.staff.serveAll batches).trace := by
  induction batches using List.reverseRecOn with
  | nil => rfl
  | append_singleton earlier batch inductionHypothesis =>
      have given (trace : Journal) : Journal.dispatches (.contact (.gives batch) :: trace) =
          trace.dispatches := rfl
      rw [trace_drained_concat, Journal.dispatches_append, Journal.dispatches_append,
        inductionHypothesis, dispatches_drainCall, given,
        (Staff.ofDispatch_serve _ batch).dispatches_eq, List.append_nil, staff_drained,
        Staff.serveAll_concat]
      rfl

theorem limitedCalls_drained :
    (left.drained batches).trace.countP Occurrence.isLimitedCall = batches.length := by
  induction batches using List.reverseRecOn with
  | nil => rfl
  | append_singleton earlier batch inductionHypothesis =>
      have inside (staff : Staff) :
          (staff.serve batch).trace.countP Occurrence.isLimitedCall = 0 := by
        apply List.countP_eq_zero.mpr
        intro entry member calls
        have ofDispatch := Staff.ofDispatch_serve staff batch entry member
        cases entry with
        | contact _ => cases ofDispatch
        | _ => cases calls
      rw [trace_drained_concat, List.countP_append, List.countP_append, inductionHypothesis,
        limitedCalls_drainCall, List.countP_cons_of_neg Bool.false_ne_true, inside,
        List.length_append]
      rfl

theorem drainCounts_drained :
    (left.drained batches).trace.filter Occurrence.isDrainCount = [] := by
  induction batches using List.reverseRecOn with
  | nil => rfl
  | append_singleton earlier batch inductionHypothesis =>
      have inside (staff : Staff) :
          (staff.serve batch).trace.filter Occurrence.isDrainCount = [] := by
        apply List.filter_eq_nil_iff.mpr
        intro entry member counts
        have ofDispatch := Staff.ofDispatch_serve staff batch entry member
        cases entry with
        | counted counter _ =>
            cases counter with
            | drained => cases ofDispatch
            | _ => cases counts
        | _ => cases counts
      rw [trace_drained_concat, List.filter_append, List.filter_append, inductionHypothesis,
        drainCounts_drainCall, List.filter_cons_of_neg Bool.false_ne_true, inside]
      rfl

/-- What the batches leave counts no drain. -/
theorem drainCounts_drainedAndCalled :
    (left.drainedAndCalled batches).trace.filter Occurrence.isDrainCount = [] := by
  rw [trace_drainedAndCalled, List.filter_append, drainCounts_drained, drainCounts_drainCall,
    List.append_nil]

end Reference

/-! ## The results that have come -/

/-- What has been written since. -/
def writtenSince (left reached : Deployment) : Journal := reached.journal.drop left.journal.length

/-- The results of limited calls that have come since. -/
def yieldsSince (left reached : Deployment) : List Yield := (writtenSince left reached).yields

theorem writtenSince_eq {left reached : Deployment} {trace : Journal}
    (journal : reached.journal = left.journal ++ trace) : writtenSince left reached = trace := by
  rw [writtenSince, journal, List.drop_left]

theorem yieldsSince_trans {left before after : Deployment} {earlier later : Journal}
    (first : before.journal = left.journal ++ earlier)
    (second : after.journal = before.journal ++ later) :
    yieldsSince left after = yieldsSince left before ++ later.yields := by
  have whole : after.journal = left.journal ++ (earlier ++ later) := by
    rw [second, first, List.append_assoc]
  rw [yieldsSince, yieldsSince, writtenSince_eq first, writtenSince_eq whole, Journal.yields_append]

end Deployment
end FailureDispatch

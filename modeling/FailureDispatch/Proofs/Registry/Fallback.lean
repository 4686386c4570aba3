import FailureDispatch.Proofs.Registry.Runtime

/-!
# The logging fallback

A registry that was given no other fallback keeps the logging handler.  It supports every
batch, so each batch is selected by somebody, and none is discarded.

What an operator can notice of a batch is a view of the journal: warnings in the log, calls
of the acknowledger, and the count of dropped batches.  The view of a whole dispatch is put
together from those of the calls in it, because questions leave nothing in it
(`remarks_dispatchTrace`).  With the logging fallback the view of a batch that no registered
handler matches is the same whatever the staff is: its failures, one by one, and then its
references.

The warnings do not name the handler that wrote them.  A logging handler may also be
registered, and then it writes the same lines for the batches that it is given.  So for a
batch that somebody matches it is said whose lines they all are, and that the fallback,
which is not called, wrote none of them.
-/

namespace FailureDispatch

/-- What an operator notices of a batch. -/
inductive Remark where
  /-- A line of the log on the level of warnings. -/
  | warned (text : String) (fields : List (String × FieldValue))
  | acknowledged (refs : List String)
  | dropped (type : FailureType) (amount : Nat)
  deriving DecidableEq

namespace Remark

def isWarning : Remark → Bool
  | warned _ _ => true
  | acknowledged _ | dropped _ _ => false

end Remark

namespace Occurrence

def remark? : Occurrence → Option Remark
  | logged notice =>
      if notice.level = .warn then some (.warned notice.text notice.fields) else none
  | acknowledged refs => some (.acknowledged refs)
  | counted (.dropped type) amount => some (.dropped type amount)
  | _ => none

end Occurrence

namespace Journal

/-- What an operator notices, in order. -/
def remarks (journal : Journal) : List Remark := journal.filterMap Occurrence.remark?

theorem remarks_append (first second : Journal) :
    remarks (first ++ second) = first.remarks ++ second.remarks :=
  List.filterMap_append

/-- Nobody notices a question, nor a panic over one except as an error. -/
theorem Questions.remarks_eq {trace : Journal} (questions : trace.Questions) :
    trace.remarks = [] := by
  apply List.filterMap_eq_nil_iff.mpr
  intro entry member
  have selected := questions entry member
  cases entry with
  | logged notice => cases notice <;> first | rfl | cases selected
  | counted counter _ => cases counter <;> first | rfl | cases selected
  | _ => first | rfl | cases selected

theorem dropped_mem_remarks {journal : Journal} {type : FailureType} {amount : Nat}
    (counted : .counted (.dropped type) amount ∈ journal) :
    .dropped type amount ∈ journal.remarks :=
  List.mem_filterMap.mpr ⟨_, counted, rfl⟩

end Journal

/-- The line that the logging handler writes about a failure. -/
def Failure.warning (failure : Failure) : Remark :=
  .warned failure.message
    [("failure_type", .text failure.type.text), ("unit_id", .text failure.unit.id),
      ("cause", .text failure.cause), ("target", .text (failure.target.getD "-"))]

/-- The call of the acknowledger, which is left out if a unit fails to give its reference. -/
def Batch.receipt (batch : Batch) : List Remark := batch.ackRefs.toList.map .acknowledged

/-! ## One call -/

namespace Handler

variable (handler : Handler) (batch : Batch)

/-- The lines that a handler writes about a batch that it is given. -/
def lines : List Remark := if handler.isScripted then [] else batch.failures.map Failure.warning

/-- What an operator notices of the call of a handler. -/
def remarks : List Remark :=
  handler.lines batch ++ if handler.acknowledges batch then batch.receipt else []

theorem remarks_handing : Journal.remarks (handler.handing batch) = handler.lines batch := by
  rcases handler with ⟨name, _ | _⟩
  · show (batch.failures.map fun failure => Occurrence.logged (.failure failure)).filterMap
      Occurrence.remark? = batch.failures.map Failure.warning
    rw [List.filterMap_map]
    exact congrFun List.filterMap_eq_map batch.failures
  · rfl

/-- A call that comes to nothing is reported as an error, not as a warning. -/
theorem remarks_faultTrace (error : FailureError) :
    Journal.remarks (handler.faultTrace batch error) = [] := rfl

theorem remarks_callTrace (reaction : Conclusion) :
    Journal.remarks (handler.callTrace batch reaction) = handler.remarks batch := by
  unfold callTrace remarks acknowledges Batch.receipt
  rw [Journal.remarks_append, remarks_handing]
  congr 1
  cases handler.verdict with
  | failure error => exact handler.remarks_faultTrace batch error
  | panic => exact handler.remarks_faultTrace batch _
  | success =>
      cases batch.ackRefs with
      | none => exact handler.remarks_faultTrace batch _
      | some refs =>
          dsimp only
          rw [Journal.remarks_append]
          split
          · rw [remarks_faultTrace]
            rfl
          · rfl

/-- Whatever an operator notices of a call is a failure's line or the receipt. -/
theorem remark_cases {remark : Remark} (noticed : remark ∈ handler.remarks batch) :
    (∃ failure ∈ batch.failures, remark = failure.warning) ∨
      ∃ refs, batch.ackRefs = some refs ∧ remark = .acknowledged refs := by
  unfold remarks lines Batch.receipt at noticed
  rcases List.mem_append.mp noticed with line | receipt
  · split at line
    · cases line
    · rcases List.mem_map.mp line with ⟨failure, member, same⟩
      exact Or.inl ⟨failure, member, same.symm⟩
  · split at receipt
    · rcases List.mem_map.mp receipt with ⟨refs, member, same⟩
      exact Or.inr ⟨refs, Option.mem_toList.mp member, same.symm⟩
    · cases receipt

/-- The lines are all the warnings that come of a call. -/
theorem warnings_remarks : (handler.remarks batch).filter (·.isWarning) = handler.lines batch := by
  have lines : (handler.lines batch).filter (·.isWarning) = handler.lines batch := by
    apply List.filter_eq_self.mpr
    intro remark member
    unfold Handler.lines at member
    split at member
    · cases member
    · rcases List.mem_map.mp member with ⟨failure, _, same⟩
      rw [← same]
      rfl
  have receipt : (if handler.acknowledges batch then batch.receipt else []).filter
      (·.isWarning) = [] := by
    apply List.filter_eq_nil_iff.mpr
    intro remark member
    split at member
    · rcases List.mem_map.mp member with ⟨refs, _, same⟩
      rw [← same]
      exact Bool.false_ne_true
    · cases member
  rw [remarks, List.filter_append, lines, receipt, List.append_nil]

/-- The logging handler writes all its lines and succeeds. -/
theorem remarks_logging :
    logging.remarks batch = batch.failures.map Failure.warning ++ batch.receipt := by
  unfold remarks acknowledges Batch.receipt
  cases batch.ackRefs <;> rfl

end Handler

/-! ## One dispatch -/

namespace Staff

theorem remarks_callsTrace (batch : Batch) (called : List Handler) (acknowledger : Script) :
    Journal.remarks (callsTrace batch called acknowledger) =
      called.flatMap (·.remarks batch) := by
  induction called generalizing acknowledger with
  | nil => rfl
  | cons handler rest inductionHypothesis =>
      simp only [callsTrace, Journal.remarks_append, Handler.remarks_callTrace,
        inductionHypothesis, List.flatMap_cons]

/-- What an operator notices of a dispatch: that the batch is discarded, or what he notices
of the calls. -/
theorem remarks_dispatchTrace (staff : Staff) (batch : Batch) :
    Journal.remarks (staff.dispatchTrace batch) =
      if staff.selected batch = [] then
        Journal.remarks [.logged (.discarded batch.type batch.size),
          .counted (.dropped batch.type) 1]
      else (staff.selected batch).flatMap (·.remarks batch) := by
  have asked := (staff.questions_questions batch).remarks_eq
  have opening (rest : Journal) :
      Journal.remarks (.dispatchBegun batch :: rest) = rest.remarks := rfl
  have ending : Journal.remarks [.dispatchEnded batch] = [] := rfl
  have handled (rest : Journal) :
      Journal.remarks (.counted (.handled batch.type) 1 :: rest) = rest.remarks := rfl
  unfold dispatchTrace
  rw [opening, Journal.remarks_append, Journal.remarks_append, asked, ending, List.append_nil,
    List.nil_append, apply_ite Journal.remarks, handled, remarks_callsTrace]

/-! ## A staff that falls back on the log -/

/-- What an operator notices of the dispatch of a batch if nothing is dropped silently. -/
structure Recorded (staff : Staff) (batch : Batch) (trace : Journal) : Prop where
  /-- The failures of a batch that nobody matches are logged, and then acknowledged. -/
  unmatched : ¬ staff.Matched batch →
    trace.remarks = batch.failures.map Failure.warning ++ batch.receipt
  /-- A batch that somebody matches is not given to the fallback, and all lines that are
  written about it are those of the registered handlers that match. -/
  matched : staff.Matched batch →
    .fallback ∉ (Selection.choose staff.handlers staff.fallback batch).chosen ∧
      trace.remarks.filter (·.isWarning) =
        (staff.handlers.filter (·.suits batch)).flatMap (·.lines batch)
  kept : ∀ type amount, .dropped type amount ∉ trace.remarks

section Logging

variable {staff : Staff} (logging : staff.fallback = .logging)
include logging

/-- Whoever is called for the batch, it is not discarded. -/
theorem selected_eq_of_logging (batch : Batch) :
    staff.selected batch =
      if staff.primary batch = [] then [.logging] else staff.primary batch := by
  unfold selected
  rw [logging]
  exact if_congr Iff.rfl (if_pos rfl) rfl

theorem selected_ne_nil_of_logging (batch : Batch) : staff.selected batch ≠ [] := by
  rw [selected_eq_of_logging logging]
  split
  · exact List.cons_ne_nil _ _
  · assumption

end Logging

/-- Only a batch that nobody is given is dropped. -/
theorem dropped_not_mem_of_selected {staff : Staff} {batch : Batch}
    (selected : staff.selected batch ≠ []) (type : FailureType) (amount : Nat) :
    .dropped type amount ∉ Journal.remarks (staff.dispatchTrace batch) := by
  rw [remarks_dispatchTrace, if_neg selected]
  intro member
  rcases List.mem_flatMap.mp member with ⟨handler, _, noticed⟩
  rcases handler.remark_cases batch noticed with ⟨_, _, impossible⟩ | ⟨_, _, impossible⟩
  · cases impossible
  · cases impossible

section Logging

variable {staff : Staff} (logging : staff.fallback = .logging)
include logging

theorem recorded_of_logging (batch : Batch) :
    staff.Recorded batch (staff.dispatchTrace batch) := by
  have selected := selected_ne_nil_of_logging logging batch
  have remarks := staff.remarks_dispatchTrace batch
  rw [if_neg selected, selected_eq_of_logging logging] at remarks
  refine ⟨?_, ?_, dropped_not_mem_of_selected selected⟩
  · intro nobody
    rw [remarks, if_pos ((staff.primary_eq_nil_iff batch).mpr nobody), List.flatMap_singleton,
      Handler.remarks_logging]
  · intro matched
    have filled : staff.primary batch ≠ [] :=
      fun none => (staff.primary_eq_nil_iff batch).mp none matched
    refine ⟨fun member => (staff.chosen_of_somebody batch filled).2 _ member rfl, ?_⟩
    rw [remarks, if_neg filled]
    simp only [List.filter_flatMap, Handler.warnings_remarks]
    rfl

/-- A logging fallback stays what it is. -/
theorem fallback_serveAll_of_logging (batches : List Batch) :
    (staff.serveAll batches).staff.fallback = .logging := by
  induction batches generalizing staff with
  | nil => exact logging
  | cons batch rest inductionHypothesis =>
      apply inductionHypothesis
      rw [staff_serve, logging]
      exact ite_self _

/-- The dispatches of a staff that falls back on the log drop nothing. -/
theorem dropped_not_mem_serveAll (batches : List Batch) (type : FailureType) (amount : Nat) :
    .dropped type amount ∉ Journal.remarks (staff.serveAll batches).trace := by
  induction batches generalizing staff with
  | nil => exact List.not_mem_nil
  | cons batch rest inductionHypothesis =>
      have later := fallback_serveAll_of_logging logging [batch]
      show _ ∉ Journal.remarks ((staff.serve batch).trace ++
        ((staff.serve batch).staff.serveAll rest).trace)
      rw [Journal.remarks_append, trace_serve]
      intro member
      rcases List.mem_append.mp member with here | there
      · exact (recorded_of_logging logging batch).kept type amount here
      · exact inductionHypothesis later there

end Logging
end Staff

/-! ## A runtime whose registry kept the fallback -/

namespace HandlerRegistry

open Deployment

/-- With the logging fallback nothing is silently dropped, whatever handlers are registered
and whatever happens to the runtime.  No batch is counted as dropped.  For each batch whose
dispatch has begun, the journal has a part of its own; of a batch that no registered handler
matches this part shows one line for each failure, in order, and then exactly one call of the
acknowledger with its references unless a unit panics over its own, and of any other batch
it shows no line of the fallback.  Only the last part may lack its end, while the batch is in
hand. -/
theorem nothing_silently_dropped {settings : Settings} {registry : HandlerRegistry}
    {acknowledger : Script} {origin reached : Deployment}
    (made : assemble settings registry acknowledger = .ok origin)
    (kept : registry.fallback = .logging) (reaches : Reaches true origin reached) :
    (∀ type amount, .counted (.dropped type) amount ∉ reached.journal) ∧
      ∀ earlier batch later, reached.journal.begun = earlier ++ batch :: later →
        ∃ staff part rest,
          staff = (Staff.serveAll earlier
            ⟨registry.handlers, registry.fallback, acknowledger⟩).staff ∧
          reached.journal.dispatches = (Staff.serveAll earlier
            ⟨registry.handlers, registry.fallback, acknowledger⟩).trace ++ part ++ rest ∧
          staff.Recorded batch (staff.dispatchTrace batch) ∧
          part <+: staff.dispatchTrace batch ∧
          (part = staff.dispatchTrace batch ∨ rest = [] ∧ later = [] ∧ ∃ phase dispatch,
            reached.service.worker = .dispatching phase dispatch ∧ dispatch.batch = batch) := by
  have inOrder := inOrder_of_reaches made reaches
  refine ⟨?_, ?_⟩
  · intro type amount counted
    rcases Standing.bounds inOrder with ⟨_, ⟨rest, whole⟩, _⟩
    have inside : .counted (.dropped type) amount ∈ reached.journal.dispatches :=
      List.mem_filter.mpr ⟨counted, rfl⟩
    have member : .counted (.dropped type) amount ∈ (Staff.serveAll reached.journal.begun
        ⟨registry.handlers, registry.fallback, acknowledger⟩).trace := by
      rw [← whole]
      exact List.mem_append_left rest inside
    exact Staff.dropped_not_mem_serveAll kept _ type amount (Journal.dropped_mem_remarks member)
  · intro earlier batch later begun
    rcases inOrder.part begun with ⟨part, rest, whole, prefixed, ends⟩
    have logging : (Staff.serveAll earlier
        ⟨registry.handlers, registry.fallback, acknowledger⟩).staff.fallback = .logging :=
      Staff.fallback_serveAll_of_logging kept earlier
    exact ⟨_, part, rest, rfl, whole, Staff.recorded_of_logging logging batch, prefixed, ends⟩

/-- A batch of two failures.  One unit can be acknowledged, and one failure has a target. -/
def mixedUnits : Draft :=
  ⟨.processing,
    [{ type := .processing, cause := "timeout", message := "no answer", target := some "archive"
       unit := ⟨"m", .ref "q"⟩ },
      { type := .processing, cause := "parse", message := "bad record", unit := .plain "raw" }]⟩

/-- The batch, formed. -/
def mixedBatch : Batch :=
  ⟨.processing, mixedUnits.failures, List.cons_ne_nil _ _, by decide⟩

/-- One handler panics when it is asked whether it supports a batch, and another one when it
is asked for the second time whether it is enabled. -/
def skittish : List Request :=
  [.register ⟨"broken", .scripted .panic none ⟨[]⟩⟩,
    .register ⟨"timid", .scripted .all (some ⟨[.yes, .panic]⟩) ⟨[]⟩⟩]

/-- The runtime after two batches have been dispatched. -/
def skittishRun : Deployment :=
  ((runtimeOf (outcome skittish)).run 0
    [some (.trySubmit .single), some (.trySubmit mixedUnits), some .settle]).2

/-- The first batch finds a handler that is given it, and the second leaves two lines and a
receipt. -/
theorem nothing_silently_dropped_skittish :
    assemble {} (outcome skittish) ⟨[]⟩ = .ok (runtimeOf (outcome skittish)) ∧
      (outcome skittish).fallback = .logging ∧
      Reaches true (runtimeOf (outcome skittish)) skittishRun ∧
      skittishRun.journal.begun = [formed, mixedBatch] ∧
      (∀ type amount, .counted (.dropped type) amount ∉ skittishRun.journal) ∧
      ∃ staff part rest, ¬ Staff.Matched staff mixedBatch ∧
        skittishRun.journal.dispatches = (Staff.serveAll [formed]
          ⟨(outcome skittish).handlers, .logging, ⟨[]⟩⟩).trace ++ part ++ rest ∧
        part.remarks =
          [.warned "no answer"
              [("failure_type", .text "processing"), ("unit_id", .text "m"),
                ("cause", .text "timeout"), ("target", .text "archive")],
            .warned "bad record"
              [("failure_type", .text "processing"), ("unit_id", .text "raw"),
                ("cause", .text "parse"), ("target", .text "-")],
            .acknowledged ["q"]] := by
  have made : assemble {} (outcome skittish) ⟨[]⟩ = .ok (runtimeOf (outcome skittish)) := by rfl
  have kept : (outcome skittish).fallback = .logging := by rfl
  have reaches : Reaches true (runtimeOf (outcome skittish)) skittishRun :=
    reaches_of_assemble made _
  have begun : skittishRun.journal.begun = [formed] ++ mixedBatch :: [] := by decide +kernel
  have free : skittishRun.service.worker.isFree = true := by decide +kernel
  rcases nothing_silently_dropped made kept reaches with ⟨undropped, dispatches⟩
  rcases dispatches [formed] mixedBatch [] begun with
    ⟨staff, part, rest, same, whole, recorded, _, ends⟩
  have unmatched : ¬ staff.Matched mixedBatch := by
    rw [same]
    unfold Staff.Matched
    decide +kernel
  have complete : part = staff.dispatchTrace mixedBatch := by
    rcases ends with complete | ⟨_, _, phase, dispatch, here, _⟩
    · exact complete
    · rw [here] at free
      cases free
  refine ⟨made, kept, reaches, begun, undropped, staff, part, rest, unmatched, ?_, ?_⟩
  · rw [whole, kept]
  · rw [complete, recorded.unmatched unmatched]
    rfl

end HandlerRegistry
end FailureDispatch

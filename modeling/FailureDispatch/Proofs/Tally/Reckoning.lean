import FailureDispatch.Proofs.Dispatch.Opening
import FailureDispatch.Proofs.Tally.Endings

/-!
# The reference is tallied

The endings of a dispatch follow from the staff and its scripts alone.  A handler
is passed over if a question to it panics, a call of a handler concludes as its
script says, and a success with a batch whose references can be had is followed
by a call of the acknowledger.  Nothing in their definition mentions a counter.

Every trace of the reference is tallied with them (`tallied_serveAll`), and so is
the rest of a dispatch that waits in the middle of a call (`tallied_complete`).
-/

namespace FailureDispatch

/-- Whether a handler panics when it is asked about the batch.  One that does
not support the batch is not asked whether it is enabled. -/
def Handler.panicsAsked (handler : Handler) (batch : Batch) : Bool :=
  match handler.supports batch with
  | .panic => true
  | .no => false
  | .yes => handler.isEnabled.1 == .panic

namespace Staff

/-- The handlers that are passed over in the choice for a batch.  The fallback is
asked, whether it supports the batch, when nobody else is chosen. -/
def passedOver (staff : Staff) (batch : Batch) : List Handler :=
  staff.handlers.filter (·.panicsAsked batch) ++
    if (Selection.among batch 0 staff.handlers).chosen.isEmpty ∧
      staff.fallback.supports batch = .panic then [staff.fallback]
    else []

/-- How the acknowledger's next call concludes. -/
def acknowledging (staff : Staff) (name : String) : Conclusion :=
  Action.conclude name (staff.acknowledger.next []).1

/-- The ends of a call whose handler concludes like this. -/
def handlingEndings (staff : Staff) (batch : Batch) (name : String) (conclusion : Conclusion) :
    List Ending :=
  .handled name batch conclusion ::
    match conclusion, batch.ackRefs with
    | .success, some _ => [.acknowledged name batch (staff.acknowledging name)]
    | _, _ => []

def callEndings (staff : Staff) (batch : Batch) (ref : HandlerRef) : List Ending :=
  match staff.handler? ref with
  | none => []
  | some handler =>
      staff.handlingEndings batch handler.name (Action.conclude handler.name handler.begin.1)

def callsEndings (batch : Batch) : List HandlerRef → Staff → List Ending
  | [], _ => []
  | ref :: rest, staff =>
      staff.callEndings batch ref ++ callsEndings batch rest (staff.call batch ref).staff

/-- The ends of all questions and calls in the dispatch of a batch. -/
def serveEndings (staff : Staff) (batch : Batch) : List Ending :=
  let selection := Selection.choose staff.handlers staff.fallback batch
  ((staff.passedOver batch).map fun handler => .passedOver handler.name) ++
    callsEndings batch selection.chosen { staff with handlers := selection.handlers }

def serveAllEndings : List Batch → Staff → List Ending
  | [], _ => []
  | batch :: rest, staff => staff.serveEndings batch ++ serveAllEndings rest (staff.serve batch).staff

/-- The ends that are still to come of a call that waits in the middle. -/
def resumeEndings (staff : Staff) (batch : Batch) : Option Invocation → List Ending
  | none => []
  | some invocation =>
      match staff.handler? invocation.ref with
      | none => []
      | some handler =>
          let conclusion := Action.conclude handler.name invocation.rest
          match invocation.stage with
          | .handling => staff.handlingEndings batch handler.name conclusion
          | .acknowledging => [.acknowledged handler.name batch conclusion]

/-- The ends that are still to come of a dispatch. -/
def completeEndings (staff : Staff) (dispatch : Dispatch) : List Ending :=
  staff.resumeEndings dispatch.batch dispatch.current ++
    callsEndings dispatch.batch dispatch.pending
      (staff.resume dispatch.batch dispatch.current).staff

theorem serveAllEndings_concat (earlier : List Batch) (batch : Batch) (staff : Staff) :
    staff.serveAllEndings (earlier ++ [batch]) =
      staff.serveAllEndings earlier ++ (staff.serveAll earlier).staff.serveEndings batch := by
  induction earlier generalizing staff with
  | nil => exact List.append_nil _
  | cons first rest inductionHypothesis =>
      simp only [List.cons_append, serveAllEndings, inductionHypothesis, List.append_assoc]
      rfl

end Staff

/-! ## Calls -/

namespace Staff

variable (staff : Staff) (batch : Batch) (name : String)

theorem tallied_afterAcknowledging (conclusion : Conclusion) :
    Tallied (staff.afterAcknowledging batch name conclusion).trace []
      [.acknowledged name batch conclusion] := by
  cases conclusion with
  | success | failure _ => exact .of_uncounted (fun _ => rfl) (fun _ => rfl) rfl
  | panic =>
      refine .of_failure ?_ rfl
      intro other
      simp [Ending.isPanicOf, Ending.isFaultOf, List.countP_singleton]

/-- A call that comes to nothing at its handler, or at the references of its
batch. -/
theorem tallied_fault {ending : Ending} (error : FailureError)
    (panics : ∀ other, ending.isPanicOf other = false)
    (faults : ∀ other, ending.isFaultOf other = (name == other))
    (calls : ending.isAcknowledgeable = false) :
    Tallied (staff.fault batch name error).trace [] [ending] := by
  refine .of_failure ?_ calls
  intro other
  simp [List.countP_singleton, panics, faults]

theorem tallied_acknowledge :
    Tallied (staff.acknowledge batch name).trace [] (staff.handlingEndings batch name .success) := by
  cases collected : batch.ackRefs with
  | none =>
      simp only [acknowledge, handlingEndings, collected]
      apply tallied_fault
      · intro other
        rfl
      · intro other
        simp [Ending.isFaultOf, collected]
      · simp [Ending.isAcknowledgeable, collected]
  | some refs =>
      have called : Tallied [.counted .unitsAcknowledged refs.length, .acknowledged refs] []
          [.handled name batch .success] := by
        constructor
        · intro type
          rfl
        · intro other
          have sound : Ending.isFaultOf other (.handled name batch .success) = false := by
            simp only [Ending.isFaultOf, collected, Option.isNone_some, Bool.and_false]
          rw [List.countP_singleton, List.countP_singleton, sound]
          rfl
        · rfl
        · have acknowledged : Ending.isAcknowledgeable (.handled name batch .success) = true := by
            simp only [Ending.isAcknowledgeable, collected, Option.isSome_some]
          rw [List.countP_singleton, acknowledged]
          rfl
      simp only [acknowledge, handlingEndings, collected]
      exact called.append (tallied_afterAcknowledging _ batch name _)

theorem tallied_afterHandling (conclusion : Conclusion) :
    Tallied (staff.afterHandling batch name conclusion).trace []
      (staff.handlingEndings batch name conclusion) := by
  cases conclusion with
  | success => exact staff.tallied_acknowledge batch name
  | failure error => exact staff.tallied_fault batch name error (fun _ => rfl) (fun _ => rfl) rfl
  | panic =>
      exact staff.tallied_fault batch name (.handlerPanicked name) (fun _ => rfl) (fun _ => rfl) rfl

omit name

theorem silent_handing (handler : Handler) :
    ∀ entry ∈ handler.handing batch, entry.isFigure = false := by
  intro entry member
  unfold Handler.handing at member
  split at member
  · rcases List.mem_map.mp member with ⟨failure, _, same⟩
    rw [← same]
    rfl
  · rw [List.mem_singleton.mp member]
    rfl

theorem tallied_call (ref : HandlerRef) :
    Tallied (staff.call batch ref).trace [] (staff.callEndings batch ref) := by
  cases known : staff.handler? ref with
  | none =>
      simp only [call, callEndings, known]
      exact .nil
  | some handler =>
      have same : (staff.setHandler ref handler.begin.2).acknowledging handler.name =
          staff.acknowledging handler.name := by
        cases ref <;> rfl
      have begun := Tallied.of_silent (silent_handing batch handler)
      have handled := tallied_afterHandling (staff.setHandler ref handler.begin.2) batch
        handler.name (Action.conclude handler.name handler.begin.1)
      simp only [handlingEndings, same] at handled
      simp only [call, callEndings, known]
      exact begun.append handled

theorem tallied_callAll (refs : List HandlerRef) :
    Tallied (staff.callAll batch refs).trace [] (staff.callsEndings batch refs) := by
  induction refs generalizing staff with
  | nil => exact .nil
  | cons ref rest inductionHypothesis =>
      exact (staff.tallied_call batch ref).append (inductionHypothesis _)

theorem tallied_callRest (refs : List HandlerRef) :
    Tallied (staff.callRest batch refs).trace [] (staff.callsEndings batch refs) := by
  have ended : Tallied [.dispatchEnded batch] [] [] := .cons rfl .nil
  have called := (staff.tallied_callAll batch refs).append ended
  rw [List.append_nil, List.append_nil] at called
  exact called

theorem tallied_resume (current : Option Invocation) :
    Tallied (staff.resume batch current).trace [] (staff.resumeEndings batch current) := by
  cases current with
  | none => exact .nil
  | some invocation =>
      cases known : staff.handler? invocation.ref with
      | none =>
          simp only [resume, resumeEndings, known]
          exact .nil
      | some handler =>
          simp only [resume, resumeEndings, known]
          cases invocation.stage with
          | handling => exact staff.tallied_afterHandling batch handler.name _
          | acknowledging => exact staff.tallied_afterAcknowledging batch handler.name _

theorem tallied_complete (dispatch : Dispatch) :
    Tallied (staff.complete dispatch).trace [] (staff.completeEndings dispatch) :=
  (staff.tallied_resume _ _).append (tallied_callRest _ _ _)

end Staff

/-! ## Questions -/

namespace Handler

variable (handler : Handler) (batch : Batch)

theorem name_isEnabled : handler.isEnabled.2.name = handler.name := by
  rcases handler with ⟨name, conduct⟩
  rcases conduct with _ | ⟨_, _ | _, _⟩ <;> rfl

theorem silent_askTrace : ∀ entry ∈ handler.askTrace, entry.isFigure = false := by
  unfold askTrace
  split <;> simp [Occurrence.isFigure]

theorem silent_checkTrace : ∀ entry ∈ handler.checkTrace, entry.isFigure = false := by
  unfold checkTrace
  split <;> simp [Occurrence.isFigure]

/-- The trace of questions, with the panic that a verdict stands for. -/
theorem tallied_conclude {trace : Journal} (asked : ∀ entry ∈ trace, entry.isFigure = false)
    (verdict : Verdict) :
    Tallied (handler.conclude batch verdict trace).trace []
      (if verdict = .panic then [.passedOver handler.name] else []) := by
  cases verdict with
  | yes | no => exact .of_silent asked
  | panic =>
      have panicked : Tallied (handler.panicTrace batch) [] [.passedOver handler.name] := by
        refine .of_failure ?_ rfl
        intro other
        simp [Ending.isPanicOf, Ending.isFaultOf, List.countP_singleton]
      exact (Tallied.of_silent asked).append panicked

theorem tallied_poll :
    Tallied (handler.poll batch).trace []
      (if handler.panicsAsked batch then [.passedOver handler.name] else []) := by
  have asked := handler.silent_askTrace
  cases verdict : handler.supports batch with
  | yes =>
      have both : ∀ entry ∈ handler.askTrace ++ handler.checkTrace, entry.isFigure = false := by
        intro entry member
        rcases List.mem_append.mp member with first | second
        · exact asked entry first
        · exact handler.silent_checkTrace entry second
      have tallied := handler.isEnabled.2.tallied_conclude batch both handler.isEnabled.1
      rw [name_isEnabled] at tallied
      simp only [poll, panicsAsked, verdict, beq_iff_eq]
      exact tallied
  | no =>
      simp only [poll, panicsAsked, verdict]
      exact handler.tallied_conclude batch asked .no
  | panic =>
      simp only [poll, panicsAsked, verdict]
      exact handler.tallied_conclude batch asked .panic

end Handler

namespace Staff

variable (staff : Staff) (batch : Batch)

theorem tallied_among (index : Nat) (handlers : List Handler) :
    Tallied (Selection.among batch index handlers).trace []
      ((handlers.filter (·.panicsAsked batch)).map fun handler => .passedOver handler.name) := by
  induction handlers generalizing index with
  | nil => exact .nil
  | cons handler rest inductionHypothesis =>
      have tallied := (handler.tallied_poll batch).append (inductionHypothesis (index + 1))
      rw [List.filter_cons]
      cases panics : handler.panicsAsked batch with
      | true =>
          rw [panics] at tallied
          exact tallied
      | false =>
          rw [panics] at tallied
          exact tallied

theorem tallied_choose :
    Tallied (Selection.choose staff.handlers staff.fallback batch).trace []
      ((staff.passedOver batch).map fun handler => .passedOver handler.name) := by
  have primary := tallied_among batch 0 staff.handlers
  have fallback : Tallied (staff.fallback.pollSupport batch).trace []
      (if staff.fallback.supports batch = .panic then [.passedOver staff.fallback.name] else []) :=
    staff.fallback.tallied_conclude batch staff.fallback.silent_askTrace _
  rw [passedOver, List.map_append, Selection.choose]
  cases (Selection.among batch 0 staff.handlers).chosen.isEmpty with
  | true =>
      have both := primary.append fallback
      simp only [if_true, true_and]
      by_cases panics : staff.fallback.supports batch = .panic
      · rw [if_pos panics] at both ⊢
        exact both
      · rw [if_neg panics] at both ⊢
        exact both
  | false =>
      simp only [Bool.false_eq_true, if_false, false_and, List.map_nil, List.append_nil]
      exact primary

/-! ## Dispatches -/

omit staff in
/-- A batch is counted once, as handled or as dropped. -/
theorem tallied_batch {counter : Counter}
    (either : counter = .handled batch.type ∨ counter = .dropped batch.type) :
    Tallied [.counted counter 1] [batch] [] := by
  constructor
  · intro type
    rw [Journal.tally_counted, Journal.tally_counted, List.countP_singleton]
    rcases either with same | same <;> simp [same, Journal.tally]
  · intro name
    rw [Journal.tally_counted]
    rcases either with same | same <;> (rw [same]; rfl)
  · rw [Journal.tally_counted]
    rcases either with same | same <;> (rw [same]; rfl)
  · rfl

theorem tallied_serve : Tallied (staff.serve batch).trace [batch] (staff.serveEndings batch) := by
  have chosen := staff.tallied_choose batch
  unfold serve serveEndings
  generalize Selection.choose staff.handlers staff.fallback batch = selection at chosen
  have asked : Tallied (.dispatchBegun batch :: selection.trace) []
      ((staff.passedOver batch).map fun handler => .passedOver handler.name) := .cons rfl chosen
  dsimp only [Account.andThen]
  cases nobody : selection.chosen.isEmpty with
  | true =>
      have dropped : Tallied [.logged (.discarded batch.type batch.size),
          .counted (.dropped batch.type) 1, .dispatchEnded batch] [batch] [] :=
        .cons rfl ((tallied_batch batch (Or.inr rfl)).append (.cons rfl .nil))
      rw [List.isEmpty_iff.mp nobody]
      exact asked.append dropped
  | false =>
      have handled := (tallied_batch batch (Or.inl rfl)).append
        (tallied_callRest { staff with handlers := selection.handlers } batch selection.chosen)
      exact asked.append handled

theorem tallied_serveAll (batches : List Batch) :
    Tallied (staff.serveAll batches).trace batches (staff.serveAllEndings batches) := by
  induction batches generalizing staff with
  | nil => exact .nil
  | cons batch rest inductionHypothesis =>
      exact (staff.tallied_serve batch).append (inductionHypothesis _)

end Staff

end FailureDispatch

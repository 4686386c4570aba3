import FailureDispatch.Proofs.Dispatch.Reference

/-!
# Dispatches conform to the reference

A dispatch that has to wait stops in the middle of a call.  `Staff.complete`
is the account of what is then still to come.  The turns of a dispatch move
entries from this account into the journal and never change the sum of the
two, so a dispatch comes to what the reference says however often it waits.

Conformance also says what a dispatch leaves alone: calls change the journal,
the staff and the gates, and nothing else of a deployment.
-/

namespace FailureDispatch

namespace Staff

/-- The rest of a call that waits in the middle. -/
def resume (staff : Staff) (batch : Batch) : Option Invocation → Account
  | none => .idle staff
  | some invocation =>
      match staff.handler? invocation.ref with
      | none => .idle staff
      | some handler =>
          let conclusion := Action.conclude handler.name invocation.rest
          match invocation.stage with
          | .handling => staff.afterHandling batch handler.name conclusion
          | .acknowledging => staff.afterAcknowledging batch handler.name conclusion

/-- The rest of a dispatch. -/
def complete (staff : Staff) (dispatch : Dispatch) : Account :=
  (staff.resume dispatch.batch dispatch.current).andThen
    (callRest dispatch.batch dispatch.pending)

theorem handler?_setHandler {staff : Staff} {ref : HandlerRef} {old : Handler}
    (present : staff.handler? ref = some old) (handler : Handler) :
    (staff.setHandler ref handler).handler? ref = some handler := by
  cases ref with
  | registered index =>
      have inside : index < staff.handlers.length := by
        apply Decidable.byContradiction
        intro outside
        have absent : staff.handlers[index]? = none :=
          List.getElem?_eq_none (Nat.le_of_not_lt outside)
        simp only [handler?, absent] at present
        cases present
      simp only [setHandler, handler?, List.getElem?_set_self inside]
  | fallback => rfl

end Staff

theorem Handler.name_begin (handler : Handler) : handler.begin.2.name = handler.name := by
  rcases handler with ⟨name, conduct⟩
  cases conduct <;> rfl

/-- How a performance comes out once its waits are over. -/
def Performance.conclude (name : String) : Performance → Conclusion
  | .finished conclusion => conclusion
  | .waits _ rest => Action.conclude name rest

namespace Deployment

/-- The deployment after a stretch of dispatching. -/
def served (deployment : Deployment) (account : Account)
    (gates : List (String × Permits Actor)) : Deployment :=
  { deployment with
    journal := deployment.journal ++ account.trace
    service := deployment.service.withStaff account.staff
    gates }

/-! ## Actions -/

/-- Performing actions changes gates only, and does not change how the
actions come out. -/
theorem perform_conforms (deployment : Deployment) (name : String) (actions : List Action) :
    (deployment.perform name actions).1.conclude name = Action.conclude name actions ∧
      ∃ gates, (deployment.perform name actions).2 = { deployment with gates } := by
  fun_induction perform deployment name actions with
  | case1 | case3 | case4 | case5 | case7 => exact ⟨rfl, _, rfl⟩
  | case2 _ _ inductionHypothesis => exact inductionHypothesis
  | case6 _ _ inductionHypothesis => exact inductionHypothesis
  | case8 deployment gate rest passed passes inductionHypothesis =>
      have opened : passed = deployment.setGate gate ((deployment.gate gate).ask .worker).2 :=
        (congrArg Prod.snd passes).symm
      rcases inductionHypothesis with ⟨concluded, gates, same⟩
      refine ⟨concluded, gates, ?_⟩
      rw [same, opened]
      rfl
  | case9 deployment gate rest waiting waits =>
      have closed : waiting = deployment.setGate gate ((deployment.gate gate).ask .worker).2 :=
        (congrArg Prod.snd waits).symm
      rw [closed]
      exact ⟨rfl, _, rfl⟩

theorem pauseOver_conforms (deployment : Deployment) (pause : Pause) :
    ∃ gates, (deployment.pauseOver pause).2 = { deployment with gates } := by
  cases pause with
  | alarm time => exact ⟨_, rfl⟩
  | gate name => exact ⟨_, rfl⟩

/-! ## Calls -/

/-- A stretch of a call: what it leaves in the journal and what is still to
come of the call make up the account together. -/
def Conforms (before : Deployment) (batch : Batch) (result : Option Invocation × Deployment)
    (account : Account) : Prop :=
  ∃ stretch gates, stretch.trace.Inner ∧ result.2 = before.served stretch gates ∧
    stretch.andThen (fun staff => staff.resume batch result.1) = account

namespace Conforms

variable {before : Deployment} {batch : Batch} {result : Option Invocation × Deployment}
  {account : Account}

/-- Something has been done before the stretch began. -/
theorem after {stretch : Account} {gates : List (String × Permits Actor)}
    (inner : stretch.trace.Inner)
    (conforms : Conforms (before.served stretch gates) batch result account) :
    Conforms before batch result (stretch.andThen fun _ => account) := by
  rcases conforms with ⟨rest, later, restInner, same, total⟩
  refine ⟨stretch.andThen fun _ => rest, later, inner.append restInner, ?_, ?_⟩
  · rw [same]
    simp only [served, Account.andThen, Service.withStaff_withStaff, List.append_assoc]
  · rw [← total, Account.andThen_assoc]

/-- A call that is over needs no further stretch. -/
theorem of_finished {stretch : Account} (inner : stretch.trace.Inner) :
    Conforms before batch (none, before.served stretch before.gates) stretch :=
  ⟨stretch, before.gates, inner, rfl, Account.andThen_idle stretch⟩

/-- A call that waits has left nothing since it was last looked at. -/
theorem of_waiting (invocation : Invocation) :
    Conforms before batch (some invocation, before)
      (before.service.staff.resume batch (some invocation)) :=
  ⟨.idle before.service.staff, before.gates, Journal.Inner.nil,
    by simp only [served, Account.idle, List.append_nil, Service.withStaff_staff], rfl⟩

/-- After an opening stretch, actions are performed, and what follows them
conforms however far they have come. -/
theorem performed (next : Deployment → Performance → Option Invocation × Deployment)
    (continuation : Staff → Conclusion → Account) (name : String) (actions : List Action)
    {stretch : Account} {called : Deployment} (inner : stretch.trace.Inner)
    (same : called = before.served stretch before.gates)
    (follows : ∀ after performance, after.service.staff = stretch.staff →
      Conforms after batch (next after performance)
        (continuation after.service.staff (performance.conclude name))) :
    Conforms before batch
      (next (called.perform name actions).2 (called.perform name actions).1)
      (stretch.andThen fun staff => continuation staff (Action.conclude name actions)) := by
  rcases perform_conforms called name actions with ⟨concluded, gates, changed⟩
  have position : (called.perform name actions).2 = before.served stretch gates := by
    rw [changed, same]
    rfl
  rw [position, ← concluded]
  exact (follows (before.served stretch gates) _ rfl).after inner

end Conforms

theorem inner_fault (staff : Staff) (batch : Batch) (name : String) (error : FailureError) :
    (staff.fault batch name error).trace.Inner :=
  .cons rfl (.cons rfl .nil)

theorem fault_eq_served (deployment : Deployment) (batch : Batch) (name : String)
    (error : FailureError) :
    deployment.fault name batch error =
      deployment.served (deployment.service.staff.fault batch name error) deployment.gates := by
  simp only [fault, log, count, note, served, Staff.fault, Service.withStaff_staff,
    List.append_assoc, List.singleton_append]

theorem fault_conforms (deployment : Deployment) (batch : Batch) (name : String)
    (error : FailureError) :
    Conforms deployment batch (none, deployment.fault name batch error)
      (deployment.service.staff.fault batch name error) := by
  rw [fault_eq_served]
  exact Conforms.of_finished (inner_fault _ batch name error)

theorem idle_conforms (deployment : Deployment) (batch : Batch) :
    Conforms deployment batch (none, deployment) (.idle deployment.service.staff) :=
  ⟨.idle deployment.service.staff, deployment.gates, Journal.Inner.nil,
    by simp only [served, Account.idle, List.append_nil, Service.withStaff_staff], rfl⟩

section Named

variable {deployment : Deployment} {ref : HandlerRef} {handler : Handler}

theorem afterAcknowledging_conforms (known : deployment.service.staff.handler? ref = some handler)
    (batch : Batch) (performance : Performance) :
    Conforms deployment batch
      (deployment.afterAcknowledging batch ref handler.name performance)
      (deployment.service.staff.afterAcknowledging batch handler.name
        (performance.conclude handler.name)) := by
  cases performance with
  | finished conclusion =>
      cases conclusion with
      | panic => exact fault_conforms deployment batch handler.name _
      | success => exact idle_conforms deployment batch
      | failure error => exact idle_conforms deployment batch
  | waits pause rest =>
      have waiting : Conforms deployment batch (some ⟨ref, .acknowledging, pause, rest⟩, deployment) _ :=
        Conforms.of_waiting ⟨ref, .acknowledging, pause, rest⟩
      simp only [Staff.resume, known] at waiting
      exact waiting

theorem acknowledge_conforms (known : deployment.service.staff.handler? ref = some handler)
    (batch : Batch) :
    Conforms deployment batch (deployment.acknowledge batch ref handler.name)
      (deployment.service.staff.acknowledge batch handler.name) := by
  cases collected : batch.ackRefs with
  | none =>
      simp only [acknowledge, Staff.acknowledge, collected]
      exact fault_conforms deployment batch handler.name _
  | some refs =>
      have inner : Journal.Inner
          [.counted .unitsAcknowledged refs.length, .acknowledged refs] :=
        .cons rfl (.cons rfl .nil)
      simp only [acknowledge, Staff.acknowledge, collected]
      refine Conforms.performed
        (fun after performance => after.afterAcknowledging batch ref handler.name performance)
        (fun staff conclusion => staff.afterAcknowledging batch handler.name conclusion)
        handler.name _ inner ?_ ?_
      · simp only [count, note, served, List.append_assoc, List.singleton_append]
        rfl
      · intro after performance same
        apply afterAcknowledging_conforms
        rw [same]
        cases ref <;> exact known

theorem afterHandling_conforms (known : deployment.service.staff.handler? ref = some handler)
    (batch : Batch) (performance : Performance) :
    Conforms deployment batch (deployment.afterHandling batch ref handler.name performance)
      (deployment.service.staff.afterHandling batch handler.name
        (performance.conclude handler.name)) := by
  cases performance with
  | finished conclusion =>
      cases conclusion with
      | success => exact acknowledge_conforms known batch
      | failure error => exact fault_conforms deployment batch handler.name error
      | panic => exact fault_conforms deployment batch handler.name _
  | waits pause rest =>
      have waiting : Conforms deployment batch (some ⟨ref, .handling, pause, rest⟩, deployment) _ :=
        Conforms.of_waiting ⟨ref, .handling, pause, rest⟩
      simp only [Staff.resume, known] at waiting
      exact waiting

end Named

theorem inner_handing (handler : Handler) (batch : Batch) :
    Journal.Inner (handler.handing batch) := by
  intro entry member
  unfold Handler.handing at member
  split at member
  · rcases List.mem_map.mp member with ⟨failure, _, same⟩
    rw [← same]
    rfl
  · rw [List.mem_singleton.mp member]
    rfl

theorem callHandler_conforms (deployment : Deployment) (batch : Batch) (ref : HandlerRef) :
    Conforms deployment batch (deployment.callHandler batch ref)
      (deployment.service.staff.call batch ref) := by
  cases known : deployment.service.handler? ref with
  | none =>
      have absent : deployment.service.staff.handler? ref = none :=
        (deployment.service.handler?_staff ref).trans known
      simp only [callHandler, Staff.call, known, absent]
      exact idle_conforms deployment batch
  | some handler =>
      have present : deployment.service.staff.handler? ref = some handler :=
        (deployment.service.handler?_staff ref).trans known
      simp only [callHandler, Staff.call, known, present, handler.handleTrace_eq]
      refine Conforms.performed
        (fun after performance => after.afterHandling batch ref handler.name performance)
        (fun staff conclusion => staff.afterHandling batch handler.name conclusion)
        handler.name _ (inner_handing handler batch) ?_ ?_
      · simp only [noteAll, served, Service.setHandler_eq]
      · intro after performance same
        have later : after.service.staff.handler? ref = some handler.begin.2 := by
          rw [same]
          exact Staff.handler?_setHandler present _
        have conforms := afterHandling_conforms later batch performance
        rwa [handler.name_begin] at conforms

/-- A call performs its actions after the batch has been handed over. -/
theorem callHandler_eq {deployment : Deployment} {ref : HandlerRef} {handler : Handler}
    (present : deployment.service.staff.handler? ref = some handler) (batch : Batch) :
    ∃ (performance : Performance) (after : Deployment),
      deployment.callHandler batch ref =
        after.afterHandling batch ref handler.name performance ∧
      performance.conclude handler.name = Action.conclude handler.name handler.begin.1 ∧
      after.service.staff = deployment.service.staff.setHandler ref handler.begin.2 ∧
      after.journal = deployment.journal ++ handler.handing batch := by
  have known : deployment.service.handler? ref = some handler :=
    (deployment.service.handler?_staff ref).symm.trans present
  simp only [callHandler, known, handler.handleTrace_eq]
  generalize begun : ({ deployment with
    service := deployment.service.setHandler ref handler.begin.2 } : Deployment).noteAll
      (handler.handing batch) = called
  rcases perform_conforms called handler.name handler.begin.1 with ⟨concluded, gates, changed⟩
  refine ⟨_, _, rfl, concluded, ?_, ?_⟩
  · rw [changed, ← begun]
    cases ref <;> rfl
  · rw [changed, ← begun]
    rfl

theorem continueCall_conforms (deployment : Deployment) (batch : Batch)
    (invocation : Invocation) :
    Conforms deployment batch (deployment.continueCall batch invocation)
      (deployment.service.staff.resume batch (some invocation)) := by
  cases known : deployment.service.handler? invocation.ref with
  | none =>
      have absent : deployment.service.staff.handler? invocation.ref = none :=
        (deployment.service.handler?_staff _).trans known
      simp only [continueCall, Staff.resume, known, absent]
      exact idle_conforms deployment batch
  | some handler =>
      have present : deployment.service.staff.handler? invocation.ref = some handler :=
        (deployment.service.handler?_staff _).trans known
      have unmoved : deployment =
          deployment.served (.idle deployment.service.staff) deployment.gates := by
        simp only [served, Account.idle, List.append_nil, Service.withStaff_staff]
      simp only [continueCall, Staff.resume, known, present]
      cases invocation.stage with
      | handling =>
          refine Conforms.performed
            (fun after performance =>
              after.afterHandling batch invocation.ref handler.name performance)
            (fun staff conclusion => staff.afterHandling batch handler.name conclusion)
            handler.name invocation.rest Journal.Inner.nil unmoved ?_
          intro after performance same
          apply afterHandling_conforms
          rw [same]
          exact present
      | acknowledging =>
          refine Conforms.performed
            (fun after performance =>
              after.afterAcknowledging batch invocation.ref handler.name performance)
            (fun staff conclusion => staff.afterAcknowledging batch handler.name conclusion)
            handler.name invocation.rest Journal.Inner.nil unmoved ?_
          intro after performance same
          apply afterAcknowledging_conforms
          rw [same]
          exact present

end Deployment
end FailureDispatch

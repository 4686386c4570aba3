import FailureDispatch.Proofs.Dispatch.Upkeep

/-!
# Scripts that do not wait

An entry of a script is prompt if it comes to its conclusion without waiting.
What would stand behind the conclusion is never performed and may be anything.

A prompt call is over in the turn in which it begins.  It leaves exactly the
account of `Staff.call`, and in particular it leaves the gates alone.  Every
call, and every question to a handler, uses up entries of schedules and adds
none, so a staff that is prompt remains so.
-/

namespace FailureDispatch

/-- Whether the actions come to a conclusion without waiting. -/
def Action.prompt : List Action → Bool
  | [] | .panic :: _ | .fail _ :: _ | .raise _ :: _ => true
  | .proceed :: rest => prompt rest
  | .sleep duration :: rest => duration == 0 && prompt rest
  | .pass _ :: _ => false

/-- No entry of the script waits. -/
def Script.Prompt (script : Script) : Prop :=
  ∀ actions ∈ script.entries, Action.prompt actions = true

instance (script : Script) : Decidable script.Prompt :=
  inferInstanceAs (Decidable (∀ actions ∈ script.entries, Action.prompt actions = true))

namespace Schedule

variable {α : Type}

/-- A call uses up entries and adds none. -/
theorem mem_next {otherwise entry : α} {schedule : Schedule α}
    (member : entry ∈ (schedule.next otherwise).2.entries) : entry ∈ schedule.entries := by
  rcases schedule with ⟨entries⟩
  match entries with
  | [] => exact member
  | [_] => exact member
  | _ :: _ :: _ => exact List.mem_cons_of_mem _ member

/-- The entry of a call is the one that stands in for all, or belongs to the
schedule. -/
theorem next_mem (otherwise : α) (schedule : Schedule α) :
    (schedule.next otherwise).1 = otherwise ∨
      (schedule.next otherwise).1 ∈ schedule.entries := by
  rcases schedule with ⟨entries⟩
  match entries with
  | [] => exact Or.inl rfl
  | [_] => exact Or.inr List.mem_cons_self
  | _ :: _ :: _ => exact Or.inr List.mem_cons_self

end Schedule

namespace Script.Prompt

variable {script : Script} (prompt : script.Prompt)
include prompt

theorem next : Script.Prompt (script.next []).2 :=
  fun actions member => prompt actions (Schedule.mem_next member)

theorem actions : Action.prompt (script.next []).1 = true := by
  rcases script.next_mem [] with absent | member
  · rw [absent]
    rfl
  · exact prompt _ member

end Script.Prompt

namespace Handler

/-- No call of the handler waits. -/
def Prompt (handler : Handler) : Prop :=
  match handler.conduct with
  | .logging => True
  | .scripted _ _ script => script.Prompt

instance (handler : Handler) : Decidable handler.Prompt :=
  match handler with
  | ⟨_, .logging⟩ => inferInstanceAs (Decidable True)
  | ⟨_, .scripted _ _ script⟩ => inferInstanceAs (Decidable script.Prompt)

variable {handler : Handler} (prompt : handler.Prompt)
include prompt

theorem Prompt.begin : handler.begin.2.Prompt ∧ Action.prompt handler.begin.1 = true := by
  rcases handler with ⟨name, _ | ⟨rule, switch, script⟩⟩
  · exact ⟨prompt, rfl⟩
  · exact ⟨Script.Prompt.next prompt, Script.Prompt.actions prompt⟩

/-- Questions leave the script alone. -/
theorem Prompt.poll (batch : Batch) : (handler.poll batch).handler.Prompt := by
  have kept (asked : Handler) (verdict : Verdict) (trace : Journal) :
      (asked.conclude batch verdict trace).handler = asked := by
    cases verdict <;> rfl
  unfold Handler.poll
  split
  · rw [kept]
    rcases handler with ⟨name, _ | ⟨rule, _ | switch, script⟩⟩
    · exact prompt
    · exact prompt
    · exact prompt
  · rw [kept]
    exact prompt

end Handler

namespace Staff

/-- No call of a handler or of the acknowledger waits. -/
structure Prompt (staff : Staff) : Prop where
  handlers : ∀ handler ∈ staff.handlers, handler.Prompt
  fallback : staff.fallback.Prompt
  acknowledger : staff.acknowledger.Prompt

namespace Prompt

variable {staff : Staff} (prompt : staff.Prompt)
include prompt

theorem handler {ref : HandlerRef} {handler : Handler}
    (known : staff.handler? ref = some handler) : handler.Prompt := by
  cases ref with
  | registered index => exact prompt.handlers handler (List.mem_of_getElem? known)
  | fallback =>
      cases known
      exact prompt.fallback

theorem setHandler {handler : Handler} (new : handler.Prompt) (ref : HandlerRef) :
    (staff.setHandler ref handler).Prompt := by
  cases ref with
  | registered index =>
      refine { prompt with handlers := ?_ }
      intro other member
      rcases List.mem_or_eq_of_mem_set member with old | equal
      · exact prompt.handlers other old
      · rw [equal]
        exact new
  | fallback => exact { prompt with fallback := new }

theorem afterAcknowledging (batch : Batch) (name : String) (conclusion : Conclusion) :
    (staff.afterAcknowledging batch name conclusion).staff.Prompt := by
  cases conclusion <;> exact prompt

theorem acknowledge (batch : Batch) (name : String) :
    (staff.acknowledge batch name).staff.Prompt := by
  unfold Staff.acknowledge
  split
  · exact prompt
  · have later : Staff.Prompt { staff with acknowledger := (staff.acknowledger.next []).2 } :=
      { prompt with acknowledger := Script.Prompt.next prompt.acknowledger }
    exact later.afterAcknowledging batch name _

theorem afterHandling (batch : Batch) (name : String) (conclusion : Conclusion) :
    (staff.afterHandling batch name conclusion).staff.Prompt := by
  cases conclusion with
  | success => exact prompt.acknowledge batch name
  | failure error => exact prompt
  | panic => exact prompt

/-- Questions leave the scripts alone. -/
theorem choose (batch : Batch) :
    Staff.Prompt { staff with
      handlers := (Selection.choose staff.handlers staff.fallback batch).handlers } := by
  refine { prompt with handlers := ?_ }
  rw [Selection.handlers_choose]
  intro handler member
  rcases List.mem_map.mp member with ⟨before, known, polled⟩
  rw [← polled]
  exact (prompt.handlers before known).poll batch

theorem call (batch : Batch) (ref : HandlerRef) : (staff.call batch ref).staff.Prompt := by
  cases known : staff.handler? ref with
  | none =>
      simp only [Staff.call, known]
      exact prompt
  | some handler =>
      have called := prompt.setHandler (prompt.handler known).begin.1 ref
      simp only [Staff.call, known]
      exact called.afterHandling batch handler.name _

end Prompt
end Staff

namespace Deployment

/-! ## Prompt calls -/

/-- Prompt actions come to their conclusion and change nothing. -/
theorem perform_of_prompt (deployment : Deployment) (name : String) {actions : List Action}
    (prompt : Action.prompt actions = true) :
    deployment.perform name actions = (.finished (Action.conclude name actions), deployment) := by
  fun_induction perform deployment name actions with
  | case1 | case3 | case4 | case5 => rfl
  | case2 _ _ inductionHypothesis => exact inductionHypothesis prompt
  | case6 _ _ inductionHypothesis => exact inductionHypothesis prompt
  | case7 _ duration _ waits =>
      rw [Action.prompt, beq_false_of_ne waits] at prompt
      cases prompt
  | case8 => cases prompt
  | case9 => cases prompt

theorem served_idle (deployment : Deployment) :
    deployment.served (.idle deployment.service.staff) deployment.gates = deployment := by
  simp only [served, Account.idle, List.append_nil, Service.withStaff_staff]

theorem afterAcknowledging_eq_served (deployment : Deployment) (batch : Batch) (ref : HandlerRef)
    (name : String) (conclusion : Conclusion) :
    deployment.afterAcknowledging batch ref name (.finished conclusion) =
      (none, deployment.served
        (deployment.service.staff.afterAcknowledging batch name conclusion) deployment.gates) := by
  cases conclusion with
  | panic => exact congrArg (Prod.mk none) (fault_eq_served deployment batch name _)
  | success => exact congrArg (Prod.mk none) deployment.served_idle.symm
  | failure error => exact congrArg (Prod.mk none) deployment.served_idle.symm

/-- One stretch of work after another. -/
theorem served_served (deployment : Deployment) (stretch : Account) (next : Staff → Account) :
    (deployment.served stretch deployment.gates).served (next stretch.staff) deployment.gates =
      deployment.served (stretch.andThen next) deployment.gates := by
  simp only [served, Account.andThen, List.append_assoc, Service.withStaff_withStaff]

section Prompt

variable {deployment : Deployment} (prompt : deployment.service.acknowledger.Prompt)
include prompt

theorem acknowledge_of_prompt (batch : Batch) (ref : HandlerRef) (name : String) :
    deployment.acknowledge batch ref name =
      (none, deployment.served (deployment.service.staff.acknowledge batch name)
        deployment.gates) := by
  cases collected : batch.ackRefs with
  | none =>
      simp only [acknowledge, Staff.acknowledge, collected]
      exact congrArg (Prod.mk none) (fault_eq_served deployment batch name _)
  | some refs =>
      have performed (called : Deployment) := perform_of_prompt called name
        (show Action.prompt (deployment.service.acknowledger.next []).1 = true from
          Script.Prompt.actions prompt)
      simp only [acknowledge, Staff.acknowledge, collected, count, note, performed,
        List.append_assoc, List.singleton_append]
      rw [← served_served]
      exact afterAcknowledging_eq_served
        (deployment.served
          ⟨[.counted .unitsAcknowledged refs.length, .acknowledged refs],
            { deployment.service.staff with
              acknowledger := (deployment.service.acknowledger.next []).2 }⟩ deployment.gates)
        batch ref name _

theorem afterHandling_of_prompt (batch : Batch) (ref : HandlerRef) (name : String)
    (conclusion : Conclusion) :
    deployment.afterHandling batch ref name (.finished conclusion) =
      (none, deployment.served (deployment.service.staff.afterHandling batch name conclusion)
        deployment.gates) := by
  cases conclusion with
  | success => exact acknowledge_of_prompt prompt batch ref name
  | failure error => exact congrArg (Prod.mk none) (fault_eq_served deployment batch name _)
  | panic => exact congrArg (Prod.mk none) (fault_eq_served deployment batch name _)

/-- A prompt call is over at once and leaves its account. -/
theorem callHandler_of_prompt {ref : HandlerRef}
    (own : ∀ handler, deployment.service.staff.handler? ref = some handler → handler.Prompt)
    (batch : Batch) :
    deployment.callHandler batch ref =
      (none, deployment.served (deployment.service.staff.call batch ref) deployment.gates) := by
  cases known : deployment.service.handler? ref with
  | none =>
      have absent : deployment.service.staff.handler? ref = none :=
        (deployment.service.handler?_staff ref).trans known
      simp only [callHandler, Staff.call, known, absent, served_idle]
  | some handler =>
      have present : deployment.service.staff.handler? ref = some handler :=
        (deployment.service.handler?_staff ref).trans known
      have actionsPrompt := (own handler present).begin.2
      have called : Script.Prompt (deployment.served
          ⟨handler.handing batch, deployment.service.staff.setHandler ref handler.begin.2⟩
          deployment.gates).service.acknowledger := by
        cases ref <;> exact prompt
      simp only [callHandler, Staff.call, known, present, noteAll, Service.setHandler_eq,
        handler.handleTrace_eq, perform_of_prompt _ handler.name actionsPrompt]
      rw [← served_served]
      exact afterHandling_of_prompt called batch ref handler.name
        (Action.conclude handler.name handler.begin.1)

end Prompt

end Deployment
end FailureDispatch

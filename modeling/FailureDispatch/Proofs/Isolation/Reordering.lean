import FailureDispatch.Proofs.Dispatch.Upkeep
import FailureDispatch.Proofs.Isolation.Prompt
import FailureDispatch.Proofs.Journal.Threads

/-!
# Staffs in another order

The order in which handlers are registered decides the order in which they are asked
and called, and nothing else, if no handler waits and the acknowledger is calm, that is
to say neither waits nor panics.  Two handlers with different names leave entries of
different threads, except that either may be followed by an acknowledgement, and the
logging conduct writes its warnings.  Both are the same for every handler of a batch.
So what two handlers leave is exchangeable, and the choices and dispatches of reordered
staffs are woven from the same threads.

What a dispatch makes of a handler depends on that handler and on the batch, and the
acknowledger loses an entry for each success, whoever succeeded.  So the staffs remain
reordered.
-/

namespace FailureDispatch

/-! ## Calm acknowledgers -/

/-- Whether the actions come to a panic once every wait among them is over. -/
def Action.panics : List Action → Bool
  | [] | .fail _ :: _ | .raise _ :: _ => false
  | .panic :: _ => true
  | .proceed :: rest | .sleep _ :: rest | .pass _ :: rest => panics rest

theorem Action.conclude_ne_panic (name : String) {actions : List Action}
    (calm : Action.panics actions = false) : Action.conclude name actions ≠ .panic := by
  fun_induction Action.panics actions with
  | case1 | case2 | case3 => exact Conclusion.noConfusion
  | case4 => cases calm
  | case5 rest inductionHypothesis => exact inductionHypothesis calm
  | case6 duration rest inductionHypothesis => exact inductionHypothesis calm
  | case7 gate rest inductionHypothesis => exact inductionHypothesis calm

/-- No entry of the script waits or panics. -/
structure Script.Calm (script : Script) : Prop where
  prompt : script.Prompt
  composed : ∀ actions ∈ script.entries, Action.panics actions = false

namespace Script.Calm

variable {script : Script} (calm : script.Calm)
include calm

theorem next : Script.Calm (script.next []).2 :=
  ⟨calm.prompt.next, fun actions member => calm.composed actions (Schedule.mem_next member)⟩

theorem conclude_ne_panic (name : String) :
    Action.conclude name (script.next []).1 ≠ .panic := by
  apply Action.conclude_ne_panic
  rcases script.next_mem [] with absent | member
  · rw [absent]
    rfl
  · exact calm.composed _ member

theorem after (calls : Nat) : Script.Calm (script.after calls) := by
  induction calls generalizing script with
  | zero => exact calm
  | succ calls inductionHypothesis => exact inductionHypothesis calm.next

end Script.Calm

namespace Batch

/-- What a calm acknowledger is given for a batch. -/
def acknowledgement (batch : Batch) : Journal :=
  match batch.ackRefs with
  | none => []
  | some refs => [.counted .unitsAcknowledged refs.length, .acknowledged refs]

/-- The warnings of the logging conduct. -/
def warnings (batch : Batch) : Journal :=
  batch.failures.map fun failure => .logged (.failure failure)

/-- What a call may leave in a thread that is not that of its handler. -/
def common (batch : Batch) : Thread → Journal
  | .acknowledger => batch.acknowledgement
  | .warnings => batch.warnings
  | .handler _ | .service => []

variable (batch : Batch)

theorem acknowledgement_of : batch.acknowledgement.Of .acknowledger := by
  unfold acknowledgement
  split
  · exact .nil _
  · exact .cons rfl (.cons rfl (.nil _))

theorem warnings_of : batch.warnings.Of .warnings := by
  intro entry member
  rcases List.mem_map.mp member with ⟨failure, _, same⟩
  rw [← same]
  rfl

end Batch

/-! ## Threads of one handler -/

namespace Handler

section Threads

variable (handler : Handler) (batch : Batch)

theorem passingOver_of : (handler.passingOver batch).Of (.handler handler.name) :=
  .cons rfl (.cons rfl (.nil _))

theorem faultTrace_of (error : FailureError) :
    (handler.faultTrace batch error).Of (.handler handler.name) :=
  .cons rfl (.cons rfl (.nil _))

theorem asking_of : handler.asking.Of (.handler handler.name) := by
  unfold asking
  split
  · exact .nil _
  · exact .cons rfl (.nil _)

theorem checking_of : handler.checking.Of (.handler handler.name) := by
  unfold checking
  split
  · exact .nil _
  · exact .nil _
  · exact .cons rfl (.nil _)

/-- The questions to a handler concern that handler. -/
theorem inquiry_of : (handler.inquiry batch).Of (.handler handler.name) := by
  apply handler.asking_of.append
  cases handler.supports batch with
  | no => exact .nil _
  | panic => exact handler.passingOver_of batch
  | yes =>
      apply handler.checking_of.append
      split
      · exact handler.passingOver_of batch
      · exact .nil _

/-- A calm acknowledger makes no difference to a call. -/
theorem callTrace_of_calm {reaction : Conclusion} (calm : reaction ≠ .panic) :
    handler.callTrace batch reaction = handler.callTrace batch .success := by
  simp [callTrace, calm]

/-- What follows the beginning of a call is the handler's, or it is the
acknowledgement. -/
theorem callTrace_eq :
    ∃ fault : Journal, fault.Of (.handler handler.name) ∧
      handler.callTrace batch .success =
        handler.handing batch ++
          (fault ++ if handler.acknowledges batch then batch.acknowledgement else []) := by
  unfold callTrace acknowledges Batch.acknowledgement
  cases handler.verdict with
  | failure error => exact ⟨_, handler.faultTrace_of batch error, by simp⟩
  | panic => exact ⟨_, handler.faultTrace_of batch (.handlerPanicked handler.name), by simp⟩
  | success =>
      cases batch.ackRefs with
      | none => exact ⟨_, handler.faultTrace_of batch (.handlerPanicked handler.name), by simp⟩
      | some refs => exact ⟨[], .nil _, by simp⟩

/-- A handler that is observed leaves a mark of its own, and one that is not leaves
the warnings of the batch. -/
theorem handing_cases :
    (handler.handing batch).Of (.handler handler.name) ∨
      handler.handing batch = batch.warnings := by
  rcases handler with ⟨name, _ | ⟨rule, switch, script⟩⟩
  · exact Or.inr rfl
  · exact Or.inl (.cons rfl (.nil _))

/-- In a thread that is not the handler's, a call leaves nothing or what all calls may
leave there. -/
theorem thread_callTrace {thread : Thread} (different : thread ≠ .handler handler.name) :
    (handler.callTrace batch .success).thread thread = [] ∨
      (handler.callTrace batch .success).thread thread = batch.common thread := by
  rcases handler.callTrace_eq batch with ⟨fault, own, same⟩
  have acknowledged : (if handler.acknowledges batch then batch.acknowledgement else []).Of
      .acknowledger := by
    split
    · exact batch.acknowledgement_of
    · exact .nil _
  have silent (unwarned : thread ≠ .warnings) :
      (handler.handing batch).thread thread = [] := by
    rcases handler.handing_cases batch with marked | warned
    · exact marked.elsewhere different
    · rw [warned]
      exact batch.warnings_of.elsewhere unwarned
  rw [same, Journal.thread_append, Journal.thread_append, own.elsewhere different,
    List.nil_append]
  cases thread with
  | acknowledger =>
      rw [silent Thread.noConfusion, acknowledged.whole]
      split
      · exact Or.inr rfl
      · exact Or.inl rfl
  | warnings =>
      rw [acknowledged.elsewhere Thread.noConfusion, List.append_nil]
      rcases handler.handing_cases batch with marked | warned
      · exact Or.inl (marked.elsewhere different)
      · rw [warned]
        exact Or.inr batch.warnings_of.whole
  | handler _ | service =>
      rw [silent Thread.noConfusion, acknowledged.elsewhere Thread.noConfusion]
      exact Or.inl rfl

end Threads

/-! ## Two handlers -/

section Two

variable {handler other : Handler} (different : handler.name ≠ other.name) (batch : Batch)
include different

theorem inquiries_exchangeable :
    Journal.SameThreads (handler.inquiry batch ++ other.inquiry batch)
      (other.inquiry batch ++ handler.inquiry batch) :=
  .exchange (handler.inquiry_of batch) (other.inquiry_of batch)
    fun same => different (Thread.handler.inj same)

theorem calls_exchangeable :
    Journal.SameThreads
      (handler.callTrace batch .success ++ other.callTrace batch .success)
      (other.callTrace batch .success ++ handler.callTrace batch .success) := by
  intro thread
  rw [Journal.thread_append, Journal.thread_append]
  -- In the thread of the one the other leaves nothing, and elsewhere both leave the same.
  have nothing (present : Handler) {name : String} (stranger : name ≠ present.name) :
      (present.callTrace batch .success).thread (.handler name) = [] := by
    rcases present.thread_callTrace batch fun same => stranger (Thread.handler.inj same) with
      none | common
    · exact none
    · exact common
  by_cases own : thread = .handler handler.name
  · rw [own, nothing other different, List.append_nil, List.nil_append]
  · by_cases otherOwn : thread = .handler other.name
    · rw [otherOwn, nothing handler (Ne.symm different), List.append_nil, List.nil_append]
    · rcases handler.thread_callTrace batch own with first | first <;>
        rcases other.thread_callTrace batch otherOwn with second | second <;>
          simp [first, second]

end Two

end Handler

namespace Staff

/-- Whoever is called, a calm acknowledger makes no difference to what the calls leave. -/
theorem callsTrace_of_calm (batch : Batch) (handlers : List Handler) {acknowledger : Script}
    (calm : acknowledger.Calm) :
    callsTrace batch handlers acknowledger = handlers.flatMap (·.callTrace batch .success) := by
  induction handlers generalizing acknowledger with
  | nil => rfl
  | cons handler rest inductionHypothesis =>
      have later : Script.Calm
          (if handler.acknowledges batch then (acknowledger.next []).2 else acknowledger) := by
        split
        · exact calm.next
        · exact calm
      rw [callsTrace, List.flatMap_cons, inductionHypothesis later,
        handler.callTrace_of_calm batch (calm.conclude_ne_panic handler.name)]

/-- The staffs are equal except for the order of the registered handlers.  These have
different names and do not wait, and the acknowledger is calm. -/
structure Reordered (left right : Staff) : Prop where
  handlers : left.handlers.Perm right.handlers
  fallback : right.fallback = left.fallback
  acknowledger : right.acknowledger = left.acknowledger
  distinct : (left.handlers.map (·.name)).Nodup
  prompt : ∀ handler ∈ left.handlers, handler.Prompt
  calm : left.acknowledger.Calm

namespace Reordered

variable {left right : Staff} (reordered : left.Reordered right)
include reordered

theorem symm : right.Reordered left where
  handlers := reordered.handlers.symm
  fallback := reordered.fallback.symm
  acknowledger := reordered.acknowledger.symm
  distinct := (reordered.handlers.map _).nodup_iff.mp reordered.distinct
  prompt := fun handler member =>
    reordered.prompt handler (reordered.handlers.mem_iff.mpr member)
  calm := by
    rw [reordered.acknowledger]
    exact reordered.calm

/-- Whatever is done to each handler, to the fallback and to the acknowledger leaves the
staffs reordered. -/
theorem change {change : Handler → Handler} (named : ∀ handler, (change handler).name = handler.name)
    (prompt : ∀ handler : Handler, handler.Prompt → (change handler).Prompt) (fallback : Handler)
    {acknowledger : Script} (calm : acknowledger.Calm) :
    Reordered ⟨left.handlers.map change, fallback, acknowledger⟩
      ⟨right.handlers.map change, fallback, acknowledger⟩ where
  handlers := reordered.handlers.map change
  fallback := rfl
  acknowledger := rfl
  distinct := by
    rw [List.map_map]
    have names : (left.handlers.map ((·.name) ∘ change)) = left.handlers.map (·.name) :=
      List.map_congr_left fun handler _ => named handler
    rw [names]
    exact reordered.distinct
  prompt := by
    intro handler member
    rcases List.mem_map.mp member with ⟨before, known, same⟩
    rw [← same]
    exact prompt before (reordered.prompt before known)
  calm := calm

/-! ## Choices -/

section Batch

variable (batch : Batch)

theorem primary : (left.primary batch).Perm (right.primary batch) :=
  reordered.handlers.filter _

theorem primary_eq_nil : left.primary batch = [] ↔ right.primary batch = [] :=
  ⟨fun none => (none ▸ reordered.primary batch).nil_eq.symm,
    fun none => (none ▸ reordered.primary batch).eq_nil⟩

theorem selected : (left.selected batch).Perm (right.selected batch) := by
  unfold Staff.selected
  by_cases nobody : left.primary batch = []
  · rw [if_pos nobody, if_pos ((reordered.primary_eq_nil batch).mp nobody), reordered.fallback]
  · rw [if_neg nobody, if_neg fun none => nobody ((reordered.primary_eq_nil batch).mpr none)]
    exact reordered.primary batch

theorem fallsBack : right.fallsBack batch = left.fallsBack batch := by
  unfold Staff.fallsBack
  rw [reordered.fallback]
  simp only [reordered.primary_eq_nil batch]

theorem strangers : left.handlers.Pairwise fun handler other => handler.name ≠ other.name :=
  List.pairwise_map.mp reordered.distinct

theorem strangers_selected :
    (left.selected batch).Pairwise fun handler other => handler.name ≠ other.name := by
  unfold Staff.selected
  split
  · split
    · exact List.pairwise_singleton ..
    · exact .nil
  · exact reordered.strangers.sublist List.filter_sublist

theorem questions : Journal.SameThreads (left.questions batch) (right.questions batch) := by
  unfold Staff.questions
  rw [reordered.fallback]
  simp only [reordered.primary_eq_nil batch]
  exact (Journal.SameThreads.flatMap reordered.handlers
    (reordered.strangers.imp fun different => Handler.inquiries_exchangeable different batch)).append
    (.refl _)

/-- If no registered handler suits the batch, the same is chosen, and at most the
fallback. -/
theorem chosen_of_nobody (nobody : left.primary batch = []) :
    (Selection.choose left.handlers left.fallback batch).chosen =
        (Selection.choose right.handlers right.fallback batch).chosen ∧
      ∀ ref ∈ (Selection.choose right.handlers right.fallback batch).chosen, ref = .fallback := by
  have nobodyToo := (reordered.primary_eq_nil batch).mp nobody
  rw [left.chosen_of_nobody batch nobody, right.chosen_of_nobody batch nobodyToo,
    reordered.fallback]
  refine ⟨rfl, ?_⟩
  intro ref member
  split at member
  · exact List.mem_singleton.mp member
  · cases member

/-- Reordered staffs ask the same questions, and remain reordered. -/
theorem choose :
    Journal.SameThreads (Selection.choose left.handlers left.fallback batch).trace
        (Selection.choose right.handlers right.fallback batch).trace ∧
      Reordered
        { left with handlers := (Selection.choose left.handlers left.fallback batch).handlers }
        { right with
          handlers := (Selection.choose right.handlers right.fallback batch).handlers } := by
  refine ⟨?_, ?_⟩
  · rw [(choose_eq left batch).1, (choose_eq right batch).1]
    exact reordered.questions batch
  · rw [Selection.handlers_choose, Selection.handlers_choose, reordered.fallback,
      reordered.acknowledger]
    exact reordered.change (fun handler => handler.name_poll batch)
      (fun handler prompt => prompt.poll batch) left.fallback reordered.calm

theorem calls :
    Journal.SameThreads (callsTrace batch (left.selected batch) left.acknowledger)
      (callsTrace batch (right.selected batch) right.acknowledger) := by
  rw [callsTrace_of_calm batch _ reordered.calm, callsTrace_of_calm batch _ reordered.symm.calm]
  exact .flatMap (reordered.selected batch) ((reordered.strangers_selected batch).imp
    fun different => Handler.calls_exchangeable different batch)

/-! ## Dispatches -/

/-- Reordered staffs serve a batch alike and remain reordered. -/
theorem serve :
    Journal.SameThreads (left.serve batch).trace (right.serve batch).trace ∧
      Reordered (left.serve batch).staff (right.serve batch).staff := by
  refine ⟨?_, ?_⟩
  · rw [trace_serve, trace_serve, dispatchTrace, dispatchTrace]
    apply (Journal.SameThreads.refl [_]).append
    apply ((reordered.questions batch).append _).append (.refl [_])
    by_cases nobody : left.selected batch = []
    · have nobodyToo : right.selected batch = [] := (nobody ▸ reordered.selected batch).nil_eq.symm
      rw [if_pos nobody, if_pos nobodyToo]
      exact .refl _
    · have somebodyToo : right.selected batch ≠ [] :=
        fun none => nobody (none ▸ reordered.selected batch).eq_nil
      rw [if_neg nobody, if_neg somebodyToo]
      exact (Journal.SameThreads.refl [_]).append (reordered.calls batch)
  · have successes := (reordered.selected batch).countP_eq (·.acknowledges batch)
    rw [staff_serve, staff_serve, reordered.fallsBack, reordered.fallback,
      reordered.acknowledger, ← successes]
    apply reordered.change (fun handler => handler.name_after batch)
    · intro handler prompt
      unfold Handler.after
      split
      · exact (Handler.Prompt.poll prompt batch).begin.1
      · exact Handler.Prompt.poll prompt batch
    · exact reordered.calm.after _

end Batch

end Reordered
end Staff
end FailureDispatch

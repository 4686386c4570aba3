import FailureDispatch.Proofs.Dispatch.Conformance

/-!
# The trace of a dispatch, spelled out

`Staff.serve` says what the dispatch of a batch comes to by way of the selection
and of the calls that the service itself makes.  Here the same trace is said once
more in terms of the handlers alone: what asking each of them leaves, which of them
are chosen, and what the call of each chosen one leaves.  Nothing is numbered, no
handler is looked up, and no call sees what another has made of its handler.

That the two agree (`trace_serve`) has two reasons.  Asking a handler whether it is
enabled does not change how it is called (`CallsLike`).  And the chosen handlers
have different places, so a call uses up an entry of its own handler's script and of
no other; only the acknowledger's script is shared and has to be threaded through.
-/

namespace FailureDispatch

namespace Handler

/-! ## One handler -/

/-- Whether a registered handler is chosen for a batch. -/
def suits (handler : Handler) (batch : Batch) : Bool :=
  decide (handler.supports batch = .yes ∧ handler.isEnabled.1 = .yes)

/-- What asking a registered handler leaves.  It is asked whether it is enabled only
if it supports the batch, and either question may make it panic. -/
def inquiry (handler : Handler) (batch : Batch) : Journal :=
  handler.asking ++
    match handler.supports batch with
    | .no => []
    | .panic => handler.passingOver batch
    | .yes =>
        handler.checking ++ if handler.isEnabled.1 = .panic then handler.passingOver batch else []

/-- What asking the fallback leaves.  It is never asked whether it is enabled. -/
def lastInquiry (handler : Handler) (batch : Batch) : Journal :=
  handler.asking ++ if handler.supports batch = .panic then handler.passingOver batch else []

/-- The one line and the one count that a call leaves when it comes to nothing. -/
def faultTrace (handler : Handler) (batch : Batch) (error : FailureError) : Journal :=
  [.logged (.handlerFailed handler.name batch.type batch.size error),
    .counted (.handlerFailures handler.name) 1]

/-- How the handler comes out when it is called. -/
def verdict (handler : Handler) : Conclusion := Action.conclude handler.name handler.begin.1

/-- Whether the call of the handler gets as far as the acknowledger. -/
def acknowledges (handler : Handler) (batch : Batch) : Bool :=
  decide (handler.verdict = .success) && batch.ackRefs.isSome

/-- What the call of a chosen handler leaves, given how the acknowledger comes out if
it is called.  Its references are collected and counted only after a success, and the
acknowledger is called with them even if there are none. -/
def callTrace (handler : Handler) (batch : Batch) (reaction : Conclusion) : Journal :=
  handler.handing batch ++
    match handler.verdict, batch.ackRefs with
    | .failure error, _ => handler.faultTrace batch error
    | .panic, _ | .success, none => handler.faultTrace batch (.handlerPanicked handler.name)
    | .success, some refs =>
        [.counted .unitsAcknowledged refs.length, .acknowledged refs] ++
          if reaction = .panic then handler.faultTrace batch (.handlerPanicked handler.name) else []

/-- Two handlers that cannot be told apart by calling them. -/
structure CallsLike (handler other : Handler) : Prop where
  name : handler.name = other.name
  actions : handler.begin.1 = other.begin.1
  observed : handler.isScripted = other.isScripted

theorem CallsLike.refl (handler : Handler) : handler.CallsLike handler := ⟨rfl, rfl, rfl⟩

section Alike

variable {handler other : Handler} (alike : handler.CallsLike other) (batch : Batch)
include alike

theorem CallsLike.verdict : handler.verdict = other.verdict := by
  rw [Handler.verdict, Handler.verdict, alike.name, alike.actions]

theorem CallsLike.handing : handler.handing batch = other.handing batch := by
  rcases handler with ⟨name, conduct⟩
  rcases other with ⟨otherName, otherConduct⟩
  have named : name = otherName := alike.name
  have observed := alike.observed
  subst named
  cases conduct <;> cases otherConduct <;> first | rfl | cases observed

theorem CallsLike.acknowledges : handler.acknowledges batch = other.acknowledges batch := by
  rw [Handler.acknowledges, Handler.acknowledges, alike.verdict]

theorem CallsLike.callTrace (reaction : Conclusion) :
    handler.callTrace batch reaction = other.callTrace batch reaction := by
  simp only [Handler.callTrace, faultTrace, alike.verdict, alike.name, alike.handing batch]

end Alike

/-- Being asked whether it is enabled does not change how a handler is called. -/
theorem callsLike_isEnabled (handler : Handler) : handler.isEnabled.2.CallsLike handler := by
  rcases handler with ⟨name, conduct⟩
  cases conduct with
  | logging => exact .refl _
  | scripted rule switch script =>
      cases switch with
      | none => exact .refl _
      | some schedule => exact ⟨rfl, rfl, rfl⟩

section Poll

variable (handler : Handler) (batch : Batch)

/-- Being asked is what the inquiry says. -/
theorem poll_eq :
    (handler.poll batch).trace = handler.inquiry batch ∧
      (handler.poll batch).chosen = handler.suits batch ∧
      (handler.poll batch).handler.CallsLike handler := by
  have likewise := callsLike_isEnabled handler
  cases support : handler.supports batch with
  | no | panic =>
      simp only [poll, support, inquiry, suits, conclude, List.append_nil, askTrace_eq,
        panicTrace_eq]
      exact ⟨trivial, rfl, .refl handler⟩
  | yes =>
      have panics : handler.isEnabled.2.passingOver batch = handler.passingOver batch := by
        rw [passingOver, passingOver, likewise.name]
      cases enabled : handler.isEnabled.1 with
      | yes | no =>
          simp only [poll, support, enabled, inquiry, suits, conclude, askTrace_eq, checkTrace_eq]
          exact ⟨by simp, by simp, likewise⟩
      | panic =>
          simp only [poll, support, enabled, inquiry, suits, conclude, askTrace_eq, checkTrace_eq,
            panicTrace_eq, panics]
          exact ⟨by simp, by simp, likewise⟩

theorem pollSupport_eq :
    (handler.pollSupport batch).trace = handler.lastInquiry batch ∧
      (handler.pollSupport batch).chosen = decide (handler.supports batch = .yes) := by
  cases support : handler.supports batch <;>
    simp [pollSupport, support, lastInquiry, conclude, askTrace_eq, panicTrace_eq]

end Poll

end Handler

namespace Staff

/-! ## The whole dispatch -/

/-- The registered handlers that are chosen. -/
def primary (staff : Staff) (batch : Batch) : List Handler :=
  staff.handlers.filter (·.suits batch)

/-- The handlers that are chosen: the fallback stands in for nobody but them all. -/
def selected (staff : Staff) (batch : Batch) : List Handler :=
  if staff.primary batch = [] then
    if staff.fallback.supports batch = .yes then [staff.fallback] else []
  else staff.primary batch

/-- What choosing leaves.  The fallback is asked only when nobody else was chosen. -/
def questions (staff : Staff) (batch : Batch) : Journal :=
  staff.handlers.flatMap (·.inquiry batch) ++
    if staff.primary batch = [] then staff.fallback.lastInquiry batch else []

/-- What the calls of the chosen handlers leave, one after the other.  The acknowledger
uses up an entry of its script for each call that gets as far as it. -/
def callsTrace (batch : Batch) : List Handler → Script → Journal
  | [], _ => []
  | handler :: rest, acknowledger =>
      handler.callTrace batch (Action.conclude handler.name (acknowledger.next []).1) ++
        callsTrace batch rest
          (if handler.acknowledges batch then (acknowledger.next []).2 else acknowledger)

/-- What the dispatch of a batch leaves: the questions to the handlers, and then either
one warning and one count for a batch that nobody takes, or one count and the calls. -/
def dispatchTrace (staff : Staff) (batch : Batch) : Journal :=
  .dispatchBegun batch :: (staff.questions batch ++
    (if staff.selected batch = [] then
      [.logged (.discarded batch.type batch.size), .counted (.dropped batch.type) 1]
    else
      .counted (.handled batch.type) 1 ::
        callsTrace batch (staff.selected batch) staff.acknowledger) ++ [.dispatchEnded batch])

/-! ## Calls -/

/-- Behind a place stands a handler that is called like the given one. -/
def Finds (staff : Staff) (ref : HandlerRef) (handler : Handler) : Prop :=
  ∃ present, staff.handler? ref = some present ∧ present.CallsLike handler

section Calls

variable {staff : Staff} {ref other : HandlerRef} {handler : Handler}

theorem handler?_setHandler_of_ne (different : other ≠ ref) (handler : Handler) :
    (staff.setHandler ref handler).handler? other = staff.handler? other := by
  cases ref with
  | fallback =>
      cases other with
      | fallback => exact absurd rfl different
      | registered index => rfl
  | registered index =>
      cases other with
      | fallback => rfl
      | registered place =>
          have apart : index ≠ place := by
            intro same
            exact different (by rw [same])
          simp only [setHandler, handler?, List.getElem?_set_ne apart]

/-- A call leaves its trace, and touches its own handler and the acknowledger only. -/
theorem call_eq (present : staff.handler? ref = some handler) (batch : Batch) :
    staff.call batch ref =
      ⟨handler.callTrace batch (Action.conclude handler.name (staff.acknowledger.next []).1),
        { staff.setHandler ref handler.begin.2 with
          acknowledger :=
            if handler.acknowledges batch then (staff.acknowledger.next []).2
            else staff.acknowledger }⟩ := by
  have same : (staff.setHandler ref handler.begin.2).acknowledger = staff.acknowledger := by
    cases ref <;> rfl
  have still : ({ staff.setHandler ref handler.begin.2 with
      acknowledger := staff.acknowledger } : Staff) = staff.setHandler ref handler.begin.2 := by
    cases ref <;> rfl
  simp only [call, present]
  cases come : Action.conclude handler.name handler.begin.1 with
  | panic | failure error =>
      simp only [Account.andThen, afterHandling, fault, Handler.callTrace, Handler.verdict, come,
        Handler.faultTrace, Handler.acknowledges]
      simp [still]
  | success =>
      cases collected : batch.ackRefs with
      | none =>
          simp only [Account.andThen, afterHandling, acknowledge, collected, fault,
            Handler.callTrace, Handler.verdict, come, Handler.faultTrace, Handler.acknowledges]
          simp [still]
      | some refs =>
          cases reacts : Action.conclude handler.name (staff.acknowledger.next []).1 with
          | panic | success | failure error =>
              simp only [Account.andThen, afterHandling, acknowledge, collected, same, reacts,
                afterAcknowledging, fault, Account.idle, Handler.callTrace, Handler.verdict, come,
                Handler.faultTrace, Handler.acknowledges]
              simp

theorem Finds.of_ne (found : staff.Finds other handler) (different : other ≠ ref)
    (later : Handler) (acknowledger : Script) :
    Finds { staff.setHandler ref later with acknowledger } other handler := by
  rcases found with ⟨present, known, alike⟩
  refine ⟨present, ?_, alike⟩
  have kept := (handler?_setHandler_of_ne different later).trans known
  cases other <;> exact kept

/-- The calls of handlers in different places leave what each of them leaves. -/
theorem trace_callAll (batch : Batch) {placed : List (HandlerRef × Handler)}
    (apart : (placed.map Prod.fst).Nodup)
    (found : ∀ entry ∈ placed, staff.Finds entry.1 entry.2) :
    (staff.callAll batch (placed.map Prod.fst)).trace =
      callsTrace batch (placed.map Prod.snd) staff.acknowledger := by
  induction placed generalizing staff with
  | nil => rfl
  | cons entry rest inductionHypothesis =>
      rcases List.nodup_cons.mp apart with ⟨absent, apartLater⟩
      rcases found entry List.mem_cons_self with ⟨present, known, alike⟩
      have called := call_eq known batch
      have foundLater : ∀ later ∈ rest,
          (staff.call batch entry.1).staff.Finds later.1 later.2 := by
        intro later member
        have different : later.1 ≠ entry.1 := by
          intro same
          exact absent (same ▸ List.mem_map_of_mem member)
        rw [called]
        exact (found later (List.mem_cons_of_mem _ member)).of_ne different _ _
      have rests := inductionHypothesis apartLater foundLater
      simp only [List.map_cons, callAll, Account.andThen, callsTrace]
      rw [rests, called]
      simp only [alike.callTrace, alike.acknowledges, alike.name]

end Calls

/-! ## Choices -/

/-- The choice among the registered handlers: what it leaves, and who stands behind
the places that are chosen. -/
theorem among_eq (batch : Batch) (index : Nat) (handlers : List Handler) :
    (Selection.among batch index handlers).trace = handlers.flatMap (·.inquiry batch) ∧
      ∃ placed : List (HandlerRef × Handler),
        (Selection.among batch index handlers).chosen = placed.map Prod.fst ∧
        handlers.filter (·.suits batch) = placed.map Prod.snd ∧
        (placed.map Prod.fst).Nodup ∧
        ∀ entry ∈ placed, ∃ offset present, entry.1 = .registered (index + offset) ∧
          (Selection.among batch index handlers).handlers[offset]? = some present ∧
          present.CallsLike entry.2 := by
  induction handlers generalizing index with
  | nil => exact ⟨rfl, [], rfl, rfl, .nil, nofun⟩
  | cons handler rest inductionHypothesis =>
      rcases handler.poll_eq batch with ⟨asked, chosen, alike⟩
      rcases inductionHypothesis (index + 1) with ⟨trace, placed, refs, suited, apart, found⟩
      have later : ∀ entry ∈ placed, ∃ offset present, entry.1 = .registered (index + offset) ∧
          (Selection.among batch index (handler :: rest)).handlers[offset]? = some present ∧
          present.CallsLike entry.2 := by
        intro entry member
        rcases found entry member with ⟨offset, present, place, known, same⟩
        refine ⟨offset + 1, present, ?_, known, same⟩
        rw [place, Nat.add_assoc, Nat.add_comm 1]
      refine ⟨?_, ?_⟩
      · simp only [Selection.among, asked, trace, List.flatMap_cons]
      · cases suits : handler.suits batch with
        | false =>
            refine ⟨placed, ?_, ?_, apart, later⟩
            · simp [Selection.among, chosen, suits, refs]
            · rw [List.filter_cons_of_neg (by simp [suits]), suited]
        | true =>
            refine ⟨(.registered index, handler) :: placed, ?_, ?_, ?_, ?_⟩
            · simp [Selection.among, chosen, suits, refs]
            · rw [List.filter_cons_of_pos (by simp [suits]), suited, List.map_cons]
            · refine List.nodup_cons.mpr ⟨?_, apart⟩
              intro member
              rcases List.mem_map.mp member with ⟨entry, there, same⟩
              rcases found entry there with ⟨offset, _, place, _⟩
              rw [place] at same
              have index := HandlerRef.registered.inj same
              omega
            · intro entry member
              rcases List.mem_cons.mp member with first | there
              · rw [first]
                exact ⟨0, _, rfl, rfl, alike⟩
              · exact later entry there

/-- The choice of handlers for a batch. -/
theorem choose_eq (staff : Staff) (batch : Batch) :
    (Selection.choose staff.handlers staff.fallback batch).trace = staff.questions batch ∧
      ∃ placed : List (HandlerRef × Handler),
        (Selection.choose staff.handlers staff.fallback batch).chosen = placed.map Prod.fst ∧
        staff.selected batch = placed.map Prod.snd ∧
        (placed.map Prod.fst).Nodup ∧
        ∀ entry ∈ placed,
          Finds { staff with
            handlers := (Selection.choose staff.handlers staff.fallback batch).handlers }
            entry.1 entry.2 := by
  rcases among_eq batch 0 staff.handlers with ⟨trace, placed, refs, suited, apart, found⟩
  rcases staff.fallback.pollSupport_eq batch with ⟨asked, chosen⟩
  by_cases nobody : placed = []
  · have none : staff.primary batch = [] := by
      rw [primary, suited, nobody, List.map_nil]
    have empty : (Selection.among batch 0 staff.handlers).chosen.isEmpty = true := by
      rw [refs, nobody]
      rfl
    simp only [Selection.choose, empty, if_true, asked, chosen, trace, questions, none, selected]
    refine ⟨trivial, ?_⟩
    by_cases supports : staff.fallback.supports batch = .yes
    · refine ⟨[(.fallback, staff.fallback)], ?_, ?_, by simp, ?_⟩
      · simp [supports]
      · simp [supports]
      · intro entry member
        rw [List.mem_singleton.mp member]
        exact ⟨_, rfl, .refl _⟩
    · refine ⟨[], ?_, ?_, .nil, nofun⟩
      · simp [supports]
      · simp [supports]
  · have some : staff.primary batch ≠ [] := by
      rw [primary, suited]
      simpa using nobody
    have filled : (Selection.among batch 0 staff.handlers).chosen.isEmpty = false := by
      rw [refs]
      simpa using nobody
    simp only [Selection.choose, filled, Bool.false_eq_true, if_false, trace, questions, some,
      selected, List.append_nil]
    refine ⟨trivial, placed, refs, suited, apart, ?_⟩
    intro entry member
    rcases found entry member with ⟨offset, present, place, known, alike⟩
    refine ⟨present, ?_, alike⟩
    rw [place, Nat.zero_add]
    exact known

/-- The dispatch of a batch leaves the trace that is spelled out. -/
theorem trace_serve (staff : Staff) (batch : Batch) :
    (staff.serve batch).trace = staff.dispatchTrace batch := by
  rcases choose_eq staff batch with ⟨trace, placed, refs, handlers, apart, found⟩
  have calls := trace_callAll batch apart found
  cases placed with
  | nil => simp [serve, Account.andThen, trace, refs, dispatchTrace, handlers]
  | cons entry rest =>
      simp only [serve, Account.andThen, trace, refs, List.map_cons, List.isEmpty_cons,
        Bool.false_eq_true, if_false, callRest, dispatchTrace, handlers, List.cons_append,
        List.append_assoc, List.nil_append, reduceCtorEq]
      rw [List.map_cons, List.map_cons] at calls
      rw [calls]

end Staff
end FailureDispatch

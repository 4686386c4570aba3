import FailureDispatch.Proofs.Course.Run
import FailureDispatch.Proofs.Dispatch.Order
import FailureDispatch.Proofs.Isolation.Twins

/-!
# Dispatches, stretch by stretch

Journals know handlers by their names, and a fallback may bear the name of a
registered handler.  Whose call an entry belongs to is a matter of places, and that
is known to the reference: it goes through the places that are chosen.  Here its
trace is cut into stretches, each with the place that is called.

Siblings leave stretches that match (`Staff.Siblings.stretches`): the same places
are called, and each call leaves the same, apart from what tells that it came to
nothing and, at the place where the siblings differ, from the acknowledgement.

The reference says what a service comes to between two dispatches.  A service none
of whose calls waits is never left in the middle of one: its worker keeps the turn
until the batch is done with (`KeepsTurn`).
-/

namespace FailureDispatch

/-- A part of the trace of dispatches: what a call leaves, with the place of the
handler that is called, or what is written before, between or after the calls. -/
structure Stretch where
  caller : Option HandlerRef
  entries : Journal

/-- The stretch without what may hang on how calls of the handler in the place came
out.  Only entries of calls are left out, and acknowledgements only of calls of that
handler. -/
def Stretch.apart (index : Nat) (stretch : Stretch) : Stretch :=
  match stretch.caller with
  | none => stretch
  | some ref =>
      { stretch with
        entries := stretch.entries.filter fun entry =>
          !entry.tellsOutcome (decide (ref = .registered index)) }

namespace Staff

/-- Calls one after the other, a stretch for each. -/
def callStretches (batch : Batch) : List HandlerRef → Staff → List Stretch
  | [], _ => []
  | ref :: rest, staff =>
      ⟨some ref, (staff.call batch ref).trace⟩ ::
        callStretches batch rest (staff.call batch ref).staff

/-- The dispatch of a batch. -/
def serveStretches (staff : Staff) (batch : Batch) : List Stretch :=
  let selection := Selection.choose staff.handlers staff.fallback batch
  ⟨none, .dispatchBegun batch :: selection.trace⟩ ::
    if selection.chosen.isEmpty then
      [⟨none, [.logged (.discarded batch.type batch.size), .counted (.dropped batch.type) 1,
        .dispatchEnded batch]⟩]
    else
      ⟨none, [.counted (.handled batch.type) 1]⟩ ::
        callStretches batch selection.chosen { staff with handlers := selection.handlers } ++
          [⟨none, [.dispatchEnded batch]⟩]

/-- The dispatches of batches, one after the other. -/
def stretches : List Batch → Staff → List Stretch
  | [], _ => []
  | batch :: rest, staff => staff.serveStretches batch ++ stretches rest (staff.serve batch).staff

section Whole

theorem entries_callStretches (batch : Batch) (refs : List HandlerRef) (staff : Staff) :
    (callStretches batch refs staff).flatMap Stretch.entries = (staff.callAll batch refs).trace := by
  induction refs generalizing staff with
  | nil => rfl
  | cons ref rest inductionHypothesis =>
      simp only [callStretches, List.flatMap_cons, callAll, Account.andThen, inductionHypothesis]

theorem entries_serveStretches (staff : Staff) (batch : Batch) :
    (staff.serveStretches batch).flatMap Stretch.entries = (staff.serve batch).trace := by
  simp only [serveStretches, serve, Account.andThen]
  split
  · simp
  · simp [entries_callStretches, callRest, Account.andThen]

/-- The stretches make up the whole trace. -/
theorem entries_stretches (batches : List Batch) (staff : Staff) :
    (staff.stretches batches).flatMap Stretch.entries = (staff.serveAll batches).trace := by
  induction batches generalizing staff with
  | nil => rfl
  | cons batch rest inductionHypothesis =>
      simp only [stretches, List.flatMap_append, serveAll, Account.andThen,
        entries_serveStretches, inductionHypothesis]

end Whole

/-! ## Siblings -/

namespace Siblings

/-- What tells how a call came out is not read. -/
theorem filter_eq_nil {own : Bool} {trace : Journal}
    (tells : ∀ entry ∈ trace, entry.tellsOutcome own = true) :
    trace.filter (fun entry => !entry.tellsOutcome own) = [] := by
  apply List.filter_eq_nil_iff.mpr
  intro entry member
  simp only [tells entry member, Bool.not_true, Bool.false_eq_true, not_false_eq_true]

/-- After a call that comes out alike, the acknowledger may come out otherwise, and that
is not read. -/
theorem filter_afterHandling (left right : Staff) (own : Bool) (batch : Batch) (called : String)
    (conclusion : Conclusion) :
    (left.afterHandling batch called conclusion).trace.filter (fun entry => !entry.tellsOutcome own) =
      (right.afterHandling batch called conclusion).trace.filter
        fun entry => !entry.tellsOutcome own := by
  cases conclusion with
  | failure error => rfl
  | panic => rfl
  | success =>
      simp only [Staff.afterHandling, Staff.acknowledge]
      cases batch.ackRefs with
      | none => rfl
      | some refs =>
          have unread (staff : Staff) (conclusion : Conclusion) :=
            filter_eq_nil fun entry member =>
              tells_afterAcknowledging staff batch called conclusion entry member own
          simp only [Account.andThen, List.filter_append, unread]

variable {name : String} {index : Nat} {left right : Staff}
  (siblings : Siblings name index left right)
include siblings

theorem call_apart (batch : Batch) (ref : HandlerRef) :
    Stretch.apart index ⟨some ref, (left.call batch ref).trace⟩ =
      Stretch.apart index ⟨some ref, (right.call batch ref).trace⟩ := by
  apply congrArg (Stretch.mk (some ref))
  rcases siblings.handler?_eq_or ref with
    same | ⟨rule, switch, script, other, place, known, knownToo⟩
  · cases known : left.handler? ref with
    | none =>
        rw [known] at same
        simp only [Staff.call, known, ← same]
        rfl
    | some handler =>
        rw [known] at same
        simp only [Staff.call, known, ← same, Account.andThen, List.filter_append]
        exact congrArg _ (filter_afterHandling _ _ _ batch handler.name _)
  · subst place
    have unread (staff : Staff) (conclusion : Conclusion) :=
      filter_eq_nil (staff.tells_afterHandling batch name conclusion)
    simp only [Staff.call, known, knownToo, Account.andThen, List.filter_append, decide_true,
      unread]
    rfl

omit siblings in
/-- Siblings make calls at the same places, and each of them leaves the same. -/
theorem callStretches (batch : Batch) (refs : List HandlerRef) {left right : Staff}
    (siblings : Siblings name index left right) :
    (Staff.callStretches batch refs left).map (Stretch.apart index) =
        (Staff.callStretches batch refs right).map (Stretch.apart index) ∧
      Siblings name index (left.callAll batch refs).staff (right.callAll batch refs).staff := by
  induction refs generalizing left right with
  | nil => exact ⟨rfl, siblings⟩
  | cons ref rest inductionHypothesis =>
      rcases inductionHypothesis (siblings.call batch ref).staff with ⟨others, later⟩
      refine ⟨?_, later⟩
      simp only [Staff.callStretches, List.map_cons]
      exact congrArg₂ List.cons (siblings.call_apart batch ref) others

theorem serveStretches (batch : Batch) :
    (left.serveStretches batch).map (Stretch.apart index) =
        (right.serveStretches batch).map (Stretch.apart index) ∧
      Siblings name index (left.serve batch).staff (right.serve batch).staff := by
  rcases siblings.choose batch with ⟨chosen, trace, asked⟩
  rcases callStretches batch
    (Selection.choose left.handlers left.fallback batch).chosen asked with ⟨called, later⟩
  simp only [Staff.serveStretches, Staff.serve, ← chosen, ← trace, Account.andThen]
  split
  · exact ⟨rfl, asked⟩
  · refine ⟨?_, later⟩
    simp only [List.map_cons, List.map_append, List.cons_append, called]

omit siblings in
/-- Siblings dispatch batches alike, whatever the scripts in which they differ. -/
theorem stretches (batches : List Batch) {left right : Staff}
    (siblings : Siblings name index left right) :
    (left.stretches batches).map (Stretch.apart index) =
      (right.stretches batches).map (Stretch.apart index) := by
  induction batches generalizing left right with
  | nil => rfl
  | cons batch rest inductionHypothesis =>
      rcases siblings.serveStretches batch with ⟨same, later⟩
      simp only [Staff.stretches, List.map_append, same, inductionHypothesis later]

end Siblings
end Staff

namespace Deployment

/-! ## Between two dispatches -/

/-- No call waits, none is interrupted, and a worker with a batch in hand keeps the turn. -/
structure KeepsTurn (deployment : Deployment) : Prop where
  prompt : deployment.service.staff.Prompt
  between : deployment.service.worker.Between
  line : deployment.service.worker.isFree = true ∨ .worker ∈ deployment.ready

namespace KeepsTurn

variable {before after : Deployment}

theorem unseen (keeps : before.KeepsTurn) (unseen : Unseen before after)
    (line : after.service.worker.isFree = true ∨ (.worker ∈ before.ready → .worker ∈ after.ready)) :
    after.KeepsTurn := by
  refine ⟨?_, ?_, ?_⟩
  · rw [unseen.staff]
    exact keeps.prompt
  · rcases unseen.worker with same | ⟨_, free⟩
    · rw [same]
      exact keeps.between
    · exact after.service.worker.between_of_isFree free
  · rcases line with free | grows
    · exact Or.inl free
    · rcases keeps.line with free | stands
      · rcases unseen.worker with same | ⟨_, freeLater⟩
        · rw [same]
          exact Or.inl free
        · exact Or.inl freeLater
      · exact Or.inr (grows stands)

theorem opens (keeps : before.KeepsTurn) (stands : .worker ∈ before.ready) (phase : Phase)
    (batch : Batch) : (before.beginDispatch phase batch).KeepsTurn := by
  have asked := keeps.prompt.choose batch
  generalize choice : Selection.choose before.service.handlers before.service.fallback batch =
    selection
  have same : Selection.choose before.service.staff.handlers before.service.staff.fallback batch =
    selection := choice
  rw [same] at asked
  by_cases nobody : selection.chosen = []
  · rw [beginDispatch_of_nobody choice nobody phase]
    exact ⟨asked, phase.resume.between_of_isFree phase.isFree_resume, Or.inr stands⟩
  · rw [beginDispatch_of_chosen choice nobody phase]
    exact ⟨asked, Worker.between_dispatching phase batch _, Or.inr stands⟩

/-- A turn with a batch in hand makes one call from beginning to end, or none. -/
theorem advances (keeps : before.KeepsTurn) (stands : .worker ∈ before.ready) {phase : Phase}
    {dispatch : Dispatch} (here : before.service.worker = .dispatching phase dispatch) :
    ((before.advanceDispatch phase dispatch).2.afterTurn
      (before.advanceDispatch phase dispatch).1).KeepsTurn := by
  have idle : dispatch.current = none := by
    have between := keeps.between
    rwa [here] at between
  have prompt := keeps.prompt
  unfold advanceDispatch
  rw [idle]
  cases dispatch.pending with
  | nil =>
      exact ⟨prompt, phase.resume.between_of_isFree phase.isFree_resume,
        Or.inl phase.isFree_resume⟩
  | cons ref rest =>
      dsimp only
      rw [callHandler_of_prompt prompt.acknowledger fun _ => prompt.handler]
      exact ⟨prompt.call dispatch.batch ref, Worker.between_dispatching phase _ rest,
        Or.inr stands⟩

theorem serves (keeps : before.KeepsTurn) (serves : Serves before after) :
    after.KeepsTurn := by
  cases serves with
  | unseen unseen line => exact keeps.unseen unseen line
  | @opens middle phase batch unseen free line =>
      exact (keeps.unseen unseen (Or.inl free)).opens line phase batch
  | advances line here =>
      refine keeps.advances ?_ here
      rw [line]
      exact List.mem_cons_self

theorem reaches {others : Bool} (keeps : before.KeepsTurn) (sound : before.OnCourse)
    (reaches : Reaches others before after) : after.KeepsTurn := by
  apply reaches.keeps _ sound keeps
  intro before after sound move keeps
  exact keeps.serves (move.serves sound)

/-- When nobody can act, no batch is in hand. -/
theorem settled (keeps : before.KeepsTurn) (settled : before.Settled) :
    before.service.worker.isFree = true := by
  apply keeps.line.resolve_right
  intro stands
  rw [show before.ready = [] from settled] at stands
  cases stands

theorem of_free (prompt : before.service.staff.Prompt)
    (free : before.service.worker.isFree = true) : before.KeepsTurn :=
  ⟨prompt, before.service.worker.between_of_isFree free, Or.inl free⟩

end KeepsTurn

section Runs

variable {before after : Deployment} {id : Nat}

/-- A step leaves no dispatch unfinished. -/
theorem Taken.free {step : Step} (taken : Taken before id step after) (sound : before.OnCourse)
    (numbered : Numbered id before) (prompt : before.service.staff.Prompt)
    (free : before.service.worker.isFree = true) : after.service.worker.isFree = true := by
  have reached : Reaches true before after ∧ Numbered (id + 1) after :=
    taken.reaches sound numbered fun _ => rfl
  have keeps := (KeepsTurn.of_free prompt free).reaches sound reached.1
  cases taken with
  | acts atOnce _ =>
      rcases sound.buffered with ⟨queue, buffered⟩
      rcases ((atOnce.act.outside buffered).unseen sound buffered).worker with same | ⟨_, later⟩
      · rw [same]
        exact free
      · exact later
  | settles => exact keeps.settled (settled_settle _)
  | advances duration => exact keeps.settled (settled_advance _ duration)
  | aborts _ _ => exact keeps.settled (settled_settle _)
  | begins _ _ _ _ => exact keeps.settled (settled_settle _)
  | joins _ _ => exact keeps.settled (settled_settle _)

theorem free_run (sound : before.OnCourse) (numbered : Numbered id before)
    (prompt : before.service.staff.Prompt) (free : before.service.worker.isFree = true)
    (steps : List (Option Step)) : (before.run id steps).2.service.worker.isFree = true := by
  induction steps generalizing id before with
  | nil => exact free
  | cons step rest inductionHypothesis =>
      cases step with
      | none => exact inductionHypothesis sound (numbered.mono (Nat.le_succ id)) prompt free
      | some step =>
          have taken : Taken before id step (before.take id step).2 := take_taken id step
          have reached : Reaches true before (before.take id step).2 ∧ Numbered (id + 1) _ :=
            taken.reaches sound numbered fun _ => rfl
          have keeps := (KeepsTurn.of_free prompt free).reaches sound reached.1
          exact inductionHypothesis (sound.reaches reached.1) reached.2 keeps.prompt
            (taken.free sound numbered prompt free)

/-- After every step of a run, what has been dispatched is what the reference says. -/
theorem dispatches_run (sound : before.OnCourse) (numbered : Numbered id before)
    (prompt : before.service.staff.Prompt) (free : before.service.worker.isFree = true)
    (steps : List (Option Step)) :
    ∃ batches, (before.run id steps).2.journal.begun = before.journal.begun ++ batches ∧
      (before.run id steps).2.journal.dispatches =
        before.journal.dispatches ++
          (before.service.staff.stretches batches).flatMap Stretch.entries := by
  have reaches : Reaches true before (before.run id steps).2 :=
    reaches_run sound numbered steps fun _ _ _ => rfl
  rcases (inOrderSince_self free).reaches sound reaches with
    ⟨batches, later, begun, dispatches, standing⟩
  have whole := standing.account_eq (free_run sound numbered prompt free steps)
  refine ⟨batches, begun, ?_⟩
  rw [Staff.entries_stretches, ← whole]
  exact dispatches

end Runs
end Deployment
end FailureDispatch

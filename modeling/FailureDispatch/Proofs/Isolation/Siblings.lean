import FailureDispatch.Proofs.Dispatch.Upkeep
import FailureDispatch.Proofs.Isolation.Prompt
import FailureDispatch.Proofs.Journal.Apart

/-!
# Staffs that differ in one script

Two staffs are siblings if they have the same handlers, except that the handler
in one place may do something else with its batches, and if none of their calls
waits.  The acknowledger is another one too: a handler that succeeds less often
asks for fewer acknowledgements, so the same acknowledger soon stands elsewhere
in its script.

Siblings choose the same handlers for a batch, by the same questions.  A call of
a handler that they share comes out alike in both, up to what its
acknowledgement comes to; a call of the handler in which they differ leaves
nothing else than what tells how it came out.  Either way they remain siblings.
-/

namespace FailureDispatch

namespace Handler

/-- The handler without its script. -/
def unscripted (handler : Handler) : Handler :=
  match handler.conduct with
  | .logging => handler
  | .scripted rule switch _ => { handler with conduct := .scripted rule switch ⟨[]⟩ }

theorem name_unscripted (handler : Handler) : handler.unscripted.name = handler.name := by
  rcases handler with ⟨name, _ | _⟩ <;> rfl

/-- Handlers that are equal without their scripts differ in their scripts only. -/
theorem eq_or_of_unscripted {handler other : Handler}
    (same : handler.unscripted = other.unscripted) :
    handler = other ∨
      ∃ rule switch script otherScript,
        handler = ⟨handler.name, .scripted rule switch script⟩ ∧
          other = ⟨handler.name, .scripted rule switch otherScript⟩ := by
  rcases handler with ⟨name, _ | ⟨rule, switch, script⟩⟩
  · rcases other with ⟨otherName, _ | _⟩
    · exact Or.inl same
    · cases same
  · rcases other with ⟨otherName, _ | ⟨otherRule, otherSwitch, otherScript⟩⟩
    · cases same
    · cases same
      exact Or.inr ⟨rule, switch, script, otherScript, rfl, rfl⟩

theorem conclude_unscripted (handler : Handler) (batch : Batch) (verdict : Verdict)
    (trace : Journal) :
    handler.unscripted.conclude batch verdict trace =
      { handler.conclude batch verdict trace with
        handler := (handler.conclude batch verdict trace).handler.unscripted } := by
  cases verdict with
  | panic => simp only [conclude, panicTrace, name_unscripted]
  | yes => rfl
  | no => rfl

theorem isEnabled_unscripted (handler : Handler) :
    handler.unscripted.isEnabled = (handler.isEnabled.1, handler.isEnabled.2.unscripted) := by
  rcases handler with ⟨name, _ | ⟨rule, _ | switch, script⟩⟩ <;> rfl

/-- Questions have nothing to do with the script. -/
theorem poll_unscripted (handler : Handler) (batch : Batch) :
    handler.unscripted.poll batch =
      { handler.poll batch with handler := (handler.poll batch).handler.unscripted } := by
  have supports : handler.unscripted.supports batch = handler.supports batch := by
    rcases handler with ⟨name, _ | _⟩ <;> rfl
  have asked : handler.unscripted.askTrace = handler.askTrace := by
    rcases handler with ⟨name, _ | _⟩ <;> rfl
  have checked : handler.unscripted.checkTrace = handler.checkTrace := by
    rcases handler with ⟨name, _ | ⟨rule, _ | switch, script⟩⟩ <;> rfl
  unfold poll
  rw [supports, asked, checked, isEnabled_unscripted]
  cases handler.supports batch with
  | yes => exact conclude_unscripted _ batch _ _
  | no => exact conclude_unscripted handler batch _ _
  | panic => exact conclude_unscripted handler batch _ _

end Handler

namespace Selection

theorem among_unscripted (batch : Batch) (first place : Nat) (handlers : List Handler) :
    among batch first (handlers.modify place Handler.unscripted) =
      { among batch first handlers with
        handlers := (among batch first handlers).handlers.modify place Handler.unscripted } := by
  induction handlers generalizing first place with
  | nil => cases place <;> rfl
  | cons handler rest inductionHypothesis =>
      cases place with
      | zero => simp only [List.modify_zero_cons, among, handler.poll_unscripted]
      | succ place => simp only [List.modify_succ_cons, among, inductionHypothesis]

/-- The choice has nothing to do with the scripts. -/
theorem choose_unscripted (place : Nat) (handlers : List Handler) (fallback : Handler)
    (batch : Batch) :
    choose (handlers.modify place Handler.unscripted) fallback batch =
      { choose handlers fallback batch with
        handlers :=
          (choose handlers fallback batch).handlers.modify place Handler.unscripted } := by
  unfold choose
  dsimp only
  rw [among_unscripted]
  split <;> rfl

end Selection

/-- Put a value in a place of a list, and change one place of it. -/
theorem modify_set {α : Type} (values : List α) (place index : Nat) (value : α)
    (change : α → α) :
    (values.set place value).modify index change =
      (values.modify index change).set place (if place = index then change value else value) := by
  apply List.ext_getElem?
  intro position
  simp only [List.getElem?_modify, List.getElem?_set, List.length_modify]
  by_cases here : place = position
  · rw [← here]
    by_cases inside : place < values.length
    · by_cases changed : place = index
      · simp [changed]
      · simp [inside, changed, Ne.symm changed]
    · simp [inside]
  · simp [here]

namespace Staff

/-- The staff without the script of one registered handler and without that of
the acknowledger. -/
def bare (index : Nat) (staff : Staff) : Staff :=
  ⟨staff.handlers.modify index Handler.unscripted, staff.fallback, ⟨[]⟩⟩

/-- The staffs are equal except for the script of one handler, which is known
under a name, and for what is left of the acknowledger's script. -/
structure Siblings (name : String) (index : Nat) (left right : Staff) : Prop where
  bare : left.bare index = right.bare index
  named : ∀ handler, left.handlers[index]? = some handler → handler.name = name
  left : left.Prompt
  right : right.Prompt

/-- What siblings do leaves them siblings, and what it leaves in the journal
reads alike. -/
structure Accords (name : String) (index : Nat) (left right : Account) : Prop where
  staff : Siblings name index left.staff right.staff
  alike : left.trace.Alike name right.trace

namespace Siblings

variable {name : String} {index : Nat} {left right : Staff}
  (siblings : Siblings name index left right)
include siblings

theorem handlers_eq_of_ne {place : Nat} (other : place ≠ index) :
    left.handlers[place]? = right.handlers[place]? := by
  have same := congrArg (fun staff : Staff => staff.handlers[place]?) siblings.bare
  simpa only [Staff.bare, List.getElem?_modify, if_neg (Ne.symm other), id_map'] using same

/-- The handler in a place is the same in both, or it is the one in which they
may differ, and they differ in its script. -/
theorem handler?_eq_or (ref : HandlerRef) :
    left.handler? ref = right.handler? ref ∨
      ∃ rule switch script other, ref = .registered index ∧
        left.handler? ref = some ⟨name, .scripted rule switch script⟩ ∧
        right.handler? ref = some ⟨name, .scripted rule switch other⟩ := by
  cases ref with
  | fallback =>
      have same := congrArg Staff.fallback siblings.bare
      exact Or.inl (congrArg some same)
  | registered place =>
      by_cases here : place = index
      · rw [here]
        have same := congrArg (fun staff : Staff => staff.handlers[index]?) siblings.bare
        simp only [Staff.bare, List.getElem?_modify, if_true] at same
        simp only [handler?]
        cases known : left.handlers[index]? with
        | none =>
            rw [known] at same
            exact Or.inl (Option.map_eq_none_iff.mp same.symm).symm
        | some handler =>
            rw [known] at same
            rcases Option.map_eq_some_iff.mp same.symm with ⟨other, knownToo, unscripted⟩
            rw [knownToo, ← siblings.named handler known]
            rcases Handler.eq_or_of_unscripted unscripted.symm with
              equal | ⟨rule, switch, script, otherScript, scripted, scriptedToo⟩
            · exact Or.inl (congrArg some equal)
            · exact Or.inr ⟨rule, switch, script, otherScript, trivial,
                congrArg some scripted, congrArg some scriptedToo⟩
      · exact Or.inl (siblings.handlers_eq_of_ne here)

/-- Siblings ask the same questions and choose the same handlers. -/
theorem choose (batch : Batch) :
    (Selection.choose left.handlers left.fallback batch).chosen =
        (Selection.choose right.handlers right.fallback batch).chosen ∧
      (Selection.choose left.handlers left.fallback batch).trace =
        (Selection.choose right.handlers right.fallback batch).trace ∧
      Siblings name index
        { left with handlers := (Selection.choose left.handlers left.fallback batch).handlers }
        { right with
          handlers := (Selection.choose right.handlers right.fallback batch).handlers } := by
  have same := congrArg
    (fun staff : Staff => Selection.choose staff.handlers staff.fallback batch) siblings.bare
  simp only [Staff.bare, Selection.choose_unscripted, Selection.mk.injEq] at same
  rcases same with ⟨handlers, chosen, trace⟩
  refine ⟨chosen, trace, ?_, ?_, siblings.left.choose batch, siblings.right.choose batch⟩
  · have fallback := congrArg Staff.fallback siblings.bare
    simp only [Staff.bare] at fallback ⊢
    rw [handlers, fallback]
  · intro handler known
    rw [Selection.handlers_choose, List.getElem?_map] at known
    rcases Option.map_eq_some_iff.mp known with ⟨before, there, polled⟩
    rw [← polled, Handler.name_poll]
    exact siblings.named before there

/-- Put handlers in a place that differ in nothing but their scripts, or in
nothing at all. -/
theorem setHandler {ref : HandlerRef} {handler other : Handler}
    (alike : handler = other ∨
      ref = .registered index ∧ handler.unscripted = other.unscripted)
    (named : ref = .registered index → handler.name = name)
    (prompt : handler.Prompt) (promptToo : other.Prompt) :
    Siblings name index (left.setHandler ref handler) (right.setHandler ref other) where
  bare := by
    have same := siblings.bare
    cases ref with
    | fallback =>
        have equal : handler = other := alike.resolve_right fun there => by cases there.1
        rw [equal]
        exact congrArg (fun staff : Staff => { staff with fallback := other }) same
    | registered place =>
        have handlers := congrArg Staff.handlers same
        have fallback := congrArg Staff.fallback same
        simp only [Staff.bare] at handlers fallback
        have placed : (if place = index then handler.unscripted else handler) =
            if place = index then other.unscripted else other := by
          by_cases here : place = index
          · rw [if_pos here, if_pos here]
            rcases alike with equal | ⟨_, unscripted⟩
            · rw [equal]
            · exact unscripted
          · rw [if_neg here, if_neg here]
            exact alike.resolve_right fun there => here (HandlerRef.registered.inj there.1)
        simp only [Staff.setHandler, Staff.bare, modify_set, handlers, fallback, placed]
  named := by
    intro present known
    cases ref with
    | fallback => exact siblings.named present known
    | registered place =>
        simp only [Staff.setHandler, List.getElem?_set] at known
        split at known
        · next here =>
          split at known
          · cases known
            exact named (congrArg _ here)
          · cases known
        · exact siblings.named present known
  left := siblings.left.setHandler prompt ref
  right := siblings.right.setHandler promptToo ref

end Siblings

/-! ## What a call comes to -/

section Outcome

variable (staff : Staff) (batch : Batch) (called : String)

theorem tells_fault (error : FailureError) :
    ∀ entry ∈ (staff.fault batch called error).trace, ∀ own, entry.tellsOutcome own = true := by
  intro entry member own
  rcases List.mem_cons.mp member with equal | member
  · rw [equal]
    rfl
  · rw [List.mem_singleton.mp member]
    rfl

theorem tells_afterAcknowledging (conclusion : Conclusion) :
    ∀ entry ∈ (staff.afterAcknowledging batch called conclusion).trace,
      ∀ own, entry.tellsOutcome own = true := by
  cases conclusion with
  | panic => exact staff.tells_fault batch called _
  | success => exact fun entry member => absurd member List.not_mem_nil
  | failure error => exact fun entry member => absurd member List.not_mem_nil

theorem tells_acknowledge :
    ∀ entry ∈ (staff.acknowledge batch called).trace, entry.tellsOutcome true = true := by
  unfold acknowledge
  split
  · exact fun entry member => staff.tells_fault batch called _ entry member true
  · intro entry member
    rcases List.mem_append.mp member with first | later
    · rcases List.mem_cons.mp first with equal | last
      · rw [equal]
        rfl
      · rw [List.mem_singleton.mp last]
        rfl
    · exact tells_afterAcknowledging _ batch called _ entry later true

/-- Whatever follows the beginning of a call tells how it came out. -/
theorem tells_afterHandling (conclusion : Conclusion) :
    ∀ entry ∈ (staff.afterHandling batch called conclusion).trace,
      entry.tellsOutcome true = true := by
  cases conclusion with
  | success => exact staff.tells_acknowledge batch called
  | failure error =>
      exact fun entry member => staff.tells_fault batch called error entry member true
  | panic => exact fun entry member => staff.tells_fault batch called _ entry member true

/-- The end of a call changes at most the acknowledger. -/
theorem kept_afterHandling (conclusion : Conclusion) :
    (staff.afterHandling batch called conclusion).staff.handlers = staff.handlers ∧
      (staff.afterHandling batch called conclusion).staff.fallback = staff.fallback := by
  cases conclusion with
  | success =>
      simp only [afterHandling, acknowledge]
      split
      · exact ⟨rfl, rfl⟩
      · simp only [Account.andThen]
        cases Action.conclude called (staff.acknowledger.next []).1 <;> exact ⟨rfl, rfl⟩
  | failure error => exact ⟨rfl, rfl⟩
  | panic => exact ⟨rfl, rfl⟩

end Outcome

namespace Siblings

variable {name : String} {index : Nat} {left right : Staff}
  (siblings : Siblings name index left right)
include siblings

/-- Siblings remain siblings however their calls come out. -/
theorem afterHandling (batch : Batch) (called : String) (conclusion other : Conclusion) :
    Siblings name index (left.afterHandling batch called conclusion).staff
      (right.afterHandling batch called other).staff := by
  rcases left.kept_afterHandling batch called conclusion with ⟨handlers, fallback⟩
  rcases right.kept_afterHandling batch called other with ⟨handlersToo, fallbackToo⟩
  refine ⟨?_, ?_, siblings.left.afterHandling batch called conclusion,
    siblings.right.afterHandling batch called other⟩
  · have same := siblings.bare
    simp only [Staff.bare] at same ⊢
    rw [handlers, fallback, handlersToo, fallbackToo]
    exact same
  · rw [handlers]
    exact siblings.named

omit siblings in
theorem alike_acknowledge (batch : Batch) (called : String) :
    (left.acknowledge batch called).trace.Alike name (right.acknowledge batch called).trace := by
  unfold acknowledge
  cases batch.ackRefs with
  | none => exact .refl name _
  | some refs =>
      have counted :=
        Journal.Alike.refl name [.counted .unitsAcknowledged refs.length, .acknowledged refs]
      exact counted.append
        (.of_failures (tells_afterAcknowledging _ batch called _)
          (tells_afterAcknowledging _ batch called _))

omit siblings in
/-- A handler that comes out alike is followed by the same, up to how the
acknowledgement comes out. -/
theorem alike_afterHandling (batch : Batch) (called : String) (conclusion : Conclusion) :
    (left.afterHandling batch called conclusion).trace.Alike name
      (right.afterHandling batch called conclusion).trace := by
  cases conclusion with
  | success => exact alike_acknowledge batch called
  | failure error => exact .refl name _
  | panic => exact .refl name _

/-- The same call, made by siblings. -/
theorem call (batch : Batch) (ref : HandlerRef) :
    Accords name index (left.call batch ref) (right.call batch ref) := by
  rcases siblings.handler?_eq_or ref with
    same | ⟨rule, switch, script, other, place, known, knownToo⟩
  · cases known : left.handler? ref with
    | none =>
        rw [known] at same
        simp only [Staff.call, known, ← same]
        exact ⟨siblings, .refl name []⟩
    | some handler =>
        rw [known] at same
        have named : ref = .registered index → handler.begin.2.name = name := by
          intro here
          rw [handler.name_begin]
          apply siblings.named
          rw [here] at known
          exact known
        have prompt := (siblings.left.handler known).begin.1
        have called := siblings.setHandler (Or.inl rfl) named prompt prompt
        simp only [Staff.call, known, ← same]
        exact ⟨called.afterHandling batch handler.name _ _,
          (Journal.Alike.refl name _).append (alike_afterHandling batch handler.name _)⟩
  · have prompt := (siblings.left.handler known).begin.1
    have promptToo := (siblings.right.handler knownToo).begin.1
    have unscripted :
        (Handler.begin ⟨name, .scripted rule switch script⟩).2.unscripted =
          (Handler.begin ⟨name, .scripted rule switch other⟩).2.unscripted := rfl
    have called := siblings.setHandler (Or.inr ⟨place, unscripted⟩) (fun _ => rfl)
      prompt promptToo
    simp only [Staff.call, known, knownToo]
    refine ⟨called.afterHandling batch name _ _, ?_⟩
    -- The scripts decide how the call comes out, and nothing of that is read.
    apply Journal.Alike.of_own
    · intro own
      exact beq_self_eq_true name
    · exact tells_afterHandling _ batch name _
    · exact tells_afterHandling _ batch name _

end Siblings

end Staff
end FailureDispatch

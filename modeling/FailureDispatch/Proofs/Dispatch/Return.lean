import FailureDispatch.Proofs.Course.Beside
import FailureDispatch.Proofs.Dispatch.Serving
import FailureDispatch.Proofs.Dispatch.Trace
import Mathlib.Data.Prod.Lex
import Mathlib.Order.WellFounded

/-!
# Every dispatch returns with its trace

The dispatch of a batch is followed through everything that may happen to its
service meanwhile, over any queue: calls come and go, the service may be told to
stop, the queue may be closed.  Two things are kept apart.

What the dispatch leaves is settled step by step.  As long as the batch is in hand,
what the worker has written since is the beginning of the reference trace, and the
rest of it is what is still to come of the dispatch (`Underway`); an event either
keeps it so, or ends the dispatch with the whole trace (`Over`).  No event ends it
otherwise: no fault of a handler, of the references or of the acknowledger tears the
worker down.

That the dispatch ends needs that its waits end.  A turn of the worker after a wait
that is over lessens what is left to do (`Dispatch.toil`), and no event adds to it.
The measure is lexicographic because a call that succeeds is followed by as many
actions as the acknowledger's script happens to have.
-/

namespace FailureDispatch

/-- Where there is no endless descent, what never rises does not fall again and again. -/
theorem not_always_falls {α : Type*} [Preorder α] [WellFoundedLT α] {measure : ℕ → α}
    (never : Antitone measure) (often : ∀ n, ∃ m ≥ n, measure (m + 1) < measure m) : False := by
  have nowhere (value : α) : ∀ n, measure n ≠ value := by
    induction value using WellFoundedLT.induction with
    | ind value inductionHypothesis =>
        intro n same
        rcases often n with ⟨m, later, falls⟩
        have less : measure (m + 1) < value := lt_of_lt_of_le falls (same ▸ never later)
        exact inductionHypothesis _ less (m + 1) rfl
  exact nowhere _ 0 rfl

/-! ## What is left to do -/

/-- How far a call still has to go that waits in the middle. -/
def Invocation.toil (invocation : Invocation) : ℕ ×ₗ ℕ :=
  match invocation.stage with
  | .handling => toLex (2, invocation.rest.length)
  | .acknowledging => toLex (1, invocation.rest.length)

/-- How far a dispatch still has to go: the calls that have not begun, and then the one
under way. -/
def Dispatch.toil (dispatch : Dispatch) : ℕ ×ₗ (ℕ ×ₗ ℕ) :=
  toLex (dispatch.pending.length,
    match dispatch.current with
    | none => toLex (0, 0)
    | some invocation => invocation.toil)

theorem Dispatch.toil_lt_of_pending {later earlier : Dispatch}
    (fewer : later.pending.length < earlier.pending.length) : later.toil < earlier.toil :=
  Prod.Lex.toLex_lt_toLex.mpr (Or.inl fewer)

/-- A call that is over leaves less to do than one under way. -/
theorem Invocation.none_lt_toil (invocation : Invocation) :
    (toLex (0, 0) : ℕ ×ₗ ℕ) < invocation.toil := by
  unfold toil
  cases invocation.stage with
  | handling => exact Prod.Lex.toLex_lt_toLex.mpr (Or.inl Nat.two_pos)
  | acknowledging => exact Prod.Lex.toLex_lt_toLex.mpr (Or.inl Nat.one_pos)

namespace Deployment

section Toil

variable (deployment : Deployment)

/-- A performance that waits has got past at least one action. -/
theorem length_rest_perform (name : String) (actions : List Action) {pause : Pause}
    {rest : List Action} (waits : (deployment.perform name actions).1 = .waits pause rest) :
    rest.length < actions.length := by
  fun_induction perform deployment name actions with
  | case1 | case3 | case4 | case5 => cases waits
  | case2 _ _ inductionHypothesis => exact Nat.lt_succ_of_lt (inductionHypothesis waits)
  | case6 _ _ inductionHypothesis => exact Nat.lt_succ_of_lt (inductionHypothesis waits)
  | case7 => cases waits; exact Nat.lt_succ_self _
  | case8 _ _ _ _ _ inductionHypothesis => exact Nat.lt_succ_of_lt (inductionHypothesis waits)
  | case9 => cases waits; exact Nat.lt_succ_self _

theorem current_afterAcknowledging {batch : Batch} {ref : HandlerRef} {name : String}
    {performance : Performance} {later : Invocation}
    (waits : (deployment.afterAcknowledging batch ref name performance).1 = some later) :
    later.stage = .acknowledging ∧ ∃ pause, performance = .waits pause later.rest := by
  unfold afterAcknowledging at waits
  split at waits
  · cases waits
  · cases waits
  · cases waits
    exact ⟨rfl, _, rfl⟩

/-- After handling, a call waits on where it waited, or has come to the acknowledger. -/
theorem current_afterHandling {batch : Batch} {ref : HandlerRef} {name : String}
    {performance : Performance} {later : Invocation}
    (waits : (deployment.afterHandling batch ref name performance).1 = some later) :
    later.stage = .acknowledging ∨
      (later.stage = .handling ∧ ∃ pause, performance = .waits pause later.rest) := by
  unfold afterHandling at waits
  split at waits
  · unfold acknowledge at waits
    split at waits
    · cases waits
    · exact Or.inl (current_afterAcknowledging _ waits).1
  · cases waits
  · cases waits
  · cases waits
    exact Or.inr ⟨rfl, _, rfl⟩

/-- A call that goes on and waits again has less left to do. -/
theorem toil_continueCall {batch : Batch} {invocation later : Invocation}
    (waits : (deployment.continueCall batch invocation).1 = some later) :
    later.toil < invocation.toil := by
  unfold continueCall at waits
  cases known : deployment.service.handler? invocation.ref with
  | none =>
      rw [known] at waits
      cases waits
  | some handler =>
      simp only [known] at waits
      have shorter {pause : Pause}
          (performed : (deployment.perform handler.name invocation.rest).1 =
            .waits pause later.rest) : later.rest.length < invocation.rest.length :=
        length_rest_perform _ _ _ performed
      cases stage : invocation.stage with
      | handling =>
          simp only [stage] at waits
          rcases current_afterHandling _ waits with acknowledging | ⟨handling, pause, performed⟩
          · simp only [Invocation.toil, stage, acknowledging]
            exact Prod.Lex.toLex_lt_toLex.mpr (Or.inl Nat.one_lt_two)
          · simp only [Invocation.toil, stage, handling]
            exact Prod.Lex.toLex_lt_toLex.mpr (Or.inr ⟨rfl, shorter performed⟩)
      | acknowledging =>
          simp only [stage] at waits
          rcases current_afterAcknowledging _ waits with ⟨acknowledging, pause, performed⟩
          simp only [Invocation.toil, stage, acknowledging]
          exact Prod.Lex.toLex_lt_toLex.mpr (Or.inr ⟨rfl, shorter performed⟩)

end Toil

/-- What the worker waits for in the middle of a dispatch, if anything, is over. -/
def WaitIsOver (deployment : Deployment) : Prop :=
  ∀ phase dispatch invocation, deployment.service.worker = .dispatching phase dispatch →
    dispatch.current = some invocation → (deployment.pauseOver invocation.pause).1 = true

/-- The worker has his turn, and does not have it in vain. -/
def GoesOn (before after : Deployment) : Prop :=
  (∃ rest, before.ready = .worker :: rest) ∧ before.WaitIsOver ∧ after = before.tick

section Turn

variable {deployment : Deployment} {phase : Phase} {dispatch later : Dispatch}
  (here : deployment.service.worker = .dispatching phase dispatch)
  (there : (deployment.advanceDispatch phase dispatch).2.service.worker = .dispatching phase later)
include here there

/-- A turn with a batch in hand leaves no more to do than before, and less if it is not
in vain. -/
theorem toil_advanceDispatch :
    later.toil ≤ dispatch.toil ∧ (deployment.WaitIsOver → later.toil < dispatch.toil) := by
  unfold advanceDispatch at there
  cases current : dispatch.current with
  | some invocation =>
      rcases pauseOver_conforms deployment invocation.pause with ⟨gates, same⟩
      cases waited : deployment.pauseOver invocation.pause with
      | mk passed resumed =>
          rw [waited] at same
          simp only [current, waited] at there
          cases passed with
          | false =>
              have kept : resumed.service = deployment.service := by
                rw [show resumed = { deployment with gates } from same]
              dsimp only at there
              rw [kept, here] at there
              cases there
              refine ⟨le_refl _, ?_⟩
              intro ended
              have impossible := ended phase dispatch invocation here current
              rw [waited] at impossible
              cases impossible
          | true =>
              have less : later.toil < dispatch.toil := by
                cases there
                simp only [Dispatch.toil, current]
                refine Prod.Lex.toLex_lt_toLex.mpr (Or.inr ⟨rfl, ?_⟩)
                dsimp only
                split
                · exact invocation.none_lt_toil
                · next waits => exact toil_continueCall _ waits
              exact ⟨le_of_lt less, fun _ => less⟩
  | none =>
      cases pending : dispatch.pending with
      | nil =>
          simp only [current, pending] at there
          cases phase <;> cases there
      | cons ref rest =>
          simp only [current, pending] at there
          have less : later.toil < dispatch.toil := by
            cases there
            apply Dispatch.toil_lt_of_pending
            rw [pending]
            exact Nat.lt_succ_self _
          exact ⟨le_of_lt less, fun _ => less⟩

end Turn

/-! ## One event -/

/-- The batch is in hand: what the worker has written since he took it is the beginning
of the reference, and the dispatch in hand is the rest of it. -/
structure Underway (origin : Deployment) (phase : Phase) (batch : Batch) (dispatch : Dispatch)
    (reached : Deployment) : Prop where
  worker : reached.service.worker = .dispatching phase dispatch
  same : dispatch.batch = batch
  started : reached.service.state ≠ .new
  part : ∃ part : Account, part.trace.OfDispatch ∧
    reached.journal.own = origin.journal.own ++ part.trace ∧
    reached.service.staff = part.staff ∧
    (part.andThen fun staff => staff.complete dispatch) = origin.service.staff.serve batch

/-- The dispatch has left all that it should, and the worker goes on. -/
structure Over (origin : Deployment) (phase : Phase) (batch : Batch) (reached : Deployment) :
    Prop where
  worker : reached.service.worker = phase.resume
  own : reached.journal.own =
    origin.journal.own ++ (origin.service.staff.serve batch).trace
  staff : reached.service.staff = (origin.service.staff.serve batch).staff

section Events

variable {origin before after : Deployment} {phase : Phase} {batch : Batch} {dispatch : Dispatch}

/-- Taking a batch in hand begins its dispatch, or is all of it. -/
theorem underway_or_over_beginDispatch (started : origin.service.state ≠ .new) (phase : Phase)
    (batch : Batch) :
    (∃ dispatch, Underway origin phase batch dispatch (origin.beginDispatch phase batch)) ∨
      Over origin phase batch (origin.beginDispatch phase batch) := by
  rcases beginDispatch_opens origin phase batch with
    ⟨stretch, worker, same, opens, ofDispatch, _⟩
  have own : (origin.beginDispatch phase batch).journal.own =
      origin.journal.own ++ stretch.trace := by
    rw [same, Journal.own_append, ofDispatch.own_eq]
  cases opens with
  | discards => exact Or.inr ⟨by rw [same], own, by rw [same]; rfl⟩
  | @calls _ dispatch taken total =>
      refine Or.inl ⟨dispatch, ?_, taken, ?_, stretch, ofDispatch, own, ?_, total⟩
      · rw [same]
      · rw [same]
        exact started
      · rw [same]
        rfl

/-- What does not concern the worker leaves the dispatch as far as it was. -/
theorem Underway.elsewhere (underway : Underway origin phase batch dispatch before)
    (elsewhere : Elsewhere before after) : Underway origin phase batch dispatch after where
  worker := elsewhere.worker.trans underway.worker
  same := underway.same
  started := elsewhere.started underway.started
  part := by
    rcases underway.part with ⟨part, ofDispatch, own, staff, total⟩
    rcases elsewhere.journal with ⟨trace, others, journal⟩
    refine ⟨part, ofDispatch, ?_, elsewhere.staff.trans staff, total⟩
    rw [journal, Journal.own_append, others.own_eq, List.append_nil, own]

/-- A dispatch is a matter of the service and of its journal. -/
theorem Underway.of_same (underway : Underway origin phase batch dispatch before)
    (service : after.service = before.service) (journal : after.journal = before.journal) :
    Underway origin phase batch dispatch after := by
  rcases underway with ⟨worker, same, started, part⟩
  rw [← service] at worker started
  refine ⟨worker, same, started, ?_⟩
  rw [journal, service]
  exact part

/-- A queue that changes its mind is no business of a dispatch. -/
theorem Underway.whim (underway : Underway origin phase batch dispatch before)
    (whim : Whim before after) : Underway origin phase batch dispatch after := by
  cases whim with
  | answers later scripted => exact underway.of_same rfl rfl
  | main later _ here =>
      rw [underway.worker] at here
      cases here
  | drain later _ here =>
      rw [underway.worker] at here
      cases here

/-- Leaving the line is no part of a dispatch. -/
theorem Underway.afterTurn (underway : Underway origin phase batch dispatch before)
    (progress : Progress) : Underway origin phase batch dispatch (before.afterTurn progress) := by
  cases progress <;> exact underway.of_same rfl rfl

theorem Over.afterTurn (ended : Over origin phase batch before) (progress : Progress) :
    Over origin phase batch (before.afterTurn progress) := by
  cases progress <;> exact ⟨ended.worker, ended.own, ended.staff⟩

/-- A turn of the worker takes a stretch from the front of the dispatch, or ends it. -/
theorem Underway.advances (underway : Underway origin phase batch dispatch before) :
    (∃ later, Underway origin phase batch later (before.advanceDispatch phase dispatch).2) ∨
      Over origin phase batch (before.advanceDispatch phase dispatch).2 := by
  rcases underway.part with ⟨part, ofDispatch, own, staff, total⟩
  by_cases finished : dispatch.current = none ∧ dispatch.pending = []
  · rcases finished with ⟨called, all⟩
    have ended : ∀ staff : Staff, staff.complete dispatch = ⟨[.dispatchEnded dispatch.batch], staff⟩ :=
      fun _ => complete_of_finished called all
    have whole : origin.service.staff.serve batch =
        ⟨part.trace ++ [.dispatchEnded dispatch.batch], part.staff⟩ := by
      rw [← total, Account.andThen, ended]
    have last : Journal.own [.dispatchEnded dispatch.batch] = [.dispatchEnded dispatch.batch] := rfl
    refine Or.inr ⟨?_, ?_, ?_⟩
    · simp only [advanceDispatch, called, all, note, setWorker]
    · simp only [advanceDispatch, called, all, note, setWorker, Journal.own_append, own, last,
        whole, List.append_assoc]
    · rw [whole]
      simp only [advanceDispatch, called, all]
      exact staff
  · rcases advanceDispatch_continues underway.worker (by
      intro called all
      exact finished ⟨called, all⟩) with ⟨stretch, gates, later, reached, kept, inner, continues⟩
    refine Or.inl ⟨later, ?_, kept.trans underway.same, ?_, part.andThen fun _ => stretch, ?_, ?_, ?_,
      ?_⟩
    · rw [reached]
      rfl
    · rw [reached]
      exact underway.started
    · exact ofDispatch.append inner.ofDispatch
    · rw [reached]
      simp only [served, setWorker, Journal.own_append, inner.ofDispatch.own_eq, own,
        Account.andThen, List.append_assoc]
    · rw [reached]
      rfl
    · rw [Account.andThen_assoc, ← total, continues, staff]
      rfl

/-- Every event keeps the dispatch underway, with no more left to do, or ends it. -/
theorem Underway.event (underway : Underway origin phase batch dispatch before)
    (event : Event before after) :
    (∃ later, Underway origin phase batch later after ∧ later.toil ≤ dispatch.toil ∧
      (GoesOn before after → later.toil < dispatch.toil)) ∨
      Over origin phase batch after := by
  have turn {rest : List Actor} (line : before.ready = .worker :: rest) :
      (∃ later, Underway origin phase batch later before.tick ∧ later.toil ≤ dispatch.toil ∧
        (before.WaitIsOver → later.toil < dispatch.toil)) ∨
        Over origin phase batch before.tick := by
    rw [tick_of_worker line, advanceWorker_of_dispatching underway.worker]
    rcases underway.advances with ⟨later, goesOn⟩ | ended
    · have less := toil_advanceDispatch underway.worker goesOn.worker
      exact Or.inl ⟨later, goesOn.afterTurn _, less⟩
    · exact Or.inr (ended.afterTurn _)
  by_cases goes : GoesOn before after
  · rcases goes with ⟨⟨rest, line⟩, waited, same⟩
    rw [same]
    rcases turn line with ⟨later, goesOn, most, less⟩ | ended
    · exact Or.inl ⟨later, goesOn, most, fun _ => less waited⟩
    · exact Or.inr ended
  · rcases event.befalls with befalls | whim
    · cases befalls with
      | worker line =>
          rcases turn line with ⟨later, goesOn, most, _⟩ | ended
          · exact Or.inl ⟨later, goesOn, most, fun impossible => absurd impossible goes⟩
          · exact Or.inr ended
      | starts new => exact absurd new underway.started
      | elsewhere elsewhere =>
          exact Or.inl ⟨dispatch, underway.elsewhere elsewhere, le_refl _,
            fun impossible => absurd impossible goes⟩
    · exact Or.inl ⟨dispatch, underway.whim whim, le_refl _, fun impossible => absurd impossible goes⟩

end Events

/-! ## Whole histories -/

section Histories

variable {origin : Deployment} {phase : Phase} {batch : Batch} {history : ℕ → Deployment}
  (begins : history 0 = origin.beginDispatch phase batch)
  (events : ∀ n, Event (history n) (history (n + 1)))
include events

/-- Until it is over, the dispatch is underway. -/
theorem underway_until_over
    (beginning : (∃ dispatch, Underway origin phase batch dispatch (history 0)) ∨
      Over origin phase batch (history 0)) (n : ℕ) :
    (∀ m ≤ n, ∃ dispatch, Underway origin phase batch dispatch (history m)) ∨
      ∃ m ≤ n, Over origin phase batch (history m) ∧
        ∀ earlier < m, ∃ dispatch, Underway origin phase batch dispatch (history earlier) := by
  induction n with
  | zero =>
      rcases beginning with underway | ended
      · refine Or.inl fun m least => ?_
        rw [Nat.le_zero.mp least]
        exact underway
      · exact Or.inr ⟨0, Nat.le_refl 0, ended, fun _ impossible => absurd impossible (Nat.not_lt_zero _)⟩
  | succ n inductionHypothesis =>
      rcases inductionHypothesis with all | ⟨m, least, ended⟩
      · rcases all n (Nat.le_refl n) with ⟨dispatch, underway⟩
        rcases underway.event (events n) with ⟨later, goesOn, _⟩ | ended
        · refine Or.inl fun m least => ?_
          rcases Nat.le_succ_iff.mp least with earlier | last
          · exact all m earlier
          · rw [last]
            exact ⟨later, goesOn⟩
        · exact Or.inr ⟨n + 1, Nat.le_refl _, ended, fun m less => all m (Nat.le_of_lt_succ less)⟩
      · exact Or.inr ⟨m, Nat.le_succ_of_le least, ended⟩

/-- A dispatch whose waits end does not stay underway for ever. -/
theorem not_always_underway
    (ends : ∀ n, ∃ m ≥ n, (history m).service.worker.isFree = true ∨
      GoesOn (history m) (history (m + 1))) :
    ¬ ∀ n, ∃ dispatch, Underway origin phase batch dispatch (history n) := by
  intro always
  choose dispatch underway using always
  have busy (n : ℕ) : (history n).service.worker.isFree = false := by
    rw [(underway n).worker]
    rfl
  -- The worker says which dispatch is in hand, so the one that an event leads to is the next.
  have next (n : ℕ) : (dispatch (n + 1)).toil ≤ (dispatch n).toil ∧
      (GoesOn (history n) (history (n + 1)) →
        (dispatch (n + 1)).toil < (dispatch n).toil) := by
    rcases (underway n).event (events n) with ⟨later, goesOn, less⟩ | ended
    · have same : later = dispatch (n + 1) :=
        (Worker.dispatching.inj (goesOn.worker.symm.trans (underway (n + 1)).worker)).2
      rwa [same] at less
    · have impossible := busy (n + 1)
      rw [ended.worker, phase.isFree_resume] at impossible
      cases impossible
  have never : Antitone fun n => (dispatch n).toil := antitone_nat_of_succ_le fun n => (next n).1
  apply not_always_falls never
  intro n
  rcases ends n with ⟨m, later, free | goesOn⟩
  · rw [busy m] at free
    cases free
  · exact ⟨m, later, (next m).2 goesOn⟩

include begins

/-- The dispatch of a batch returns, whatever its handlers, its references and its
acknowledger do and whatever happens to the service meanwhile, provided that its waits
end.  By then the worker has written exactly the reference trace, on the way he has
written a beginning of it and had the batch in hand, and he goes on with his loop. -/
theorem dispatch_returns_with_trace (started : origin.service.state ≠ .new)
    (ends : ∀ n, ∃ m ≥ n, (history m).service.worker.isFree = true ∨
      GoesOn (history m) (history (m + 1))) :
    ∃ n, (history n).service.worker = phase.resume ∧
      (history n).journal.own =
        origin.journal.own ++ origin.service.staff.dispatchTrace batch ∧
      ∀ m < n, (∃ dispatch, (history m).service.worker = .dispatching phase dispatch ∧
          dispatch.batch = batch) ∧
        ∃ part, part <+: origin.service.staff.dispatchTrace batch ∧
          (history m).journal.own = origin.journal.own ++ part := by
  have beginning := underway_or_over_beginDispatch started phase batch
  rw [← begins] at beginning
  have notAlways : ¬ ∀ n, ∃ dispatch, Underway origin phase batch dispatch (history n) :=
    not_always_underway events ends
  have ended : ∃ n, Over origin phase batch (history n) ∧
      ∀ earlier < n, ∃ dispatch, Underway origin phase batch dispatch (history earlier) := by
    by_contra never
    apply notAlways
    intro n
    rcases underway_until_over events beginning n with all | ⟨m, _, ended⟩
    · exact all n (Nat.le_refl n)
    · exact absurd ⟨m, ended⟩ never
  rcases ended with ⟨n, ended, earlier⟩
  refine ⟨n, ended.worker, ?_, ?_⟩
  · rw [ended.own, Staff.trace_serve]
  · intro m less
    rcases earlier m less with ⟨dispatch, underway⟩
    rcases underway.part with ⟨part, _, own, _, total⟩
    refine ⟨⟨dispatch, underway.worker, underway.same⟩, part.trace, ?_, own⟩
    rw [← Staff.trace_serve, ← total]
    exact List.prefix_append _ _

end Histories

/-- A service one of whose handlers panics when it is asked, one is switched off, one
waits at a gate, and one panics when it is called.  Its acknowledger panics too. -/
def troubled : Deployment where
  ready := [.worker]
  source := .scripted {}
  service :=
    { handlers :=
        [⟨"broken", .scripted .panic none ⟨[]⟩⟩, ⟨"off", .scripted .all (some ⟨[.no]⟩) ⟨[]⟩⟩,
          ⟨"slow", .scripted .all none ⟨[[.pass "door"]]⟩⟩,
          ⟨"faulty", .scripted .all none ⟨[[.panic]]⟩⟩]
      acknowledger := ⟨[[.panic]]⟩
      state := .running
      version := 2
      worker := .looping }

/-- A batch of one failure, whose unit cannot be acknowledged. -/
def lonely : Batch :=
  ⟨.indexing, [{ type := .indexing, cause := "timeout", message := "timed out", unit := .plain "1" }],
    by simp, by simp⟩

/-- The dispatch waits at the gate until a permit comes, and the worker has all turns
after that. -/
def heldUp : ℕ → Deployment
  | 0 => troubled.beginDispatch .main lonely
  | 1 => (troubled.beginDispatch .main lonely).tick
  | n + 2 => tick^[n]
      ((((troubled.beginDispatch .main lonely).tick.setGate "door"
        (((troubled.beginDispatch .main lonely).tick.gate "door").release 1).2)).wakeAll
          (((troubled.beginDispatch .main lonely).tick.gate "door").release 1).1)

/-- The line is empty while the dispatch waits; in the end one handler has been reported
while it was asked and two after their calls. -/
theorem dispatch_returns_with_trace_heldUp :
    (heldUp 1).Settled ∧
      (troubled.service.staff.dispatchTrace lonely).tally (.handlerFailures "broken") = 1 ∧
      (troubled.service.staff.dispatchTrace lonely).tally (.handlerFailures "slow") = 1 ∧
      (troubled.service.staff.dispatchTrace lonely).tally (.handlerFailures "faulty") = 1 ∧
      ∃ n, (heldUp n).service.worker = .looping ∧
        (heldUp n).journal.own = troubled.service.staff.dispatchTrace lonely := by
  have waits : (heldUp 1).Settled := by decide +kernel
  have settled : (heldUp 7).Settled := by decide +kernel
  have free : (heldUp 7).service.worker.isFree = true := by decide +kernel
  have events (n : ℕ) : Event (heldUp n) (heldUp (n + 1)) := by
    match n with
    | 0 => exact .turn
    | 1 => exact .act (.release "door" 1)
    | n + 2 =>
        have next : heldUp (n + 3) = (heldUp (n + 2)).tick := Function.iterate_succ_apply' ..
        rw [next]
        exact .turn
  -- Nothing more happens once nobody is in line.
  have still (n : ℕ) : heldUp (7 + n) = heldUp 7 := by
    induction n with
    | zero => rfl
    | succ n inductionHypothesis =>
        have next : heldUp (7 + n + 1) = (heldUp (7 + n)).tick := by
          rw [show 7 + n = (n + 5) + 2 by omega]
          exact Function.iterate_succ_apply' ..
        rw [← Nat.add_assoc, next, inductionHypothesis, tick,
          show (heldUp 7).ready = [] from settled]
  have ends (n : ℕ) : ∃ m ≥ n, (heldUp m).service.worker.isFree = true ∨
      GoesOn (heldUp m) (heldUp (m + 1)) :=
    ⟨7 + n, Nat.le_add_left n 7, Or.inl (by rw [still n]; exact free)⟩
  rcases @dispatch_returns_with_trace troubled .main lonely heldUp rfl events (by decide) ends with
    ⟨n, worker, own, _⟩
  exact ⟨waits, by decide +kernel, by decide +kernel, by decide +kernel, n, worker, own⟩

end Deployment
end FailureDispatch

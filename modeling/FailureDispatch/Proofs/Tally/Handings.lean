import FailureDispatch.Proofs.Dispatch.Order
import FailureDispatch.Proofs.Tally.Reckoning

/-!
# Batches that no handler was given

A batch counts as dropped when nobody is chosen for it, and as handled when the
first of its calls is still to come.  What the counters mean is said by the calls
themselves: `Journal.handings` goes through the journal and records of each batch
taken in hand whether a handler has been given it since.

A batch in hand that nobody has been given yet is counted as handled already.
Then its worker stands in line, because he rests only in the middle of a call.
So where nobody stands in line the counter of dropped batches and the record
agree.
-/

namespace FailureDispatch

namespace Occurrence

/-- What the entry makes of the record of the batches taken in hand, of which the
latest comes first. -/
def hand (record : List (Batch × Bool)) : Occurrence → List (Batch × Bool)
  | dispatchBegun batch => (batch, false) :: record
  | handled _ _ | logged (.failure _) =>
      match record with
      | [] => []
      | (batch, _) :: earlier => (batch, true) :: earlier
  | _ => record

end Occurrence

/-- The batches of a record that no handler was given. -/
def unhanded (record : List (Batch × Bool)) : List Batch :=
  (record.filter fun entry => !entry.2).map (·.1)

namespace Journal

/-- The batches taken in hand, each with whether a handler was given it. -/
def handings (journal : Journal) : List (Batch × Bool) := journal.foldl Occurrence.hand []

/-- The batches that were taken in hand and given to no handler. -/
def neverHanded (journal : Journal) : List Batch := unhanded journal.handings

theorem handings_append (journal trace : Journal) :
    handings (journal ++ trace) = trace.foldl Occurrence.hand journal.handings :=
  List.foldl_append

/-- Only dispatches are recorded. -/
theorem handings_dispatches (journal : Journal) : journal.dispatches.handings = journal.handings := by
  unfold handings dispatches
  rw [List.foldl_filter]
  congr 1
  funext record entry
  cases entry with
  | logged notice => cases notice <;> rfl
  | _ => first | rfl | exact ite_self _

/-- Questions hand nothing over. -/
theorem Questions.foldl_hand {trace : Journal} (questions : trace.Questions)
    (record : List (Batch × Bool)) : trace.foldl Occurrence.hand record = record := by
  induction trace with
  | nil => rfl
  | cons entry rest inductionHypothesis =>
      have first : Occurrence.hand record entry = record := by
        have selected := questions entry (List.mem_cons_self ..)
        cases entry with
        | logged notice => cases notice <;> first | rfl | cases selected
        | _ => first | rfl | cases selected
      rw [List.foldl_cons, first]
      apply inductionHypothesis
      intro other member
      exact questions other (List.mem_cons_of_mem _ member)

/-- Within a dispatch only its own batch is handed over. -/
theorem Inner.foldl_hand {trace : Journal} (inner : trace.Inner) (batch : Batch) (handed : Bool)
    (earlier : List (Batch × Bool)) :
    trace.foldl Occurrence.hand ((batch, handed) :: earlier) =
      (batch, handed || trace.any Occurrence.isHanding) :: earlier := by
  induction trace generalizing handed with
  | nil => rw [List.foldl_nil, List.any_nil, Bool.or_false]
  | cons entry rest inductionHypothesis =>
      have first : Occurrence.hand ((batch, handed) :: earlier) entry =
          (batch, handed || entry.isHanding) :: earlier := by
        have selected := inner entry (List.mem_cons_self ..)
        cases entry with
        | logged notice =>
            cases notice <;> first
              | exact absurd selected Bool.false_ne_true
              | simp [Occurrence.hand, Occurrence.isHanding]
        | _ =>
            first
              | exact absurd selected Bool.false_ne_true
              | simp [Occurrence.hand, Occurrence.isHanding]
      rw [List.foldl_cons, first, List.any_cons, ← Bool.or_assoc]
      apply inductionHypothesis
      intro other member
      exact inner other (List.mem_cons_of_mem _ member)

end Journal

/-! ## Chosen handlers -/

/-- Those who are chosen among handlers are some of them. -/
theorem among_chosen {batch : Batch} {index : Nat} {handlers : List Handler} {ref : HandlerRef}
    (member : ref ∈ (Selection.among batch index handlers).chosen) :
    ∃ place < handlers.length, ref = .registered (index + place) := by
  induction handlers generalizing index with
  | nil => cases member
  | cons handler rest inductionHypothesis =>
      rcases List.mem_append.mp member with own | other
      · split at own
        · exact ⟨0, Nat.zero_lt_succ _, List.mem_singleton.mp own⟩
        · cases own
      · rcases inductionHypothesis other with ⟨place, inside, same⟩
        exact ⟨place + 1, Nat.succ_lt_succ inside, by rw [same, Nat.add_assoc, Nat.add_comm 1]⟩

namespace Staff

/-- A handler stays as long as their number stays. -/
theorem isSome_handler? {staff other : Staff}
    (same : other.handlers.length = staff.handlers.length) {ref : HandlerRef}
    (there : (staff.handler? ref).isSome = true) : (other.handler? ref).isSome = true := by
  cases ref with
  | registered index =>
      rw [handler?, isSome_getElem?] at there ⊢
      rw [same]
      exact there
  | fallback => rfl

/-- Whoever is chosen is there. -/
theorem isSome_of_chosen (staff : Staff) {batch : Batch} {ref : HandlerRef}
    (member : ref ∈ (Selection.choose staff.handlers staff.fallback batch).chosen) :
    (staff.handler? ref).isSome = true := by
  unfold Selection.choose at member
  dsimp only at member
  split at member
  · dsimp only at member
    split at member
    · rw [List.mem_singleton.mp member]
      rfl
    · cases member
  · rcases among_chosen member with ⟨place, inside, same⟩
    rw [same, Nat.zero_add, handler?, isSome_getElem?]
    exact inside

end Staff

/-- Where no batch is counted, none is counted as dropped. -/
theorem Tallied.dropped_eq {trace : Journal} {endings : List Ending}
    (tallied : Tallied trace [] endings) (type : FailureType) : trace.tally (.dropped type) = 0 := by
  have counts := tallied.batches type
  rw [List.countP_nil] at counts
  exact Nat.eq_zero_of_add_eq_zero_left counts

namespace Deployment

/-- The batches of a record that no handler was given are those that were counted
as dropped. -/
def DropsUnhanded (deployment : Deployment) (record : List (Batch × Bool)) : Prop :=
  ∀ type, deployment.journal.tally (.dropped type) = (unhanded record).countP (·.type == type)

/-- How the record and the counter of dropped batches stand.  A batch in hand
does not count as dropped, and while no handler has been given it the worker has
a call to make and stands in line. -/
inductive Portioned (deployment : Deployment) : Prop where
  | between (free : deployment.service.worker.isFree = true)
      (dropped : deployment.DropsUnhanded deployment.journal.handings)
  | within {phase dispatch handed earlier}
      (here : deployment.service.worker = .dispatching phase dispatch)
      (latest : deployment.journal.handings = (dispatch.batch, handed) :: earlier)
      (dropped : deployment.DropsUnhanded earlier)
      (present : ∀ ref ∈ dispatch.pending, (deployment.service.staff.handler? ref).isSome = true)
      (owed : handed = true ∨ dispatch.current = none ∧ dispatch.pending ≠ [])
      (line : dispatch.current = none → .worker ∈ deployment.ready)

/-- Where nobody stands in line, the counter of dropped batches counts those that
no handler was given. -/
theorem Portioned.settled {deployment : Deployment} (portioned : deployment.Portioned)
    (settled : deployment.Settled) : deployment.DropsUnhanded deployment.journal.handings := by
  cases portioned with
  | between _ dropped => exact dropped
  | @within phase dispatch handed earlier _ latest dropped _ owed line =>
      have given : handed = true := by
        apply owed.resolve_right
        rintro ⟨idle, _⟩
        have stands := line idle
        rw [show deployment.ready = [] from settled] at stands
        cases stands
      rw [latest, given]
      exact dropped

section Moves

variable {before after : Deployment}

theorem DropsUnhanded.of_trace {record : List (Batch × Bool)} {trace : Journal}
    (dropped : before.DropsUnhanded record) (journal : after.journal = before.journal ++ trace)
    (none : ∀ type, trace.tally (.dropped type) = 0) : after.DropsUnhanded record := by
  intro type
  rw [journal, Journal.tally_append, none, dropped type, Nat.add_zero]

theorem Portioned.unseen (portioned : before.Portioned) (unseen : Unseen before after)
    (line : after.service.worker.isFree = true ∨
      (.worker ∈ before.ready → .worker ∈ after.ready)) : after.Portioned := by
  have record : after.journal.handings = before.journal.handings := by
    rw [← Journal.handings_dispatches, unseen.dispatches, Journal.handings_dispatches]
  have drops (type : FailureType) : after.journal.tally (.dropped type) =
      before.journal.tally (.dropped type) := by
    rw [← Journal.tally_dispatches rfl, unseen.dispatches, Journal.tally_dispatches rfl]
  have still {known : List (Batch × Bool)} (dropped : before.DropsUnhanded known) :
      after.DropsUnhanded known := by
    intro type
    rw [drops, dropped type]
  cases portioned with
  | between free dropped =>
      apply Portioned.between
      · rcases unseen.worker with same | ⟨_, freeLater⟩
        · rw [same]
          exact free
        · exact freeLater
      · rw [record]
        exact still dropped
  | within here latest dropped present owed stands =>
      rcases unseen.worker with same | ⟨free, _⟩
      · rw [← same] at here
        refine .within here (record.trans latest) (still dropped) ?_ owed ?_
        · rw [unseen.staff]
          exact present
        · intro idle
          rcases line with free | grows
          · rw [here] at free
            cases free
          · exact grows (stands idle)
      · rw [here] at free
        cases free

/-! ## Taking a batch in hand -/

/-- The record after a batch has been taken in hand. -/
theorem handings_begun (journal : Journal) (batch : Batch) {questions : Journal}
    (asked : questions.Questions) (rest : Journal) :
    Journal.handings (journal ++ (.dispatchBegun batch :: (questions ++ rest))) =
      rest.foldl Occurrence.hand ((batch, false) :: journal.handings) := by
  rw [Journal.handings_append, List.foldl_cons, List.foldl_append, asked.foldl_hand]
  rfl

theorem Portioned.opens (portioned : before.Portioned)
    (free : before.service.worker.isFree = true) (line : .worker ∈ before.ready) (phase : Phase)
    (batch : Batch) : (before.beginDispatch phase batch).Portioned := by
  have dropped : before.DropsUnhanded before.journal.handings := by
    cases portioned with
    | between _ dropped => exact dropped
    | within here _ _ _ _ _ =>
        rw [here] at free
        cases free
  have asked := questions_choose before.service.handlers before.service.fallback batch
  have silent := (before.service.staff.tallied_choose batch).dropped_eq
  have there (ref : HandlerRef) :
      ref ∈ (Selection.choose before.service.handlers before.service.fallback batch).chosen →
        (before.service.staff.handler? ref).isSome = true :=
    before.service.staff.isSome_of_chosen
  have same := length_choose_handlers before.service.handlers before.service.fallback batch
  simp only [Service.staff] at silent
  generalize choice : Selection.choose before.service.handlers before.service.fallback batch =
    selection at asked silent there same
  by_cases nobody : selection.chosen = []
  · rw [beginDispatch_of_nobody choice nobody phase]
    refine .between phase.isFree_resume ?_
    intro type
    have counted : Journal.tally (.dropped type) (.dispatchBegun batch :: (selection.trace ++
        [.logged (.discarded batch.type batch.size), .counted (.dropped batch.type) 1,
          .dispatchEnded batch])) = if batch.type = type then 1 else 0 := by
      rw [Journal.tally_cons_none rfl, Journal.tally_append, silent, Nat.zero_add,
        Journal.tally_cons_none rfl, Journal.tally_counted]
      simp only [Counter.dropped.injEq]
      rfl
    have none : unhanded ((batch, false) :: before.journal.handings) =
        batch :: unhanded before.journal.handings := rfl
    rw [handings_begun _ _ asked, Journal.tally_append, counted, dropped type]
    simp only [List.foldl_cons, List.foldl_nil, Occurrence.hand, none, List.countP_cons, beq_iff_eq]
  · rw [beginDispatch_of_chosen choice nobody phase]
    refine .within rfl (handings_begun _ _ asked _) ?_ ?_ (Or.inr ⟨rfl, nobody⟩) (fun _ => line)
    · refine dropped.of_trace rfl ?_
      intro type
      rw [← List.singleton_append, Journal.tally_append, Journal.tally_append, silent]
      rfl
    · intro ref member
      exact Staff.isSome_handler? same (there ref member)

/-! ## A turn with a batch in hand -/

/-- A stretch of a call writes down nothing about its batch. -/
theorem Conforms.uncounted {batch : Batch} {result : Option Invocation × Deployment}
    {account : Account} (conforms : Conforms before batch result account) {endings : List Ending}
    (tallied : Tallied account.trace [] endings) :
    ∃ trace : Journal, trace.Inner ∧ result.2.journal = before.journal ++ trace ∧
      result.2.ready = before.ready ∧ ∀ type, trace.tally (.dropped type) = 0 := by
  rcases conforms with ⟨stretch, gates, inner, same, total⟩
  refine ⟨stretch.trace, inner, ?_, ?_, ?_⟩
  · rw [same]
    rfl
  · rw [same]
    rfl
  · intro type
    have all := tallied.dropped_eq type
    rw [← total, Account.andThen, Journal.tally_append] at all
    exact Nat.eq_zero_of_add_eq_zero_right all

/-- After a stretch of a call the batch has been handed over, and the worker
rests only if the call waits. -/
theorem Portioned.keepDispatching (phase : Phase) (dispatch : Dispatch)
    (result : Option Invocation × Deployment) {earlier : List (Batch × Bool)}
    (latest : result.2.journal.handings = (dispatch.batch, true) :: earlier)
    (dropped : result.2.DropsUnhanded earlier)
    (present : ∀ ref ∈ dispatch.pending, (result.2.service.staff.handler? ref).isSome = true)
    (line : .worker ∈ result.2.ready) :
    ((result.2.keepDispatching phase dispatch result.1).2.afterTurn
      (result.2.keepDispatching phase dispatch result.1).1).Portioned := by
  rcases result with ⟨_ | invocation, after⟩
  · exact .within rfl latest dropped present (Or.inl rfl) (fun _ => line)
  · refine .within rfl latest dropped present (Or.inl rfl) ?_
    intro idle
    cases idle

/-- A call begins with handing the batch over. -/
theorem callHandler_hands {ref : HandlerRef} {handler : Handler}
    (present : before.service.staff.handler? ref = some handler) (batch : Batch) {trace : Journal}
    (journal : (before.callHandler batch ref).2.journal = before.journal ++ trace) :
    trace.any Occurrence.isHanding = true := by
  have begins : (handler.handing batch).any Occurrence.isHanding = true := by
    unfold Handler.handing
    split
    · cases failures : batch.failures with
      | nil => exact absurd failures batch.nonempty
      | cons failure rest => rfl
    · rfl
  rcases callHandler_eq present batch with ⟨performance, after, same, _, staff, started⟩
  have later := Staff.handler?_setHandler present handler.begin.2
  rw [← staff] at later
  rcases afterHandling_conforms later batch performance with ⟨stretch, gates, _, left, _⟩
  rw [handler.name_begin] at left
  rw [same, left] at journal
  simp only [served, started, List.append_assoc, List.append_cancel_left_eq] at journal
  rw [← journal, List.any_append, begins, Bool.true_or]

section InHand

variable {phase : Phase} {dispatch : Dispatch} {handed : Bool} {earlier : List (Batch × Bool)}
  (latest : before.journal.handings = (dispatch.batch, handed) :: earlier)
  (dropped : before.DropsUnhanded earlier)
  (present : ∀ ref ∈ dispatch.pending, (before.service.staff.handler? ref).isSome = true)
  (line : .worker ∈ before.ready)

include latest in
/-- What is written in the middle of a dispatch belongs to its batch. -/
theorem handings_inner {trace : Journal} (inner : trace.Inner)
    (journal : after.journal = before.journal ++ trace) :
    after.journal.handings =
      (dispatch.batch, handed || trace.any Occurrence.isHanding) :: earlier := by
  rw [journal, Journal.handings_append, latest, inner.foldl_hand]

include latest dropped present line in
/-- A call under way goes on, or waits on. -/
theorem portioned_resumes (here : before.service.worker = .dispatching phase dispatch)
    (given : handed = true) {invocation : Invocation} (current : dispatch.current = some invocation) :
    ((before.advanceDispatch phase dispatch).2.afterTurn
      (before.advanceDispatch phase dispatch).1).Portioned := by
  unfold advanceDispatch
  simp only [current]
  rcases pauseOver_conforms before invocation.pause with ⟨gates, same⟩
  rcases waited : before.pauseOver invocation.pause with ⟨passed, resumed⟩
  have opened : resumed = { before with gates } := by
    rw [waited] at same
    exact same
  cases passed with
  | false =>
      simp only [opened]
      refine .within here latest dropped present (Or.inl given) ?_
      intro idle
      rw [current] at idle
      cases idle
  | true =>
      rcases (continueCall_conforms { before with gates } dispatch.batch
        invocation).uncounted (Staff.tallied_resume _ _ _) with
        ⟨trace, inner, journal, ready, uncounted⟩
      have frame := frame_continueCall { before with gates } dispatch.batch invocation
      simp only [opened]
      refine Portioned.keepDispatching phase dispatch _ ?_ (dropped.of_trace journal uncounted) ?_ ?_
      · rw [handings_inner latest inner journal, given, Bool.true_or]
      · intro ref member
        exact Staff.isSome_handler? frame.handlers (present ref member)
      · rw [ready]
        exact line

include latest dropped present line in
/-- The next handler is called, and so the batch is handed over. -/
theorem portioned_calls (current : dispatch.current = none) {ref : HandlerRef}
    {others : List HandlerRef} (pending : dispatch.pending = ref :: others) :
    ((before.advanceDispatch phase dispatch).2.afterTurn
      (before.advanceDispatch phase dispatch).1).Portioned := by
  rw [pending] at present
  rcases Option.isSome_iff_exists.mp (present ref List.mem_cons_self) with ⟨handler, known⟩
  rcases (callHandler_conforms before dispatch.batch ref).uncounted
    (Staff.tallied_call _ _ _) with ⟨trace, inner, journal, ready, uncounted⟩
  have hands := callHandler_hands known dispatch.batch journal
  have length : (before.callHandler dispatch.batch ref).2.service.staff.handlers.length =
      before.service.staff.handlers.length :=
    (frame_callHandler before dispatch.batch ref).handlers
  unfold advanceDispatch
  simp only [current, pending]
  refine Portioned.keepDispatching phase { dispatch with current := none, pending := others }
    (before.callHandler dispatch.batch ref) ?_ (dropped.of_trace journal uncounted) ?_ ?_
  · rw [handings_inner latest inner journal, hands, Bool.or_true]
  · intro other member
    exact Staff.isSome_handler? length (present other (List.mem_cons_of_mem _ member))
  · rw [ready]
    exact line

include latest dropped in
/-- The dispatch ends, and its batch has been handed over. -/
theorem portioned_ends (given : handed = true) (current : dispatch.current = none)
    (pending : dispatch.pending = []) :
    ((before.advanceDispatch phase dispatch).2.afterTurn
      (before.advanceDispatch phase dispatch).1).Portioned := by
  have unhandedYet : before.DropsUnhanded ((dispatch.batch, handed) :: earlier) := by
    rw [given]
    exact dropped
  rw [← latest] at unhandedYet
  have recorded : Journal.handings (before.journal ++ [.dispatchEnded dispatch.batch]) =
      before.journal.handings := Journal.handings_append _ _
  unfold advanceDispatch
  simp only [current, pending]
  refine .between phase.isFree_resume ?_
  intro type
  calc Journal.tally (.dropped type) (before.journal ++ [.dispatchEnded dispatch.batch])
      = before.journal.tally (.dropped type) := Journal.tally_append _ _ _
    _ = (unhanded before.journal.handings).countP (·.type == type) := unhandedYet type
    _ = _ := by rw [← recorded]; rfl

end InHand

theorem Portioned.advances (portioned : before.Portioned) {rest : List Actor} {phase : Phase}
    {dispatch : Dispatch} (stands : before.ready = .worker :: rest)
    (here : before.service.worker = .dispatching phase dispatch) :
    ((before.advanceDispatch phase dispatch).2.afterTurn
      (before.advanceDispatch phase dispatch).1).Portioned := by
  have line : .worker ∈ before.ready := by
    rw [stands]
    exact List.mem_cons_self ..
  cases portioned with
  | between free _ =>
      rw [here] at free
      cases free
  | within known latest dropped present owed _ =>
      cases here.symm.trans known
      cases current : dispatch.current with
      | some invocation =>
          have given := owed.resolve_right fun idle => by
            rw [current] at idle
            cases idle.1
          exact portioned_resumes latest dropped present line here given current
      | none =>
          cases pending : dispatch.pending with
          | nil =>
              have given := owed.resolve_right fun more => more.2 pending
              exact portioned_ends latest dropped given current pending
          | cons ref others => exact portioned_calls latest dropped present line current pending

/-- Every move keeps the record and the counter together. -/
theorem Portioned.serves (portioned : before.Portioned) (serves : Serves before after) :
    after.Portioned := by
  cases serves with
  | unseen unseen line => exact portioned.unseen unseen line
  | opens phase batch unseen free line =>
      exact (portioned.unseen unseen (Or.inl free)).opens free line phase batch
  | advances stands here => exact portioned.advances stands here

end Moves

/-- In every run, the record and the counter of dropped batches go together. -/
theorem reaches_portioned {others : Bool} {origin reached : Deployment}
    (unstarted : origin.Unstarted) (reaches : Reaches others origin reached) :
    reached.Portioned := by
  have beginning : origin.Portioned := by
    apply Portioned.between
    · rw [unstarted.worker]
      rfl
    · have clerical := unstarted.journal.clerical
      intro type
      rw [← Journal.handings_dispatches, clerical.dispatches_eq, clerical.tally_eq]
      rfl
  apply reaches.keeps _ unstarted.onCourse beginning
  intro before after sound move portioned
  exact portioned.serves (move.serves sound)

end Deployment
end FailureDispatch

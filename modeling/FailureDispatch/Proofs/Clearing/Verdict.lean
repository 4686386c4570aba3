import FailureDispatch.Proofs.Clearing.Script
import FailureDispatch.Proofs.Life.Ending
import FailureDispatch.Proofs.Loop.Endless
import Mathlib.Data.Nat.Find

/-!
# A drain goes by its results

The histories here begin when the worker enters the drain, in whatever way the service has
come there, and are arbitrary sequences of events over any queue that does not panic.  At
every moment the results that have come decide what the worker has written
(`StillDrains`), and once nothing or an error has come, they decide how the service and
its worker have ended and what is handed to whoever joins (`DrainsTo`).  A batch that came
before an error has been dispatched and is counted like one that came before nothing.

The results are taken from a sequence that the queue may choose.  What would come in it
after the first result that is no batch plays no part: it is not asked for.  That the
drain does come to that result needs that its waits end, as for the main loop.
-/

namespace FailureDispatch
namespace Deployment

/-- A drain that goes on, after it has brought the given batches.  Nothing has been counted
or reported, and what the worker has written is a beginning of what the batches and the
next call leave. -/
structure StillDrains (left : Deployment) (batches : List Batch) (reached : Deployment) : Prop where
  state : reached.service.state = .stopping
  going : reached.service.worker.isGone = false
  yields : yieldsSince left reached = batches.map Yield.batch
  own : (writtenSince left reached).own <+: (left.drainedAndCalled batches).trace
  uncounted : (writtenSince left reached).filter Occurrence.isDrainCount = []
  unreported : (writtenSince left reached).filter Occurrence.isDrainReport = []

/-- A drain that has brought the given batches and has ended. -/
structure DrainsTo (left : Deployment) (batches : List Batch) (ending : DrainEnd)
    (reached : Deployment) : Prop where
  worker : reached.service.worker = ending.worker batches.length
  state : reached.service.state = ending.state
  /-- The batches have come, and then the end. -/
  yields : yieldsSince left reached = batches.map Yield.batch ++ [.ending ending]
  /-- There was one call for each result. -/
  calls : (writtenSince left reached).countP Occurrence.isLimitedCall = batches.length + 1
  /-- The batches were dispatched one after the other, and no others. -/
  dispatches : (writtenSince left reached).dispatches = (left.service.staff.serveAll batches).trace
  counted : (writtenSince left reached).filter Occurrence.isDrainCount =
    [.counted .drained batches.length]
  reported : (writtenSince left reached).filter Occurrence.isDrainReport =
    [.contact (.reports drainTag)]
  /-- The accounts are closed after the last answer, and the worker writes nothing after
  that. -/
  closes : ∃ earlier figures later,
    writtenSince left reached = earlier ++ ending.closing batches.length figures ++ later ∧
    earlier.own = (left.drainedAndCalled batches).trace ∧
    figures.showsFigures drainTag = true ∧ later.own = []
  /-- A call that joins is handed the result, unless it was aborted. -/
  tells : ∀ after id call doomed door, Event reached after →
    reached.job? id = some ⟨call, doomed⟩ → call.door? = some door → after.job? id = none →
      after.outcomes = reached.outcomes ++
        [(id, if doomed then .aborted else door.outcome (ending.result batches.length))]
  /-- Nobody waits for it in vain. -/
  forgets : reached.Settled → ∀ id job, reached.job? id = some job → job.call.isJoin = false

section Accounts

variable {left reached : Deployment} {batches : List Batch} {ending : DrainEnd}

/-- What the worker of a drain has written is a beginning of what is due, and shows the
batches. -/
theorem Clearing.accounts (clearing : Clearing left batches reached) :
    ∃ trace, reached.journal = left.journal ++ trace ∧ trace.Unreported ∧
      trace.own <+: (left.drainedAndCalled batches).trace ∧
      trace.yields = batches.map Yield.batch := by
  cases clearing with
  | head comes here =>
      rcases comes.since_own with ⟨trace, journal, unreported, own⟩
      refine ⟨trace, journal, unreported, ?_, ?_⟩
      · rw [own]
        exact List.prefix_append _ _
      · rw [← Journal.yields_own, own, left.yields_drained]
  | waits comes here =>
      rcases comes.since_own with ⟨trace, journal, unreported, own⟩
      refine ⟨trace, journal, unreported, ?_, ?_⟩
      · exact own ▸ List.prefix_rfl
      · rw [← Journal.yields_own, own, trace_drainedAndCalled, Journal.yields_append,
          left.yields_drained, left.yields_drainCall, List.append_nil]
  | @dispatching earlier taken batch dispatch _ comes within underway =>
      rcases within.since with ⟨trace, journal, unreported⟩
      rcases underway.part with ⟨part, ofDispatch, own, _, total⟩
      have written : trace.own = (left.drainedAndCalled earlier).trace ++
          (.contact (.gives batch) :: part.trace) := by
        rw [journal, Journal.own_append, comes.own, List.append_assoc] at own
        rw [List.append_cancel_left own]
        exact List.append_assoc ..
      refine ⟨trace, journal, unreported, ?_, ?_⟩
      · have begun : part.trace <+: ((left.drained earlier).staff.serve batch).trace := by
          have served : taken.service.staff = (left.drained earlier).staff := comes.staff
          rw [← served, ← total]
          exact List.prefix_append _ _
        rw [written, left.trace_drainedAndCalled (earlier ++ [batch]), trace_drained_concat,
          ← trace_drainedAndCalled, List.append_assoc _ (_ :: _) left.drainCall]
        refine (List.prefix_append_right_inj _).mpr ?_
        exact (List.cons_prefix_cons.mpr ⟨rfl, begun⟩).trans (List.prefix_append _ _)
      · have given (rest : Journal) : Journal.yields (.contact (.gives batch) :: rest) =
            .batch batch :: rest.yields := rfl
        rw [← Journal.yields_own, written, Journal.yields_append, given, ofDispatch.yields_eq,
          trace_drainedAndCalled, Journal.yields_append, left.yields_drained,
          left.yields_drainCall, List.append_nil, List.map_append]
        rfl

theorem Clearing.yields (clearing : Clearing left batches reached) :
    yieldsSince left reached = batches.map Yield.batch := by
  rcases clearing.accounts with ⟨trace, journal, _, _, yields⟩
  rw [yieldsSince, writtenSince_eq journal, yields]

/-- The results that have come show which batches they have brought. -/
theorem Clearing.unique {others : List Batch} (clearing : Clearing left batches reached)
    (there : Clearing left others reached) : others = batches := by
  have same := there.yields.symm.trans clearing.yields
  exact (List.map_inj_right fun _ _ equal => Yield.batch.inj equal).mp same

/-- How far a drain that has brought some of the batches is from the end of them: how many
it lacks, and how far it is from its next result. -/
def missing (whole brought : List Batch) (deployment : Deployment) :
    ℕ ×ₗ (ℕ ×ₗ (ℕ ×ₗ (ℕ ×ₗ ℕ))) :=
  toLex (whole.length - brought.length, deployment.service.worker.drainStrain)

/-- A drain that goes on does not fall back, and comes nearer to the end if it moves. -/
theorem Clearing.nearer {after : Deployment} {whole brought : List Batch}
    (clearing : Clearing left batches reached) (regular : reached.Regular)
    (event : Event reached after) (calm : reached.CalmInDrain)
    (there : Clearing left brought after) (few : brought.length ≤ whole.length) :
    missing whole brought after ≤ missing whole batches reached ∧
      (DrainsOn reached after → missing whole brought after < missing whole batches reached) := by
  cases clearing.event regular event calm with
  | stays later most less =>
      cases there.unique later
      refine ⟨Prod.Lex.toLex_le_toLex.mpr (Or.inr ⟨rfl, most⟩), ?_⟩
      exact fun moves => Prod.Lex.toLex_lt_toLex.mpr (Or.inr ⟨rfl, less moves⟩)
  | takes batch later =>
      cases there.unique later
      have falls : missing whole (batches ++ [batch]) after < missing whole batches reached := by
        rw [List.length_append, List.length_singleton] at few
        refine Prod.Lex.toLex_lt_toLex.mpr (Or.inl ?_)
        rw [List.length_append, List.length_singleton]
        omega
      exact ⟨le_of_lt falls, fun _ => falls⟩
  | ends told cleared =>
      have going := there.going
      rw [cleared.worker, told.isGone_worker] at going
      cases going

theorem Clearing.stillDrains (clearing : Clearing left batches reached)
    (regular : reached.Regular) : StillDrains left batches reached := by
  rcases clearing.accounts with ⟨trace, journal, unreported, own, yields⟩
  have written := writtenSince_eq journal
  refine ⟨clearing.stopping regular, clearing.going, clearing.yields, written ▸ own, ?_,
    by rw [written, unreported.filter_eq]⟩
  rw [written, ← Journal.filter_own Occurrence.isOfOthers_of_isDrainCount]
  exact List.sublist_nil.mp (left.drainCounts_drainedAndCalled batches ▸
    own.sublist.filter Occurrence.isDrainCount)

/-- What a drain that is over has left. -/
theorem Cleared.drainsTo (cleared : Cleared left batches ending reached) (regular : reached.Regular)
    (forgets : reached.Settled → ∀ id job, reached.job? id = some job → job.call.isJoin = false) :
    DrainsTo left batches ending reached := by
  rcases cleared.journal with ⟨earlier, figures, later, journal, silent, own, shows, apart, mute⟩
  have written := writtenSince_eq journal
  have calls : ∀ trace : Journal, trace.own.countP Occurrence.isLimitedCall =
      trace.countP Occurrence.isLimitedCall := by
    intro trace
    rw [List.countP_eq_length_filter, Journal.filter_own Occurrence.isOfOthers_of_isLimitedCall,
      ← List.countP_eq_length_filter]
  constructor
  case worker => exact cleared.worker
  case state => exact cleared.state
  case forgets => exact forgets
  case yields =>
    rw [yieldsSince, written, Journal.yields_append, Journal.yields_append, apart.yields_eq,
      ending.yields_closing _ shows, ← earlier.yields_own, own, trace_drainedAndCalled,
      Journal.yields_append, left.yields_drained, left.yields_drainCall, List.append_nil,
      List.append_nil]
  case calls =>
    rw [written, List.countP_append, List.countP_append, ending.limitedCalls_closing _ shows,
      ← calls later, apart.own_eq, ← calls earlier, own, trace_drainedAndCalled, List.countP_append,
      left.limitedCalls_drained, left.limitedCalls_drainCall]
    rfl
  case dispatches =>
    rw [written, Journal.dispatches_append, Journal.dispatches_append,
      ending.dispatches_closing _ shows, ← later.dispatches_own, apart.own_eq,
      ← earlier.dispatches_own, own, trace_drainedAndCalled, Journal.dispatches_append,
      left.dispatches_drained, left.dispatches_drainCall, List.append_nil, List.append_nil]
    exact List.append_nil _
  case counted =>
    rw [written, List.filter_append, List.filter_append, ending.drainCounts_closing _ shows,
      apart.filter_eq Occurrence.isOfOthers_of_isDrainCount,
      ← Journal.filter_own Occurrence.isOfOthers_of_isDrainCount earlier, own,
      drainCounts_drainedAndCalled]
    rfl
  case reported =>
    rw [written, List.filter_append, List.filter_append, ending.drainReports_closing _ shows,
      silent.filter_eq, mute.filter_eq]
    rfl
  case closes => exact ⟨earlier, figures, later, written, own, shows, apart.own_eq⟩
  case tells =>
    intro after id call doomed door event known owned gone
    have there := cleared.event regular event
    rcases ((regular.passes event).follows known).resolve_left (by
      rintro ⟨_, present, _⟩
      rw [gone] at present
      cases present) with ⟨_, outcome, concludes, outcomes⟩
    rw [outcomes]
    cases concludes with
    | apart single =>
        rw [Call.isJoin_eq_isSome, owned] at single
        cases single
    | aborted => rfl
    | told asked verdict _ =>
        rw [owned] at asked
        cases asked
        rw [there.worker, ending.verdict?_worker] at verdict
        cases verdict
        rfl

end Accounts

/-! ## Sequences of results -/

/-- The results are those of the sequence, as far as they have come. -/
def ComeFrom (results : ℕ → Yield) (yields : List Yield) : Prop :=
  ∀ place yield, yields[place]? = some yield → results place = yield

/-- The sequence begins with the batches, and then comes the end. -/
structure EndsAfter (results : ℕ → Yield) (batches : List Batch) (ending : DrainEnd) : Prop where
  first : ∀ place batch, batches[place]? = some batch → results place = .batch batch
  last : results batches.length = .ending ending

section Sequences

variable {results : ℕ → Yield} {batches brought : List Batch} {ending told : DrainEnd}

theorem ComeFrom.of_prefix {yields rest : List Yield}
    (comeFrom : ComeFrom results (yields ++ rest)) : ComeFrom results yields := by
  intro place yield known
  apply comeFrom place yield
  rcases List.getElem?_eq_some_iff.mp known with ⟨within, _⟩
  rw [List.getElem?_append_left within, known]

theorem ComeFrom.nil : ComeFrom results [] := by
  intro place yield known
  cases known

theorem ComeFrom.concat {yields : List Yield} {yield : Yield} (comeFrom : ComeFrom results yields)
    (next : results yields.length = yield) : ComeFrom results (yields ++ [yield]) := by
  intro place other known
  rcases Nat.lt_or_ge place yields.length with within | beyond
  · rw [List.getElem?_append_left within] at known
    exact comeFrom place other known
  · rw [List.getElem?_append_right beyond] at known
    rcases List.getElem?_eq_some_iff.mp known with ⟨only, same⟩
    have last : place = yields.length := by
      rw [List.length_singleton] at only
      omega
    rw [List.getElem_singleton] at same
    rw [last, next, same]

/-- As long as only batches have come, they are the first of the sequence. -/
theorem EndsAfter.prefix_of_batches (endsAfter : EndsAfter results batches ending)
    (comeFrom : ComeFrom results (brought.map Yield.batch)) : brought <+: batches := by
  have given (place : ℕ) (within : place < brought.length) :
      results place = .batch brought[place] := by
    apply comeFrom
    rw [List.getElem?_map, List.getElem?_eq_getElem within]
    rfl
  have fewer : brought.length ≤ batches.length := by
    by_contra more
    have early := given batches.length (Nat.lt_of_not_le more)
    rw [endsAfter.last] at early
    cases early
  apply List.prefix_iff_getElem?.mpr
  intro place within
  have there : place < batches.length := Nat.lt_of_lt_of_le within fewer
  have same := endsAfter.first place batches[place] (List.getElem?_eq_getElem there)
  rw [given place within] at same
  rw [List.getElem?_eq_getElem there, Yield.batch.inj same]

/-- Once the end has come, all the batches before it have come, and no others. -/
theorem EndsAfter.eq_of_ended (endsAfter : EndsAfter results batches ending)
    (comeFrom : ComeFrom results (brought.map Yield.batch ++ [.ending told])) :
    brought = batches ∧ told = ending := by
  have first := endsAfter.prefix_of_batches comeFrom.of_prefix
  have last : results brought.length = .ending told := by
    apply comeFrom
    rw [List.getElem?_append_right (by rw [List.length_map]), List.length_map, Nat.sub_self]
    rfl
  have whole : brought.length = batches.length := by
    by_contra differ
    have less : brought.length < batches.length := Nat.lt_of_le_of_ne first.length_le differ
    have batch := endsAfter.first _ _ (List.getElem?_eq_getElem less)
    rw [last] at batch
    cases batch
  have same := first.eq_of_length whole
  rw [same, endsAfter.last] at last
  cases last
  exact ⟨same, rfl⟩

end Sequences

/-! ## Whole histories -/

/-- What is true of a drain over any queue that does not panic. -/
structure GoesByResults (left : Deployment) (history : ℕ → Deployment) : Prop where
  /-- At every moment the drain goes on, or it has ended with the results that have come. -/
  course : ∀ n, (∃ batches, StillDrains left batches (history n)) ∨
    ∃ batches ending, DrainsTo left batches ending (history n)
  final : ∀ m n, m ≤ n → ∀ batches ending, DrainsTo left batches ending (history m) →
    DrainsTo left batches ending (history n)
  /-- If the waits end, the drain brings the batches that the sequence of results begins
  with, one after the other, and ends with the result that comes after them. -/
  ends : ∀ results batches ending, EndsAfter results batches ending →
    (∀ n, ComeFrom results (yieldsSince left (history n))) →
    (∀ n, ∃ m ≥ n, (history m).service.worker.isGone = true ∨
      DrainsOn (history m) (history (m + 1))) →
    ∃ n, (∀ m < n, ∃ earlier, earlier <+: batches ∧ StillDrains left earlier (history m)) ∧
      ∀ m ≥ n, DrainsTo left batches ending (history m)
  /-- The results of a script come in its order, and what comes behind the last of them is
  left. -/
  script : ∀ queue, left.source = .scripted queue →
    (∀ n, Move true (history n) (history (n + 1))) →
    ∀ n, ComeFrom queue.promise (yieldsSince left (history n)) ∧
      ((history n).service.worker.isGone = true → (history n).source =
        .scripted { queue with drains := queue.drains.drop (yieldsSince left (history n)).length })

section Histories

variable {origin left : Deployment} {history : ℕ → Deployment}
  (events : ∀ n, Event (history n) (history (n + 1)))
  (untouched : origin.Untouched) (evolves : Evolves origin left) (begins : history 0 = left)
include events evolves begins

theorem evolves_since (n : ℕ) : Evolves origin (history n) :=
  evolves.trans (begins ▸ evolves_between events (Nat.zero_le n))

include untouched

theorem regular_since (n : ℕ) : (history n).Regular :=
  untouched.regular.persists (evolves_since events evolves begins n)

theorem journal_since (n : ℕ) : ∃ trace, (history n).journal = left.journal ++ trace := by
  induction n with
  | zero => exact ⟨[], by rw [begins, List.append_nil]⟩
  | succ n inductionHypothesis =>
      rcases inductionHypothesis with ⟨earlier, journal⟩
      have regular := regular_since events untouched evolves begins n
      rcases (regular.passes (events n)).deeds with ⟨trace, _, continued⟩
      exact ⟨earlier ++ trace, by rw [continued, journal, List.append_assoc]⟩

/-- A drain that is over stays as it is. -/
theorem stays_cleared {batches : List Batch} {ending : DrainEnd} {m n : ℕ} (later : m ≤ n)
    (cleared : Cleared left batches ending (history m)) :
    Cleared left batches ending (history n) := by
  induction later with
  | refl => exact cleared
  | @step n _ inductionHypothesis =>
      exact inductionHypothesis.event (regular_since events untouched evolves begins n) (events n)

/-- What has been written since a drain that is over began, and what is told of it. -/
theorem drainsTo_of_cleared {batches : List Batch} {ending : DrainEnd} {n : ℕ}
    (cleared : Cleared left batches ending (history n)) :
    DrainsTo left batches ending (history n) := by
  refine cleared.drainsTo (regular_since events untouched evolves begins n) ?_
  intro settled
  have gone : (history n).service.worker.isGone = true := by
    rw [cleared.worker]
    exact ending.isGone_worker _
  exact (ended_or_torn_down untouched (evolves_since events evolves begins n) settled
    gone).2.1

variable (enters : left.service.worker = .draining 0) (calm : ∀ n, (history n).CalmInDrain)
include enters calm

/-- A drain goes on until it is over. -/
theorem clearing_or_cleared (n : ℕ) :
    (∃ batches, Clearing left batches (history n)) ∨
      ∃ batches ending, Cleared left batches ending (history n) := by
  induction n with
  | zero =>
      rw [begins]
      exact Or.inl ⟨[], .head ⟨.refl left, (List.append_nil _).symm, rfl⟩ enters⟩
  | succ n inductionHypothesis =>
      have regular := regular_since events untouched evolves begins n
      rcases inductionHypothesis with ⟨batches, clearing⟩ | ⟨batches, ending, cleared⟩
      · cases clearing.event regular (events n) (calm n) with
        | stays later _ _ => exact Or.inl ⟨batches, later⟩
        | takes batch later => exact Or.inl ⟨_, later⟩
        | ends ending cleared => exact Or.inr ⟨batches, ending, cleared⟩
      · exact Or.inr ⟨batches, ending, cleared.event regular (events n)⟩

/-- A drain that has ended is over. -/
theorem cleared_of_drainsTo {batches : List Batch} {ending : DrainEnd} {n : ℕ}
    (there : DrainsTo left batches ending (history n)) :
    Cleared left batches ending (history n) := by
  rcases clearing_or_cleared events untouched evolves begins enters calm n with
    ⟨brought, clearing⟩ | ⟨brought, told, cleared⟩
  · have going := clearing.going
    rw [there.worker, ending.isGone_worker] at going
    cases going
  · have yields := (drainsTo_of_cleared events untouched evolves begins cleared).yields
    rw [there.yields] at yields
    rcases List.append_inj' yields rfl with ⟨same, last⟩
    cases (List.map_inj_right fun _ _ equal => Yield.batch.inj equal).mp same
    cases last
    exact cleared

/-- If the waits end, a drain whose results come from a sequence with an end in it comes to
that end. -/
theorem comes_to_end {results : ℕ → Yield} {batches : List Batch} {ending : DrainEnd}
    (endsAfter : EndsAfter results batches ending)
    (comeFrom : ∀ n, ComeFrom results (yieldsSince left (history n)))
    (ends : ∀ n, ∃ m ≥ n, (history m).service.worker.isGone = true ∨
      DrainsOn (history m) (history (m + 1))) :
    ∃ n, Cleared left batches ending (history n) := by
  by_contra never
  have always (n : ℕ) : ∃ brought, Clearing left brought (history n) := by
    rcases clearing_or_cleared events untouched evolves begins enters calm n with
      clearing | ⟨brought, told, cleared⟩
    · exact clearing
    · have whole := (drainsTo_of_cleared events untouched evolves begins cleared).yields
      have all := comeFrom n
      rw [whole] at all
      rcases endsAfter.eq_of_ended all with ⟨rfl, rfl⟩
      exact absurd ⟨n, cleared⟩ never
  choose brought clearing using always
  have fewer (n : ℕ) : (brought n).length ≤ batches.length := by
    have all := comeFrom n
    rw [(clearing n).yields] at all
    exact (endsAfter.prefix_of_batches all).length_le
  have next (n : ℕ) := (clearing n).nearer (regular_since events untouched evolves begins n)
    (events n) (calm n) (clearing (n + 1)) (fewer (n + 1))
  have falls : Antitone fun n => missing batches (brought n) (history n) :=
    antitone_nat_of_succ_le fun n => (next n).1
  apply not_always_falls falls
  intro n
  rcases ends n with ⟨m, later, gone | moves⟩
  · rw [(clearing m).going] at gone
    cases gone
  · exact ⟨m, later, (next m).2 moves⟩

/-- The results of a script come in its order. -/
theorem hands_history {queue : ScriptedQueue} (scripted : left.source = .scripted queue)
    (moves : ∀ n, Move true (history n) (history (n + 1))) (n : ℕ) :
    ComeFrom queue.promise (yieldsSince left (history n)) ∧
      Hands queue (yieldsSince left (history n)).length (history n) := by
  induction n with
  | zero =>
      have nothing : yieldsSince left (history 0) = [] := by
        rw [begins, yieldsSince, writtenSince_eq (List.append_nil _).symm]
        rfl
      rw [nothing, begins]
      exact ⟨.nil, .free scripted (by rw [enters]; rfl)⟩
  | succ n inductionHypothesis =>
      rcases inductionHypothesis with ⟨comeFrom, hands⟩
      have gives : GivesNext queue (yieldsSince left (history n)).length (history n)
          (history (n + 1)) := by
        rcases clearing_or_cleared events untouched evolves begins enters calm n with
          ⟨batches, clearing⟩ | ⟨batches, ending, cleared⟩
        · exact hands.move clearing (regular_since events untouched evolves begins n) (moves n)
            (calm n)
        · exact hands.after_end cleared (moves n)
      rcases journal_since events untouched evolves begins n with ⟨earlier, journal⟩
      rcases gives with ⟨trace, continued, ⟨silent, later⟩ | ⟨gave, later⟩⟩
      · rw [yieldsSince_trans journal continued, silent, List.append_nil]
        exact ⟨comeFrom, later⟩
      · rw [yieldsSince_trans journal continued, gave, List.length_append]
        exact ⟨comeFrom.concat rfl, later⟩

/-- A drain does what its results call for, however they come and whatever the handlers
make of the batches: it dispatches the batches that come before nothing or an error, counts
them once, has the statistics written once, and ends with the last result. -/
theorem drain_goes_by_results : GoesByResults left history where
  course := by
    intro n
    rcases clearing_or_cleared events untouched evolves begins enters calm n with
      ⟨batches, clearing⟩ | ⟨batches, ending, cleared⟩
    · exact Or.inl ⟨batches, clearing.stillDrains (regular_since events untouched evolves begins n)⟩
    · exact Or.inr ⟨batches, ending, drainsTo_of_cleared events untouched evolves begins cleared⟩
  final := by
    intro m n later batches ending there
    have cleared := cleared_of_drainsTo events untouched evolves begins enters calm there
    exact drainsTo_of_cleared events untouched evolves begins
      (stays_cleared events untouched evolves begins later cleared)
  ends := by
    intro results batches ending endsAfter comeFrom ends
    classical
    have comes := comes_to_end events untouched evolves begins enters calm endsAfter comeFrom ends
    refine ⟨Nat.find comes, ?_, ?_⟩
    · intro m early
      have regular := regular_since events untouched evolves begins m
      rcases clearing_or_cleared events untouched evolves begins enters calm m with
        ⟨brought, clearing⟩ | ⟨brought, told, cleared⟩
      · have all := comeFrom m
        rw [clearing.yields] at all
        exact ⟨brought, endsAfter.prefix_of_batches all, clearing.stillDrains regular⟩
      · have all := comeFrom m
        rw [(drainsTo_of_cleared events untouched evolves begins cleared).yields] at all
        rcases endsAfter.eq_of_ended all with ⟨rfl, rfl⟩
        exact absurd cleared (Nat.find_min comes early)
    · intro m later
      exact drainsTo_of_cleared events untouched evolves begins
        (stays_cleared events untouched evolves begins later (Nat.find_spec comes))
  script := by
    intro queue scripted moves n
    rcases hands_history events untouched evolves begins enters calm scripted moves n with
      ⟨comeFrom, hands⟩
    refine ⟨comeFrom, ?_⟩
    intro gone
    cases hands with
    | free left _ => exact left
    | awaits _ _ here =>
        rw [here] at gone
        cases gone

end Histories

/-- A service over a queue that gives the drain two batches and is then interrupted, with
a batch left.  One of its handlers panics when it is asked, and one when it is called. -/
def cutShort : Deployment where
  source := .scripted
    { drains := [⟨0, .batch lonely⟩, ⟨0, .batch lonely⟩, ⟨0, .error .cancelled⟩,
        ⟨0, .batch lonely⟩] }
  service :=
    { handlers :=
        [⟨"broken", .scripted .panic none ⟨[]⟩⟩, ⟨"faulty", .scripted .all none ⟨[[.panic]]⟩⟩]
      acknowledger := ⟨[]⟩ }

/-- The service has been started, and somebody shuts it down. -/
def cutShortBegun : Deployment :=
  ((tick^[3] cutShort.start.2).addJob 7 (.join .service true)).wake (.caller 7)

/-- Its worker has left the main loop. -/
def cutShortLeft : Deployment := tick^[3] cutShortBegun

theorem evolves_iterate_tick (deployment : Deployment) (n : ℕ) :
    Evolves deployment (tick^[n] deployment) := by
  induction n with
  | zero => exact .refl
  | succ n inductionHypothesis =>
      rw [Function.iterate_succ_apply']
      exact inductionHypothesis.tail .turn

/-- The service fails with the error, which is handed to the call that shut it down; both
batches are counted, and the third is left in the queue. -/
theorem drain_goes_by_results_cutShort :
    cutShort.Untouched ∧ Evolves cutShort cutShortLeft ∧
      cutShortLeft.service.worker = .draining 0 ∧ (∀ n, (tick^[n] cutShortLeft).CalmInDrain) ∧
      DrainsTo cutShortLeft [lonely, lonely] (.error .cancelled) (tick^[9] cutShortLeft) ∧
      (tick^[9] cutShortLeft).source = .scripted { drains := [⟨0, .batch lonely⟩] } ∧
      (tick^[9] cutShortLeft).outcomes = [(7, .failed .cancelled)] := by
  have untouched : cutShort.Untouched := ⟨rfl, rfl, rfl, rfl, rfl, .nil⟩
  have started : Evolves cutShort (tick^[3] cutShort.start.2) :=
    (Relation.ReflTransGen.single (.act .start)).trans (evolves_iterate_tick _ 3)
  have joined : Event (tick^[3] cutShort.start.2) cutShortBegun :=
    .begins 7 (.join .service true) fun _ => by decide +kernel
  have evolves : Evolves cutShort cutShortLeft :=
    (started.tail joined).trans (evolves_iterate_tick _ 3)
  have enters : cutShortLeft.service.worker = .draining 0 := by decide +kernel
  have moves (n : ℕ) : Move true (tick^[n] cutShortLeft) (tick^[n + 1] cutShortLeft) := by
    rw [Function.iterate_succ_apply']
    exact .turn
  -- Nothing more happens once nobody is in line.
  have settled : (tick^[9] cutShortLeft).Settled := by decide +kernel
  have still (n : ℕ) : tick^[9 + n] cutShortLeft = tick^[9] cutShortLeft := by
    induction n with
    | zero => rfl
    | succ n inductionHypothesis =>
        rw [← Nat.add_assoc, Function.iterate_succ_apply', inductionHypothesis, Deployment.tick,
          show (tick^[9] cutShortLeft).ready = [] from settled]
  have calm (n : ℕ) : (tick^[n] cutShortLeft).CalmInDrain := by
    have early : ∀ n < 10, (tick^[n] cutShortLeft).CalmInDrain := by decide +kernel
    rcases Nat.lt_or_ge n 10 with less | beyond
    · exact early n less
    · rcases Nat.exists_eq_add_of_le (Nat.le_trans (by decide : 9 ≤ 10) beyond) with ⟨k, rfl⟩
      rw [still k]
      exact early 9 (by decide)
  have gone : (tick^[9] cutShortLeft).service.worker.isGone = true := by decide +kernel
  have goes := drain_goes_by_results (fun n => (moves n).event) untouched evolves rfl enters calm
  have scripted : cutShortLeft.source = cutShort.source := by decide +kernel
  have script := goes.script _ scripted moves
  have endsAfter : EndsAfter (ScriptedQueue.promise { drains := [⟨0, .batch lonely⟩,
      ⟨0, .batch lonely⟩, ⟨0, .error .cancelled⟩, ⟨0, .batch lonely⟩] }) [lonely, lonely]
      (.error .cancelled) := by
    refine ⟨?_, rfl⟩
    intro place batch known
    match place with
    | 0 | 1 =>
        cases known
        rfl
    | _ + 2 => cases known
  rcases goes.ends _ _ _ endsAfter (fun n => (script n).1) (fun n => ⟨9 + n, Nat.le_add_left n 9,
    Or.inl ((still n).symm ▸ gone)⟩) with ⟨n, _, ended⟩
  have there := ended (9 + n) (Nat.le_add_left n 9)
  rw [still n] at there
  refine ⟨untouched, evolves, enters, calm, there, ?_, by decide +kernel⟩
  rw [(script 9).2 gone, there.yields]
  rfl

end Deployment
end FailureDispatch

import FailureDispatch.Proofs.Life.Lifecycle
import FailureDispatch.Proofs.Loop.Script

/-!
# Nothing but a request to stop ends the main loop

The histories here are arbitrary sequences of events at a service that nobody has
started yet, over any queue that does not panic.  As long as nobody has told the
service to stop, its worker stays where `GoesRound` says, and what he has written is
what the results call for that he has had.  A queue that says it is closed is not called
again.

That the loop does get on is kept apart from this.  It needs that the waits end: those
of the handlers and of the acknowledger, and those of the queue.  Then every result but
the last is followed by another (`not_always_busy`), and a script is read to its end.
-/

namespace FailureDispatch

/-- Whether the worker is in the main loop. -/
def Worker.inMainLoop : Worker → Bool
  | .looping | .fetching _ | .parked | .dispatching .main _ => true
  | _ => false

/-- How far the worker is from the next answer of his queue. -/
def Worker.strain : Worker → ℕ ×ₗ (ℕ ×ₗ (ℕ ×ₗ ℕ))
  | .dispatching _ dispatch => toLex (3, dispatch.toil)
  | .fresh => toLex (2, toLex (0, toLex (0, 0)))
  | .looping => toLex (1, toLex (0, toLex (0, 0)))
  | _ => toLex (0, toLex (0, toLex (0, 0)))

namespace Deployment

/-! ## Getting on -/

/-- If the worker waits for an answer of his queue, its time has come. -/
def AnswerIsDue (deployment : Deployment) : Prop :=
  ∀ time answer, deployment.service.worker = .fetching (.delayed time answer) →
    time ≤ deployment.now

/-- The worker has his turn, and neither a dispatch nor the queue keeps him waiting. -/
def MovesOn (before after : Deployment) : Prop :=
  GoesOn before after ∧ before.AnswerIsDue

section Strain

variable {origin before after : Deployment} {results : List Result}

/-- Being told something, coming to rest, or getting nearer to either. -/
def Nearer (before : Deployment) (worker : Worker) (brought : List Result) (moves : Prop) : Prop :=
  worker.rests = true ∨ brought ≠ [] ∨
    (worker.strain ≤ before.service.worker.strain ∧
      (moves → worker.strain < before.service.worker.strain))

theorem Heeds.nearer {backlog : Nat} {answer : QueueAnswer} {worker : Worker}
    {brought : List Result} (heeds : Heeds backlog answer worker brought) (moves : Prop) :
    before.Nearer worker brought moves := by
  cases heeds with
  | taken _ | missed _ => exact Or.inr (Or.inl (List.cons_ne_nil _ _))
  | nothing => exact Or.inl rfl

/-- A turn of the worker brings a result, or leads to rest, or nearer to it. -/
theorem Goes.nearer {worker : Worker} {source : Source} {brought : List Result}
    (goes : Goes before worker source brought) (busy : before.service.worker.rests = false) :
    before.Nearer worker brought (before.WaitIsOver ∧ before.AnswerIsDue) := by
  have falls {low high : ℕ} {least most : ℕ ×ₗ (ℕ ×ₗ ℕ)} (less : low < high) :
      toLex (low, least) < toLex (high, most) := Prod.Lex.toLex_lt_toLex.mpr (Or.inl less)
  have nearer {next : Worker} (less : next.strain < before.service.worker.strain) :
      before.Nearer next [] (before.WaitIsOver ∧ before.AnswerIsDue) :=
    Or.inr (Or.inr ⟨le_of_lt less, fun _ => less⟩)
  cases goes with
  | rests quiet =>
      rw [quiet] at busy
      cases busy
  | startsUp here => exact nearer (by rw [here]; exact falls Nat.one_lt_two)
  | calls _ _ | calledOut _ _ _ => exact Or.inl rfl
  | awaits here _ _ => exact nearer (by rw [here]; exact falls Nat.one_pos)
  | answeredAtOnce _ _ _ heeds | answered _ _ heeds => exact heeds.nearer _
  | waits here early =>
      refine Or.inr (Or.inr ⟨le_refl _, ?_⟩)
      intro moves
      exact absurd (moves.2 _ _ here) (Nat.not_le_of_lt early)
  | seeks here _ =>
      rw [here] at busy
      cases busy
  | @dispatches dispatch later here most less =>
      have strain : before.service.worker.strain = toLex (3, dispatch.toil) :=
        congrArg Worker.strain here
      refine Or.inr (Or.inr ?_)
      rw [strain]
      refine ⟨Prod.Lex.toLex_le_toLex.mpr (Or.inr ⟨rfl, most⟩), ?_⟩
      intro moves
      exact Prod.Lex.toLex_lt_toLex.mpr (Or.inr ⟨rfl, less moves.1⟩)
  | completes here => exact nearer (by rw [here]; exact falls (by decide : 1 < 3))

/-- Every event brings a result, or leads to rest, or no farther from it. -/
theorem Living.nearer (living : Living origin results before) (event : Event before after)
    (calm : before.Panicless) (busy : before.service.worker.rests = false) :
    before.Nearer after.service.worker (heard before after) (MovesOn before after) := by
  have turn : before.Nearer before.tick.service.worker (heard before before.tick)
      (before.WaitIsOver ∧ before.AnswerIsDue) ∨ ∀ rest, before.ready ≠ .worker :: rest := by
    by_cases line : ∃ rest, before.ready = .worker :: rest
    · rcases line with ⟨rest, line⟩
      have gets := (living.goes calm).nearer busy
      rw [tick_of_worker line]
      cases before.advanceWorker.1 <;> exact Or.inl gets
    · exact Or.inr fun rest impossible => line ⟨rest, impossible⟩
  by_cases moves : MovesOn before after
  · rcases moves with ⟨⟨⟨rest, line⟩, ended, same⟩, due⟩
    rw [same]
    rcases turn with (rests | brings | ⟨most, less⟩) | nobody
    · exact Or.inl rests
    · exact Or.inr (Or.inl brings)
    · exact Or.inr (Or.inr ⟨most, fun _ => less ⟨ended, due⟩⟩)
    · exact absurd line (nobody rest)
  · have still {worker : Worker} {brought : List Result}
        (most : worker.strain ≤ before.service.worker.strain) :
        before.Nearer worker brought (MovesOn before after) :=
      Or.inr (Or.inr ⟨most, fun impossible => absurd impossible moves⟩)
    rcases event.befalls with befalls | whim
    · cases befalls with
      | @worker rest line =>
          rcases turn with (rests | brings | ⟨most, _⟩) | nobody
          · exact Or.inl rests
          · exact Or.inr (Or.inl brings)
          · exact still most
          · exact absurd line (nobody rest)
      | starts new =>
          rw [(living.of_new new).2.1] at busy
          cases busy
      | elsewhere elsewhere => exact still (by rw [elsewhere.worker])
    · apply still
      cases whim with
      | answers _ _ => exact le_refl _
      | main later _ here | drain later _ here =>
          rw [wake_eq, here]
          exact le_refl _

end Strain

/-! ## Whole histories -/

/-- Where the worker of a service is that nobody has told to stop, and what he has
written when he has had the given results. -/
structure GoesRound (origin : Deployment) (results : List Result) (reached : Deployment) : Prop where
  /-- He has not begun, or he is in the main loop of a running service. -/
  lives : (reached.service.worker = .idle ∧ reached.service.state = .new) ∨
    (reached.service.worker = .fresh ∧ reached.service.state = .starting) ∨
    (reached.service.worker.inMainLoop = true ∧ reached.service.state = .running)
  begins : reached.service.worker = .idle ∨ reached.service.worker = .fresh →
    results = [] ∧ reached.journal.own = origin.journal.own
  /-- Between two rounds, he has done what the results call for. -/
  between : reached.service.worker = .looping ∨ reached.service.worker = .parked →
    reached.journal.own = origin.journal.own ++ (origin.rounds results).trace
  calling : ∀ fetch, reached.service.worker = .fetching fetch →
    reached.journal.own = origin.journal.own ++ (origin.called results).trace
  /-- While he dispatches a batch, he has done what the results before it call for, and
  part of what the batch calls for. -/
  dispatching : ∀ phase dispatch, reached.service.worker = .dispatching phase dispatch →
    ∃ earlier part, results = earlier ++ [.batch dispatch.batch] ∧
      reached.journal.own = origin.journal.own ++ part ∧
      (origin.called earlier).trace ++ [.contact (.gives dispatch.batch)] <+: part ∧
      part <+: (origin.rounds results).trace
  /-- He is parked once the queue has said that it is closed. -/
  parked : reached.service.worker = .parked ↔
    ∃ backlog, results.getLast? = some (.error .queueClosed backlog)
  /-- No result comes after that. -/
  last : Unclosed results.dropLast

theorem Unclosed.getLast?_ne {results : List Result} (unclosed : Unclosed results) (backlog : Nat) :
    results.getLast? ≠ some (.error .queueClosed backlog) :=
  fun last => unclosed backlog (List.mem_of_getLast? last)

theorem Unclosed.dropLast {results : List Result} (unclosed : Unclosed results) :
    Unclosed results.dropLast :=
  fun backlog member => unclosed backlog (List.dropLast_subset results member)

section Places

variable {origin reached taken : Deployment} {state : ServiceState} {results : List Result}
  {batch : Batch} {dispatch : Dispatch}

/-- Whoever has not heard that the queue is closed is not parked. -/
theorem Unclosed.parked_iff {worker : Worker} (unclosed : Unclosed results)
    (other : worker ≠ .parked) :
    worker = .parked ↔ ∃ backlog, results.getLast? = some (.error .queueClosed backlog) := by
  refine iff_of_false other ?_
  rintro ⟨backlog, last⟩
  exact unclosed.getLast?_ne backlog last

/-- Before his first round, the worker has written nothing. -/
theorem Stands.goesRound (stands : Stands origin state (.idle origin.service.staff) reached)
    (lives : (reached.service.worker = .idle ∧ reached.service.state = .new) ∨
      (reached.service.worker = .fresh ∧ reached.service.state = .starting)) :
    GoesRound origin [] reached := by
  have own : reached.journal.own = origin.journal.own := by
    rw [stands.own]
    exact List.append_nil _
  constructor
  case lives => exact lives.imp_right Or.inl
  case begins => exact fun _ => ⟨rfl, own⟩
  case parked =>
    apply Unclosed.nil.parked_iff
    rcases lives with ⟨here, _⟩ | ⟨here, _⟩ <;> simp [here]
  case last => exact .nil
  all_goals rcases lives with ⟨here, _⟩ | ⟨here, _⟩ <;> simp [here]

/-- A dispatch under way has left a part of what its batch calls for. -/
theorem Underway.part_of_round
    (stands : Stands origin .running
      ((origin.called results).andThen fun staff => ⟨[.contact (.gives batch)], staff⟩) taken)
    (underway : Underway taken .main batch dispatch reached) :
    ∃ part, reached.journal.own = origin.journal.own ++ part ∧
      (origin.called results).trace ++ [.contact (.gives batch)] <+: part ∧
        part <+: (origin.rounds (results ++ [.batch batch])).trace := by
  rcases underway.part with ⟨part, _, own, _, total⟩
  have served : taken.service.staff = (origin.rounds results).staff := stands.staff
  refine ⟨(origin.called results).trace ++ [.contact (.gives batch)] ++ part.trace, ?_,
    List.prefix_append _ _, ?_⟩
  · rw [own, stands.own]
    simp only [Account.andThen, List.append_assoc]
  · rw [rounds_concat]
    simp only [called, Staff.meet, Account.andThen, List.append_assoc,
      List.prefix_append_right_inj]
    rw [← served, ← total]
    exact List.prefix_append _ _

theorem Living.goesRound (living : Living origin results reached) :
    GoesRound origin results reached := by
  cases living with
  | idle stands here => exact stands.goesRound (Or.inl ⟨here, stands.state⟩)
  | fresh stands here => exact stands.goesRound (Or.inr ⟨here, stands.state⟩)
  | looping stands unclosed here =>
      constructor
      case lives => exact Or.inr (Or.inr ⟨by rw [here]; rfl, stands.state⟩)
      case between => exact fun _ => stands.own
      case parked => exact unclosed.parked_iff (by simp [here])
      case last => exact unclosed.dropLast
      all_goals simp [here]
  | fetching stands unclosed here =>
      constructor
      case lives => exact Or.inr (Or.inr ⟨by rw [here]; rfl, stands.state⟩)
      case calling => exact fun _ _ => stands.own
      case parked => exact unclosed.parked_iff (by simp [here])
      case last => exact unclosed.dropLast
      all_goals simp [here]
  | @dispatching earlier _ _ _ _ stands unclosed stays underway =>
      have here := underway.worker
      constructor
      case lives => exact Or.inr (Or.inr ⟨by rw [here]; rfl, stays.state⟩)
      case dispatching =>
        intro phase known same
        rw [here] at same
        cases same
        rcases underway.part_of_round stands with ⟨part, own, begun, within⟩
        rw [underway.same]
        exact ⟨earlier, part, rfl, own, begun, within⟩
      case parked => exact (unclosed.concat (by simp)).parked_iff (by simp [here])
      case last =>
        rw [List.dropLast_concat]
        exact unclosed
      all_goals simp [here]
  | @parked earlier backlog _ stands unclosed here =>
      constructor
      case lives => exact Or.inr (Or.inr ⟨by rw [here]; rfl, stands.state⟩)
      case between => exact fun _ => stands.own
      case parked => exact ⟨fun _ => ⟨backlog, List.getLast?_concat⟩, fun _ => here⟩
      case last =>
        rw [List.dropLast_concat]
        exact unclosed
      all_goals simp [here]

end Places

/-- The worker of a running service has begun. -/
theorem Living.not_fresh {origin reached : Deployment} {results : List Result}
    (living : Living origin results reached) (running : reached.service.state = .running) :
    reached.service.worker ≠ .fresh := by
  intro fresh
  rcases living.goesRound.lives with ⟨here, _⟩ | ⟨_, state⟩ | ⟨inside, _⟩
  · rw [here] at fresh
    cases fresh
  · rw [state] at running
    cases running
  · rw [fresh] at inside
    cases inside

/-- A worker who is parked stays parked, and calls his queue no more. -/
theorem Living.stays_parked {origin before after : Deployment} {results : List Result}
    (living : Living origin results before) (event : Event before after)
    (here : before.service.worker = .parked) :
    after.service.worker = .parked ∧ heard before after = [] ∧
      after.journal.own = before.journal.own := by
  have untold : before.service.stopRequested = false := by
    cases living with
    | idle stands _ | fresh stands _ | looping stands _ _ | fetching stands _ _
      | parked stands _ _ => exact stands.untold
    | dispatching _ _ stays _ => exact stays.untold
  rcases event.befalls with befalls | whim
  · cases befalls with
    | worker line =>
        have silent : heard before before = [] := heard_of_trace (List.append_nil _).symm fun _ => rfl
        have rests : before.advanceWorker = (.rests, before) := by
          simp only [advanceWorker, here, untold, Bool.false_eq_true, if_false]
        rw [tick_of_worker line, rests]
        exact ⟨here, silent, rfl⟩
    | starts new =>
        rw [(living.of_new new).2.1] at here
        cases here
    | elsewhere elsewhere =>
        rcases elsewhere.journal with ⟨trace, others, journal⟩
        refine ⟨elsewhere.worker.trans here, elsewhere.heard_eq, ?_⟩
        rw [journal, Journal.own_append, others.own_eq, List.append_nil]
  · refine ⟨?_, whim.heard_eq, ?_⟩
    · cases whim with
      | answers _ _ => exact here
      | main _ _ there | drain _ _ there =>
          rw [here] at there
          cases there
    · cases whim with
      | answers _ _ => rfl
      | main _ _ _ | drain _ _ _ =>
          rw [wake_eq]
          rfl

/-- What becomes of a main loop that nobody tells to stop. -/
structure Endless (origin : Deployment) (history : ℕ → Deployment) : Prop where
  goesRound : ∀ n, (history n).service.stopRequested = false →
    GoesRound origin (resultsBy history n) (history n)
  running : ∀ m n, m ≤ n → (history n).service.stopRequested = false →
    (history m).service.state = .running → (history n).service.state = .running
  /-- The queue is not called again once it has said that it is closed. -/
  parked : ∀ m n, m ≤ n → (history n).service.stopRequested = false →
    (history m).service.worker = .parked → (history n).service.worker = .parked ∧
      resultsBy history n = resultsBy history m ∧
      (history n).journal.own = (history m).journal.own
  /-- If the waits end, the loop gets one result after the other, until it is for others
  to act. -/
  getsOn : (∀ n, (history n).service.stopRequested = false) →
    (∀ n, ∃ m ≥ n, (history m).service.worker.rests = true ∨
      MovesOn (history m) (history (m + 1))) →
    ∀ n, ∃ m ≥ n, (history m).service.worker.rests = true ∨
      resultsBy history m ≠ resultsBy history n
  /-- The results of a script come in its order. -/
  inOrder : ∀ queue, origin.source = .scripted queue →
    (∀ n, Move true (history n) (history (n + 1))) →
    ∀ n, (history n).service.stopRequested = false →
      resultsBy history n <+: queue.forecast.1 ∧
        ((history n).service.worker.rests = true → (history n).service.worker ≠ .idle →
          resultsBy history n = queue.forecast.1 ∧
            (history n).source = .scripted { queue with waits := queue.forecast.2 })
  /-- If the waits end, all of them come. -/
  exhausts : ∀ queue, origin.source = .scripted queue →
    (∀ n, Move true (history n) (history (n + 1))) →
    (∀ n, (history n).service.stopRequested = false) →
    (∀ n, ∃ m ≥ n, (history m).service.worker.rests = true ∨
      MovesOn (history m) (history (m + 1))) →
    ∀ n, ∃ m ≥ n, (history m).service.worker.rests = true
  /-- What an error calls for is one line: about an interruption with the size of the
  queue, about any other error as an error. -/
  lines : ∀ backlog error,
    (Notice.ofMiss backlog error).level = (if error = .cancelled then .info else .error) ∧
      (error = .cancelled →
        (Notice.ofMiss backlog error).fields = [("queue_size", .number backlog)])

section Histories

variable {origin : Deployment} {history : ℕ → Deployment}
  (events : ∀ n, Event (history n) (history (n + 1)))
include events

theorem evolves_between {m n : ℕ} (later : m ≤ n) : Evolves (history m) (history n) := by
  induction later with
  | refl => exact .refl
  | step _ inductionHypothesis => exact inductionHypothesis.tail (events _)

variable (untouched : origin.Untouched) (begins : history 0 = origin)
include untouched begins

theorem regular_history (n : ℕ) : (history n).Regular :=
  untouched.regular.persists (begins ▸ evolves_between events (Nat.zero_le n))

/-- Whom nobody has told to stop, nobody had told before. -/
theorem untold_before {m n : ℕ} (later : m ≤ n)
    (untold : (history n).service.stopRequested = false) :
    (history m).service.stopRequested = false := by
  by_contra told
  have keeps (service later : Service) (_ trace : Journal) (_ : service.Lawful)
      (deed : Deed service later trace) (told : service.stopRequested = true) :
      later.stopRequested = true := deed.told told
  have kept := (regular_history events untouched begins m).keeps (evolves_between events later)
    keeps (by simpa using told)
  rw [untold] at kept
  cases kept

variable (calm : ∀ n, (history n).Panicless)
include calm

theorem living_history (n : ℕ) (untold : (history n).service.stopRequested = false) :
    Living origin (resultsBy history n) (history n) := by
  induction n with
  | zero =>
      rw [begins]
      exact .idle ⟨⟨untouched.state, untouched.untold, rfl⟩, (List.append_nil _).symm, rfl⟩
        untouched.worker
  | succ n inductionHypothesis =>
      have untoldBefore := untold_before events untouched begins (Nat.le_succ n) untold
      exact (inductionHypothesis untoldBefore).event (events n) (calm n) untold

/-- If the waits end, no worker is busy for ever without a result. -/
theorem not_always_busy (untold : ∀ n, (history n).service.stopRequested = false)
    (ends : ∀ n, ∃ m ≥ n, (history m).service.worker.rests = true ∨
      MovesOn (history m) (history (m + 1))) (n : ℕ) :
    ∃ m ≥ n, (history m).service.worker.rests = true ∨
      resultsBy history m ≠ resultsBy history n := by
  by_contra never
  have busy (k : ℕ) : (history (n + k)).service.worker.rests = false := by
    by_contra rests
    exact never ⟨n + k, Nat.le_add_right n k, Or.inl (by simpa using rests)⟩
  have same (k : ℕ) : resultsBy history (n + k) = resultsBy history n := by
    by_contra differ
    exact never ⟨n + k, Nat.le_add_right n k, Or.inr differ⟩
  have silent (k : ℕ) : heard (history (n + k)) (history (n + k + 1)) = [] := by
    have next : resultsBy history (n + k) ++ heard (history (n + k)) (history (n + k + 1)) =
        resultsBy history (n + k) ++ [] :=
      (same (k + 1)).trans ((same k).symm.trans (List.append_nil _).symm)
    exact List.append_cancel_left next
  have next (k : ℕ) :
      (history (n + k + 1)).service.worker.strain ≤ (history (n + k)).service.worker.strain ∧
        (MovesOn (history (n + k)) (history (n + k + 1)) →
          (history (n + k + 1)).service.worker.strain <
            (history (n + k)).service.worker.strain) := by
    have living := living_history events untouched begins calm (n + k) (untold _)
    rcases living.nearer (events _) (calm _) (busy k) with rests | brings | nearer
    · have impossible := busy (k + 1)
      rw [← Nat.add_assoc, rests] at impossible
      cases impossible
    · exact absurd (silent k) brings
    · exact nearer
  have falls : Antitone fun k => (history (n + k)).service.worker.strain :=
    antitone_nat_of_succ_le fun k => (next k).1
  apply not_always_falls falls
  intro k
  rcases ends (n + k) with ⟨m, later, rests | moves⟩
  · rcases Nat.exists_eq_add_of_le (Nat.le_trans (Nat.le_add_right n k) later) with ⟨j, rfl⟩
    rw [busy j] at rests
    cases rests
  · rcases Nat.exists_eq_add_of_le (Nat.le_trans (Nat.le_add_right n k) later) with ⟨j, rfl⟩
    exact ⟨j, Nat.le_of_add_le_add_left later, (next j).2 moves⟩

theorem stays_running {m n : ℕ} (later : m ≤ n)
    (untold : (history n).service.stopRequested = false)
    (running : (history m).service.state = .running) :
    (history n).service.state = .running := by
  have untoldThen := untold_before events untouched begins later untold
  have begun := (living_history events untouched begins calm m untoldThen).not_fresh running
  have started : (history m).service.state ≠ .new := by
    rw [running]
    decide
  have keeps (service later : Service) (_ trace : Journal) (_ : service.Lawful)
      (deed : Deed service later trace) (kept : service.state ≠ .new ∧ service.worker ≠ .fresh) :
      later.state ≠ .new ∧ later.worker ≠ .fresh :=
    ⟨deed.started kept.1, deed.not_fresh kept.1 kept.2⟩
  have kept := (regular_history events untouched begins m).keeps (evolves_between events later)
    keeps ⟨started, begun⟩
  rcases (living_history events untouched begins calm n untold).goesRound.lives with
    ⟨_, new⟩ | ⟨fresh, _⟩ | ⟨_, same⟩
  · exact absurd new kept.1
  · exact absurd fresh kept.2
  · exact same

theorem stays_parked {m n : ℕ} (later : m ≤ n)
    (untold : (history n).service.stopRequested = false)
    (here : (history m).service.worker = .parked) :
    (history n).service.worker = .parked ∧ resultsBy history n = resultsBy history m ∧
      (history n).journal.own = (history m).journal.own := by
  induction later with
  | refl => exact ⟨here, rfl, rfl⟩
  | @step n _ inductionHypothesis =>
      have untoldBefore := untold_before events untouched begins (Nat.le_succ n) untold
      rcases inductionHypothesis untoldBefore with ⟨parked, results, own⟩
      have living := living_history events untouched begins calm n untoldBefore
      rcases living.stays_parked (events n) parked with ⟨still, silent, same⟩
      refine ⟨still, ?_, same.trans own⟩
      rw [resultsBy, silent, List.append_nil, results]

section Script

variable {queue : ScriptedQueue} (scripted : origin.source = .scripted queue)
  (moves : ∀ n, Move true (history n) (history (n + 1)))
include scripted moves

theorem reads_history (n : ℕ) (untold : (history n).service.stopRequested = false) :
    Reads queue (resultsBy history n) (history n) := by
  induction n with
  | zero =>
      rw [begins]
      refine ⟨queue, scripted, rfl, ?_⟩
      rw [untouched.worker]
      rfl
  | succ n inductionHypothesis =>
      have untoldBefore := untold_before events untouched begins (Nat.le_succ n) untold
      exact (inductionHypothesis untoldBefore).move
        (living_history events untouched begins calm n untoldBefore) (moves n) (calm n)

/-- If the waits end, the script is read to its end. -/
theorem reads_on (untold : ∀ n, (history n).service.stopRequested = false)
    (ends : ∀ n, ∃ m ≥ n, (history m).service.worker.rests = true ∨
      MovesOn (history m) (history (m + 1))) (n : ℕ) :
    ∃ m ≥ n, (history m).service.worker.rests = true := by
  have bounded (n : ℕ) : (resultsBy history n).length ≤ queue.forecast.1.length := by
    rcases reads_history events untouched begins calm scripted moves n (untold n) with
      ⟨left, _, _, whole⟩
    rw [whole, List.length_append]
    exact Nat.le_add_right _ _
  -- By induction on how many results are still to come.
  generalize remaining : queue.forecast.1.length - (resultsBy history n).length = missing
  induction missing using Nat.strong_induction_on generalizing n with
  | _ missing inductionHypothesis =>
      rcases not_always_busy events untouched begins calm untold ends n with
        ⟨m, later, rests | differ⟩
      · exact ⟨m, later, rests⟩
      · have longer : (resultsBy history n).length < (resultsBy history m).length := by
          have first := resultsBy_prefix history later
          exact Nat.lt_of_le_of_ne first.length_le fun same =>
            differ (first.eq_of_length same).symm
        have less := bounded m
        rcases inductionHypothesis _ (by omega) m rfl with ⟨k, after, rests⟩
        exact ⟨k, Nat.le_trans later after, rests⟩

end Script

/-- As long as no stop has been requested, the worker does not end and a running service
stays running; what the worker writes is exactly what the results call for, one after the
other; and a queue that has said it is closed is called no more.  If the waits end, every
result comes. -/
theorem loop_endless_until_told : Endless origin history where
  goesRound := fun n untold => (living_history events untouched begins calm n untold).goesRound
  running := fun _ _ later untold running =>
    stays_running events untouched begins calm later untold running
  parked := fun _ _ later untold here =>
    stays_parked events untouched begins calm later untold here
  getsOn := not_always_busy events untouched begins calm
  inOrder := by
    intro queue scripted moves n untold
    have reads := reads_history events untouched begins calm scripted moves n untold
    refine ⟨?_, reads.complete⟩
    rcases reads with ⟨left, _, _, whole⟩
    rw [whole]
    exact List.prefix_append _ _
  exhausts := fun _ scripted moves =>
    reads_on events untouched begins calm scripted moves
  lines := Notice.level_ofMiss

end Histories

/-- A service over a queue that is interrupted, gives a batch, fails, says that it is
closed, and would then give another batch. -/
def interruptedOften : Deployment where
  source := .scripted
    { waits := [⟨0, .error .cancelled⟩, ⟨0, .batch lonely⟩, ⟨0, .error .emptyBatch⟩,
        ⟨0, .error .queueClosed⟩, ⟨0, .batch lonely⟩] }
  service :=
    { handlers :=
        [⟨"broken", .scripted .panic none ⟨[]⟩⟩, ⟨"faulty", .scripted .all none ⟨[[.panic]]⟩⟩]
      acknowledger := ⟨[]⟩ }

/-- The service is started, and its worker has all the turns. -/
def neverTold : ℕ → Deployment
  | 0 => interruptedOften
  | n + 1 => tick^[n] interruptedOften.start.2

/-- The service is parked in the end, with the last batch left in the queue; the results
before it came in their order. -/
theorem loop_endless_until_told_interruptedOften :
    interruptedOften.Untouched ∧ (∀ n, (neverTold n).Panicless) ∧
      ∃ n, (neverTold n).service.worker = .parked ∧
        resultsBy neverTold n = [.error .cancelled 4, .batch lonely, .error .emptyBatch 2,
          .error .queueClosed 1] ∧
        (neverTold n).source = .scripted { waits := [⟨0, .batch lonely⟩] } ∧
        (neverTold n).journal.own = (interruptedOften.rounds [.error .cancelled 4, .batch lonely,
          .error .emptyBatch 2, .error .queueClosed 1]).trace := by
  have untouched : interruptedOften.Untouched := ⟨rfl, rfl, rfl, rfl, rfl, .nil⟩
  have tick (n : ℕ) : neverTold (n + 2) = (neverTold (n + 1)).tick := Function.iterate_succ_apply' ..
  have moves (n : ℕ) : Move true (neverTold n) (neverTold (n + 1)) := by
    cases n with
    | zero => exact .act .start
    | succ n =>
        rw [tick n]
        exact .turn
  -- Nothing more happens once nobody is in line.
  have settled : (neverTold 9).Settled := by decide +kernel
  have still (n : ℕ) : neverTold (9 + n) = neverTold 9 := by
    induction n with
    | zero => rfl
    | succ n inductionHypothesis =>
        have next := tick (8 + n)
        rw [show 8 + n + 1 = 9 + n by omega, inductionHypothesis] at next
        rw [show 9 + (n + 1) = 8 + n + 2 by omega, next, Deployment.tick,
          show (neverTold 9).ready = [] from settled]
  have always (property : Deployment → Prop) (early : ∀ n < 10, property (neverTold n)) (n : ℕ) :
      property (neverTold n) := by
    rcases Nat.lt_or_ge n 10 with less | beyond
    · exact early n less
    · rcases Nat.exists_eq_add_of_le (Nat.le_trans (by decide : 9 ≤ 10) beyond) with ⟨k, rfl⟩
      rw [still k]
      exact early 9 (by decide)
  have calm := always Panicless (by decide +kernel)
  have untold := always (fun deployment => deployment.service.stopRequested = false)
    (by decide +kernel)
  have rests : (neverTold 9).service.worker.rests = true := by decide +kernel
  have endless := loop_endless_until_told (fun n => (moves n).event) untouched rfl calm
  rcases endless.exhausts _ rfl moves untold (fun n => ⟨9 + n, Nat.le_add_left n 9,
    Or.inl ((still n).symm ▸ rests)⟩) 9 with ⟨n, later, rested⟩
  have parked := endless.parked 9 n later (untold n) (by decide +kernel)
  have whole := (endless.inOrder _ rfl moves n (untold n)).2 rested (by simp [parked.1])
  have own := (endless.goesRound n (untold n)).between (Or.inr parked.1)
  rw [whole.1] at own
  exact ⟨untouched, calm, n, parked.1, whole.1, whole.2, own⟩

end Deployment
end FailureDispatch

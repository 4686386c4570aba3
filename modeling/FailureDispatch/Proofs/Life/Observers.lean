import FailureDispatch.Proofs.Custody.Orphan
import FailureDispatch.Proofs.Life.Proclamation

/-!
# Those who wait for a state

Whoever waits for a state looks at it when his turn comes, and either has his answer
or waits on.  He gets a turn when he begins and whenever another state has been
entered, so nobody sleeps through the state he waits for, in whatever order he came
and however many states were entered before he looked.

`Watchful` is the invariant.  With it, a settled deployment shows who is still
waiting: exactly those whom the present state does not answer.
-/

namespace FailureDispatch

namespace Call

/-- The answer that a call which waits for a state finds in the present one. -/
def answer? (state : ServiceState) : Call → Option Outcome
  | awaitRunning =>
      match state with
      | .new | .starting => none
      | .running => some .done
      | other => some (.failed (.unexpectedState .running other))
  | awaitTerminated => if state.isTerminal then some (.state state) else none
  | _ => none

/-- No call begins to wait for a state that did not wait for one before. -/
theorem Follows.observesState_eq {earlier later : Call} (follows : earlier.Follows later) :
    later.observesState = false := by
  cases follows with
  | submit | join => rfl
  | consume _ consumes => cases earlier <;> first | rfl | cases consumes

end Call

/-- A service that is beyond the start does not go back. -/
theorem Deed.beyond {service later : Service} {trace : Journal}
    (deed : Deed service later trace) :
    later.state = service.state ∨ (later.state = .starting ∧ service.state = .new) ∨
      (later.state ≠ .new ∧ later.state ≠ .starting) := by
  cases deed with
  | starts new => exact Or.inr (Or.inl ⟨rfl, new⟩)
  | startsUp _ _ | completes _ _ _ | abandons _ _ _ | buries _ _ | stops _ _ =>
      exact Or.inr (Or.inr ⟨nofun, nofun⟩)
  | _ => exact Or.inl rfl

namespace Deployment

section Observers

variable {deployment before after origin middle reached : Deployment} {id : Nat} {call : Call}

/-! ## A look at the state -/

/-- What becomes of a call that waits for a state when its turn comes. -/
theorem advanceCaller_of_observes {doomed : Bool}
    (known : deployment.job? id = some ⟨call, doomed⟩) (observes : call.observesState = true) :
    deployment.advanceCaller id =
      if doomed then deployment.finish id .aborted
      else match call.answer? deployment.service.state with
        | some outcome => deployment.finish id outcome
        | none => deployment := by
  unfold advanceCaller
  rw [known]
  cases call with
  | awaitRunning =>
      cases doomed with
      | true => rfl
      | false =>
          cases state : deployment.service.state <;>
            simp [advanceCall, Call.answer?, state]
  | awaitTerminated =>
      cases doomed with
      | true => rfl
      | false =>
          cases ended : deployment.service.state.isTerminal <;>
            simp [advanceCall, Call.answer?, ended]
  | _ => cases observes

/-- Whoever waits for a state and has his turn finds no answer and waits on, or ends with
what is due to him. -/
theorem rests_or_ends_of_observes {doomed : Bool}
    (known : deployment.job? id = some ⟨call, doomed⟩) (observes : call.observesState = true) :
    (deployment.advanceCaller id = deployment ∧ doomed = false ∧
        call.answer? deployment.service.state = none) ∨
      ∃ outcome, deployment.advanceCaller id = deployment.finish id outcome ∧
        if doomed then outcome = .aborted
        else call.answer? deployment.service.state = some outcome := by
  have turn := advanceCaller_of_observes known observes
  cases doomed with
  | true => exact Or.inr ⟨.aborted, turn, rfl⟩
  | false =>
      cases answer : call.answer? deployment.service.state with
      | some outcome =>
          rw [answer] at turn
          exact Or.inr ⟨outcome, turn, rfl⟩
      | none =>
          rw [answer] at turn
          exact Or.inl ⟨turn, rfl, rfl⟩

/-- A call that waits for a state after its turn has waited for one before. -/
theorem Visits.waited {job : Job} (visits : Visits before id (before.advanceCaller id))
    (known : (before.advanceCaller id).job? id = some job)
    (observes : job.call.observesState = true) :
    ∃ doomed, before.job? id = some ⟨job.call, doomed⟩ := by
  cases visits.visit with
  | rests jobs _ _ =>
      exact ⟨job.doomed, (congrArg (List.lookup id) jobs).symm.trans known⟩
  | @stays earlier later found follows jobs _ _ =>
      have there := (congrArg (List.lookup id) jobs).symm.trans known
      rw [show List.lookup id _ = _ from job?_setJob found { call := later }] at there
      cases there
      rw [follows.observesState_eq] at observes
      cases observes
  | ends _ _ jobs _ =>
      have there := (congrArg (List.lookup id) jobs).symm.trans known
      rw [show List.lookup id _ = _ from job?_finish_self _] at there
      cases there

/-- Whoever still waits for a state after his turn has found no answer. -/
theorem Visits.unanswered {job : Job} (visits : Visits before id (before.advanceCaller id))
    (known : (before.advanceCaller id).job? id = some job)
    (observes : job.call.observesState = true) :
    job.doomed = false ∧ job.call.answer? (before.advanceCaller id).service.state = none := by
  rcases visits.waited known observes with ⟨doomed, waited⟩
  rcases rests_or_ends_of_observes waited observes with
    ⟨same, whole, unanswered⟩ | ⟨outcome, ended, _⟩
  · rw [same] at known ⊢
    have doomed_eq : doomed = job.doomed :=
      congrArg Job.doomed (Option.some.inj (waited.symm.trans known))
    exact ⟨doomed_eq.symm.trans whole, unanswered⟩
  · rw [ended, job?_finish_self] at known
    cases known

/-- Whoever waits for a state and could have an answer stands in line, and so does whoever
is to be torn down. -/
def Watchful (deployment : Deployment) : Prop :=
  ∀ id job, deployment.job? id = some job → job.call.observesState = true →
    (job.doomed = true ∨ (job.call.answer? deployment.service.state).isSome = true) →
      .caller id ∈ deployment.ready

/-- Where the same calls wait, and nobody who should look again has left the line. -/
theorem Watchful.around (watchful : before.Watchful)
    (waits : ∀ id job, after.job? id = some job → job.call.observesState = true →
      before.job? id = some job)
    (keeps : ∀ id job, after.job? id = some job → job.call.observesState = true →
      .caller id ∈ before.ready → .caller id ∈ after.ready)
    (state : after.service.state = before.service.state ∨
      ∀ id job, before.job? id = some job → job.call.observesState = true →
        .caller id ∈ after.ready) : after.Watchful := by
  intro id job known observes ripe
  have present := waits id job known observes
  rcases state with same | woken
  · rw [same] at ripe
    exact keeps id job known observes (watchful id job present observes ripe)
  · exact woken id job present observes

/-! ## Events -/

theorem Watchful.works (watchful : before.Watchful) (works : Works before after)
    (proclaims : Proclaims before after) : after.Watchful := by
  have same (id : Nat) : after.job? id = before.job? id := congrArg (List.lookup id) works.jobs
  refine watchful.around ?_ ?_ proclaims.state
  · exact fun id job known _ => (same id).symm.trans known
  · exact fun id job _ _ stands => works.waits stands

/-- The turn of a caller.  He either has his answer or goes on waiting for one. -/
theorem Watchful.visits (watchful : before.Watchful) {rest : List Actor}
    (line : before.ready = .caller id :: rest)
    (visits : Visits before id (before.advanceCaller id))
    (proclaims : Proclaims before (before.advanceCaller id).stepBack) :
    (before.advanceCaller id).stepBack.Watchful := by
  intro other job known observes ripe
  by_cases own : other = id
  · subst own
    rcases visits.unanswered known observes with ⟨whole, unanswered⟩
    rcases ripe with doomed | answered
    · rw [whole] at doomed
      cases doomed
    · replace answered :
          (job.call.answer? (before.advanceCaller other).service.state).isSome = true := answered
      rw [unanswered] at answered
      cases answered
  · have same : (before.advanceCaller id).job? other = before.job? other :=
      visits.visit.job?_of_ne own
    have present := same.symm.trans known
    rcases proclaims.state with still | woken
    · rw [still] at ripe
      have stands := watchful other job present observes ripe
      apply visits.toUnfolds.mem_stepBack line _ (visits.toUnfolds.waits stands)
      intro impossible
      exact own (Actor.caller.inj impossible)
    · exact woken other job present observes

theorem Watchful.tick (watchful : before.Watchful) (regular : before.Regular) :
    before.tick.Watchful := by
  have proclaims := regular.proclaims_tick
  unfold Deployment.tick at proclaims ⊢
  cases line : before.ready with
  | nil => exact watchful
  | cons head rest =>
      rw [line] at proclaims
      cases head with
      | worker =>
          have works := works_advanceWorker regular.lawful
          dsimp only at proclaims ⊢
          split
          · next after goesOn =>
            rw [goesOn] at works proclaims
            exact watchful.works works proclaims
          · next after rests =>
            rw [rests] at works proclaims
            have same (id : Nat) : after.job? id = before.job? id :=
              congrArg (List.lookup id) works.jobs
            refine watchful.around ?_ ?_ proclaims.state
            · exact fun id job known _ => (same id).symm.trans known
            · intro id job _ _ stands
              exact works.toUnfolds.mem_stepBack line nofun (works.waits stands)
      | caller id =>
          exact watchful.visits line (visits_advanceCaller regular.lawful regular.joins)
            proclaims

theorem Watchful.begins (watchful : before.Watchful) (id : Nat) (call : Call) :
    ((before.addJob id call).wake (.caller id)).Watchful := by
  intro other job known observes ripe
  rw [wake_eq] at known ripe ⊢
  apply mem_lineUp.mpr
  by_cases own : other = id
  · exact Or.inr (congrArg Actor.caller own)
  · refine Or.inl (watchful other job ?_ observes ripe)
    have single : List.lookup other [(id, ({ call } : Job))] = none := by
      rw [List.lookup_cons, beq_false_of_ne own]
      rfl
    exact (Option.or_none.symm.trans ((congrArg _ single.symm).trans
      (job?_addJob before id call other).symm)).trans known

theorem Watchful.aborts (watchful : before.Watchful) {job : Job} :
    ((before.setJob id { job with doomed := true }).wake (.caller id)).Watchful := by
  intro other waiting known observes ripe
  rw [wake_eq] at known ripe ⊢
  apply mem_lineUp.mpr
  by_cases own : other = id
  · exact Or.inr (congrArg Actor.caller own)
  · exact Or.inl (watchful other waiting ((job?_setJob_of_ne own _).symm.trans known)
      observes ripe)

theorem Watchful.event (watchful : before.Watchful) (regular : before.Regular)
    (event : Event before after) : after.Watchful := by
  cases event with
  | turn => exact watchful.tick regular
  | begins id call _ => exact watchful.begins id call
  | abort known => exact watchful.aborts
  | act act =>
      rcases act.proclaims with proclaims | ⟨watches, same⟩
      · exact watchful.works (regular.works_of_act act) proclaims
      · rw [same]
        exact watchful
  | whim whim => exact watchful.works (works_whim whim) whim.quiet.proclaims

theorem Watchful.evolves (watchful : origin.Watchful) (regular : origin.Regular)
    (evolves : Evolves origin reached) : reached.Watchful := by
  induction evolves with
  | refl => exact watchful
  | tail earlier event inductionHypothesis =>
      exact inductionHypothesis.event (regular.persists earlier) event

/-! ## Who is still waiting -/

/-- A call that waits for a state is under way, or has been aborted, or finds its answer in
the present state. -/
def Answered (id : Nat) (call : Call) (deployment : Deployment) : Prop :=
  (∃ doomed, deployment.job? id = some ⟨call, doomed⟩) ∨
    (id, .aborted) ∈ deployment.outcomes ∨
      (call.answer? deployment.service.state).isSome = true

/-- An answer that could be given once can be given ever after. -/
theorem Regular.answered (regular : before.Regular) (event : Event before after)
    (answered : (call.answer? before.service.state).isSome = true) :
    (call.answer? after.service.state).isSome = true := by
  have evolves : Evolves before after := .single event
  cases call with
  | awaitRunning =>
      have keeps (service later : Service) (journal trace : Journal) (_ : service.Lawful)
          (deed : Deed service later trace)
          (kept : service.state ≠ .new ∧ service.state ≠ .starting) :
          later.state ≠ .new ∧ later.state ≠ .starting := by
        rcases deed.beyond with same | ⟨_, new⟩ | beyond
        · rw [same]
          exact kept
        · exact absurd new kept.1
        · exact beyond
      have beyond : before.service.state ≠ .new ∧ before.service.state ≠ .starting := by
        cases state : before.service.state with
        | new | starting =>
            rw [state] at answered
            cases answered
        | _ => decide
      have there := regular.keeps evolves keeps beyond
      cases state : after.service.state with
      | new => exact absurd state there.1
      | starting => exact absurd state there.2
      | _ => rfl
  | awaitTerminated =>
      have ended : before.service.state.isTerminal = true := by
        cases ended : before.service.state.isTerminal with
        | true => rfl
        | false =>
            simp only [Call.answer?, ended] at answered
            cases answered
      have same := (regular.atRest evolves ended).state
      rw [same]
      exact answered
  | _ => cases answered

/-- A call that waits for a state goes on waiting, or its caller has had his turn. -/
theorem follows_of_observes (regular : before.Regular) (event : Event before after) {doomed : Bool}
    (known : before.job? id = some ⟨call, doomed⟩) (observes : call.observesState = true) :
    (∃ still, after.job? id = some ⟨call, still⟩) ∨
      (after.job? id = none ∧ after.service.state = before.service.state ∧
        ∃ outcome, after.outcomes = before.outcomes ++ [(id, outcome)] ∧
          if doomed then outcome = .aborted
          else call.answer? before.service.state = some outcome) := by
  have stays (same : after.job? id = before.job? id) :
      ∃ still, after.job? id = some ⟨call, still⟩ :=
    ⟨doomed, same.trans known⟩
  cases event with
  | begins other call' _ =>
      refine Or.inl ⟨doomed, ?_⟩
      rw [wake_eq]
      exact job?_addJob_of_some known
  | @abort other job present =>
      refine Or.inl ?_
      rw [wake_eq] at stays ⊢
      by_cases own : id = other
      · subst own
        rw [known] at present
        cases present
        exact ⟨true, job?_setJob known _⟩
      · exact stays (job?_setJob_of_ne own _)
  | act act => exact Or.inl (stays (congrArg (List.lookup id) (regular.works_of_act act).jobs))
  | whim whim => exact Or.inl (stays (congrArg (List.lookup id) (works_whim whim).jobs))
  | turn =>
      unfold tick at stays ⊢
      cases line : before.ready with
      | nil => exact Or.inl ⟨doomed, known⟩
      | cons head rest =>
          cases head with
          | worker =>
              have jobs := (works_advanceWorker regular.lawful).jobs
              rw [line] at stays
              dsimp only at stays ⊢
              refine Or.inl (stays ?_)
              split <;> next same =>
                rw [same] at jobs
                exact congrArg (List.lookup id) jobs
          | caller other =>
              rw [line] at stays
              dsimp only at stays ⊢
              by_cases own : id = other
              · subst own
                rcases rests_or_ends_of_observes known observes with
                  ⟨same, _, _⟩ | ⟨outcome, ended, due⟩
                · rw [same]
                  exact Or.inl ⟨doomed, known⟩
                · rw [ended]
                  exact Or.inr ⟨job?_finish_self outcome, rfl, outcome, rfl, due⟩
              · exact Or.inl (stays (job?_advanceCaller_of_ne regular own))

theorem Answered.event (followed : Answered id call before) (regular : before.Regular)
    (observes : call.observesState = true) (event : Event before after) :
    Answered id call after := by
  rcases followed with ⟨doomed, known⟩ | aborted | answered
  · rcases follows_of_observes regular event known observes with
      still | ⟨_, state, outcome, outcomes, due⟩
    · exact Or.inl still
    · cases doomed with
      | true =>
          refine Or.inr (Or.inl ?_)
          rw [outcomes, show outcome = .aborted from due]
          exact List.mem_append_right _ List.mem_cons_self
      | false =>
          refine Or.inr (Or.inr ?_)
          rw [state, show call.answer? _ = some outcome from due]
          rfl
  · exact Or.inr (Or.inl ((regular.passes event).outcomes aborted))
  · exact Or.inr (Or.inr (regular.answered event answered))

theorem Answered.evolves (followed : Answered id call middle) (regular : middle.Regular)
    (observes : call.observesState = true) (evolves : Evolves middle reached) :
    Answered id call reached := by
  induction evolves with
  | refl => exact followed
  | tail earlier event inductionHypothesis =>
      exact inductionHypothesis.event (regular.persists earlier) observes event

/-- In a settled deployment a call that waits for a state is under way exactly if the state
does not answer it, unless it has been aborted. -/
theorem pending_iff_unanswered (watchful : middle.Watchful) (regular : middle.Regular)
    (evolves : Evolves middle reached) (settled : reached.Settled) {job : Job}
    (known : middle.job? id = some job) (observes : job.call.observesState = true)
    (kept : (id, .aborted) ∉ reached.outcomes) :
    (∃ doomed, reached.job? id = some ⟨job.call, doomed⟩) ↔
      job.call.answer? reached.service.state = none := by
  constructor
  · rintro ⟨doomed, waiting⟩
    cases answer : job.call.answer? reached.service.state with
    | none => rfl
    | some outcome =>
        have stands := watchful.evolves regular evolves id _ waiting observes
          (Or.inr (by rw [answer]; rfl))
        rw [show reached.ready = [] from settled] at stands
        cases stands
  · intro unanswered
    have followed : Answered id job.call middle := Or.inl ⟨job.doomed, known⟩
    rcases followed.evolves regular observes evolves with waiting | aborted | answered
    · exact waiting
    · exact absurd aborted kept
    · rw [unanswered] at answered
      cases answered

end Observers

end Deployment
end FailureDispatch

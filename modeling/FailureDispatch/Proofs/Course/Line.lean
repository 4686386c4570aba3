import FailureDispatch.Deployment.Steps
import FailureDispatch.Proofs.Journal.Views

/-!
# The line and what wakes

Waking touches nothing but the line of those who can act.  The operations that
wake somebody are therefore said once as changes of single parts of a
deployment: whoever asks for another part gets it by computation.

A line only grows at its end while somebody has a turn, and only its head
leaves.  So everybody else keeps his place until his turn has come.
-/

namespace FailureDispatch

/-- The line after an actor has been woken. -/
def lineUp (line : List Actor) (actor : Actor) : List Actor :=
  if actor ∈ line then line else line ++ [actor]

/-- The line after several have been woken. -/
def lineUpAll (line actors : List Actor) : List Actor := actors.foldl lineUp line

theorem mem_lineUp {line : List Actor} {actor other : Actor} :
    other ∈ lineUp line actor ↔ other ∈ line ∨ other = actor := by
  unfold lineUp
  by_cases present : actor ∈ line
  · rw [if_pos present]
    constructor
    · exact Or.inl
    · intro stands
      rcases stands with already | equal
      · exact already
      · rw [equal]
        exact present
  · rw [if_neg present, List.mem_append, List.mem_singleton]

/-- Those who stand in line are those who stood there and those who were woken. -/
theorem mem_lineUpAll {line actors : List Actor} {other : Actor} :
    other ∈ lineUpAll line actors ↔ other ∈ line ∨ other ∈ actors := by
  induction actors generalizing line with
  | nil => simp only [lineUpAll, List.foldl_nil, List.not_mem_nil, or_false]
  | cons actor rest inductionHypothesis =>
      have woken : other ∈ lineUpAll (lineUp line actor) rest ↔
          other ∈ lineUp line actor ∨ other ∈ rest := inductionHypothesis
      rw [mem_lineUp, or_assoc] at woken
      rw [List.mem_cons]
      exact woken

theorem lineUpAll_lineUpAll (line first second : List Actor) :
    lineUpAll (lineUpAll line first) second = lineUpAll line (first ++ second) :=
  List.foldl_append.symm

theorem lineUp_cons (head : Actor) (line : List Actor) (actor : Actor) :
    ∃ rest, lineUp (head :: line) actor = head :: rest := by
  unfold lineUp
  split
  · exact ⟨line, rfl⟩
  · exact ⟨line ++ [actor], rfl⟩

/-- Waking does not move the head of the line. -/
theorem lineUpAll_cons (head : Actor) (line actors : List Actor) :
    ∃ rest, lineUpAll (head :: line) actors = head :: rest := by
  induction actors generalizing line with
  | nil => exact ⟨line, rfl⟩
  | cons actor others inductionHypothesis =>
      rcases lineUp_cons head line actor with ⟨rest, same⟩
      rcases inductionHypothesis rest with ⟨last, final⟩
      refine ⟨last, ?_⟩
      rw [← final, ← same]
      rfl

/-- Those who are woken stand behind those who stood there before. -/
theorem lineUpAll_eq_append (line actors : List Actor) :
    ∃ added, lineUpAll line actors = line ++ added := by
  induction actors generalizing line with
  | nil => exact ⟨[], (List.append_nil line).symm⟩
  | cons actor others inductionHypothesis =>
      rcases inductionHypothesis (lineUp line actor) with ⟨added, same⟩
      have first : ∃ one, lineUp line actor = line ++ one := by
        unfold lineUp
        split
        · exact ⟨[], (List.append_nil line).symm⟩
        · exact ⟨[actor], rfl⟩
      rcases first with ⟨one, longer⟩
      refine ⟨one ++ added, ?_⟩
      rw [← List.append_assoc, ← longer]
      exact same

/-- Nobody stands in line twice. -/
theorem nodup_lineUpAll {line : List Actor} (once : line.Nodup) (actors : List Actor) :
    (lineUpAll line actors).Nodup := by
  induction actors generalizing line with
  | nil => exact once
  | cons actor others inductionHypothesis =>
      apply inductionHypothesis
      unfold lineUp
      split
      · exact once
      · next absent =>
        exact (List.perm_append_singleton actor line).nodup_iff.mpr
          (List.nodup_cons.mpr ⟨absent, once⟩)

/-- When the head has left, everybody else is still there. -/
theorem mem_tail_lineUpAll {head other : Actor} {line actors : List Actor}
    (different : other ≠ head) :
    other ∈ (lineUpAll (head :: line) actors).tail ↔ other ∈ line ∨ other ∈ actors := by
  rcases lineUpAll_cons head line actors with ⟨rest, same⟩
  have woken : other ∈ lineUpAll (head :: line) actors ↔ other ∈ head :: line ∨ other ∈ actors :=
    mem_lineUpAll
  rw [same, List.mem_cons, List.mem_cons] at woken
  rw [same, List.tail_cons]
  constructor
  · intro stands
    rcases woken.mp (Or.inr stands) with (equal | already) | awoken
    · exact absurd equal different
    · exact Or.inl already
    · exact Or.inr awoken
  · intro stands
    have inLine : other = head ∨ other ∈ rest := by
      apply woken.mpr
      rcases stands with already | awoken
      · exact Or.inl (Or.inr already)
      · exact Or.inr awoken
    exact inLine.resolve_left different

namespace ServiceState

/-- The state after a request to stop. -/
def stopped (state : ServiceState) : ServiceState :=
  if state.canBecome .stopping then .stopping else state

end ServiceState

namespace Deployment

theorem wake_eq (deployment : Deployment) (actor : Actor) :
    deployment.wake actor = { deployment with ready := lineUp deployment.ready actor } := by
  unfold wake lineUp
  split <;> rfl

theorem wakeAll_eq (deployment : Deployment) (actors : List Actor) :
    deployment.wakeAll actors =
      { deployment with ready := lineUpAll deployment.ready actors } := by
  induction actors generalizing deployment with
  | nil => rfl
  | cons actor rest inductionHypothesis =>
      have later := inductionHypothesis (deployment.wake actor)
      rw [wake_eq] at later
      unfold wakeAll at later ⊢
      rw [List.foldl_cons, wake_eq, later]
      rfl

theorem adopt_eq (deployment : Deployment) (woken : List Actor)
    (queue : SubmissionQueue Actor Batch) :
    deployment.adopt woken queue =
      { deployment with source := .buffered queue, ready := lineUpAll deployment.ready woken } := by
  rw [adopt, wakeAll_eq]

/-- Entering a state that the service can enter. -/
theorem enter_of_canBecome {deployment : Deployment} {next : ServiceState}
    (can : deployment.service.state.canBecome next = true) :
    deployment.enter next =
      (.ok (),
        { deployment with
          ready := lineUpAll deployment.ready (deployment.callersWith Call.observesState)
          service :=
            { deployment.service with
              state := next, version := deployment.service.version + 1 }
          journal := deployment.journal ++ [.entered next] }) := by
  rw [enter, if_pos can]
  simp only [note, wakeAll_eq]

theorem enter_of_cannot {deployment : Deployment} {next : ServiceState}
    (cannot : deployment.service.state.canBecome next = false) :
    deployment.enter next =
      (.error (.illegalTransition deployment.service.state next), deployment) := by
  rw [enter, if_neg (Bool.eq_false_iff.mp cannot)]

theorem cancelWorker_eq (deployment : Deployment) :
    ∃ woken, (∀ actor ∈ woken, actor = .worker) ∧ deployment.cancelWorker =
      { deployment with
        ready := lineUpAll deployment.ready woken
        service := { deployment.service with stopRequested := true } } := by
  unfold cancelWorker
  split
  · refine ⟨[.worker], fun _ => List.mem_singleton.mp, ?_⟩
    rw [wake_eq]
    rfl
  · exact ⟨[], nofun, rfl⟩

/-- The statistics as they are shown: in full, or by their tag alone. -/
def figures (deployment : Deployment) (tag : String) : Occurrence :=
  match deployment.source with
  | .buffered queue => .logged (.stats tag queue.stats)
  | .scripted _ => .reported tag

theorem logStats_eq (deployment : Deployment) (tag : String) :
    deployment.logStats tag = deployment.note (deployment.figures tag) := by
  unfold logStats figures
  cases deployment.source <;> rfl

theorem requestStats_eq (deployment : Deployment) (tag : String) :
    deployment.requestStats tag =
      { deployment with
        journal :=
          deployment.journal ++ [.contact (.reports tag), deployment.figures tag] } := by
  rw [requestStats, logStats_eq]
  simp only [note, List.append_assoc, List.cons_append, List.nil_append]
  rfl

/-- The statistics are no business of any view. -/
theorem plain_figures (deployment : Deployment) (tag : String) :
    Journal.Plain [deployment.figures tag] := by
  unfold figures
  cases deployment.source <;> exact .cons rfl .nil

/-- A request to stop sets the mark, moves the state if it can, and wakes those whom it
concerns. -/
theorem requestStop_wakes (deployment : Deployment) :
    ∃ woken version, ∃ trace : Journal, trace.Plain ∧
      (∀ actor ∈ woken,
        actor = .worker ∨ actor ∈ deployment.callersWith Call.observesState) ∧
      deployment.requestStop =
        { deployment with
          ready := lineUpAll deployment.ready woken
          service :=
            { deployment.service with
              state := deployment.service.state.stopped, version, stopRequested := true }
          journal := deployment.journal ++ trace } := by
  cases can : deployment.service.state.canBecome .stopping with
  | true =>
      simp only [requestStop, enter_of_canBecome can, ServiceState.stopped, can, if_true]
      generalize moved : ({ deployment with
          ready := lineUpAll deployment.ready (deployment.callersWith Call.observesState)
          service :=
            { deployment.service with
              state := .stopping, version := deployment.service.version + 1 }
          journal := deployment.journal ++ [.entered .stopping] } : Deployment) = entered
      rcases cancelWorker_eq entered with ⟨woken, workers, told⟩
      refine ⟨deployment.callersWith Call.observesState ++ woken, deployment.service.version + 1,
        [.entered .stopping, .logged .stopRequested, .contact (.reports stopTag),
          (entered.cancelWorker.log .stopRequested).figures stopTag], ?_, ?_, ?_⟩
      · exact .cons rfl (.cons rfl (.cons rfl (plain_figures _ _)))
      · intro actor member
        rcases List.mem_append.mp member with observer | worker
        · exact Or.inr observer
        · exact Or.inl (workers actor worker)
      · rw [requestStats_eq, told, ← moved]
        simp only [log, note, lineUpAll_lineUpAll, List.append_assoc, List.cons_append,
          List.nil_append]
  | false =>
      simp only [requestStop, enter_of_cannot can, ServiceState.stopped, can,
        Bool.false_eq_true, if_false]
      rcases cancelWorker_eq deployment with ⟨woken, workers, told⟩
      refine ⟨woken, deployment.service.version, [], Journal.Plain.nil,
        fun actor member => Or.inl (workers actor member), ?_⟩
      rw [told, List.append_nil]

theorem requestStop_eq (deployment : Deployment) :
    ∃ woken version, ∃ trace : Journal, trace.Plain ∧ deployment.requestStop =
      { deployment with
        ready := lineUpAll deployment.ready woken
        service :=
          { deployment.service with
            state := deployment.service.state.stopped, version, stopRequested := true }
        journal := deployment.journal ++ trace } := by
  rcases requestStop_wakes deployment with ⟨woken, version, trace, plain, _, same⟩
  exact ⟨woken, version, trace, plain, same⟩

end Deployment
end FailureDispatch

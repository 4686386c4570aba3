import FailureDispatch.Proofs.Custody.Owner

/-!
# Stopping a service again

Whoever has the handle may stop the service as often as he likes.  A service that has
been told to stop is stopping, or has ended, and in neither case does another request
find anything to do: the state cannot be entered, and the worker, who has been told,
is not woken again.  So requests can be strewn into a run from the first of them on,
and the run does not change.

The numbers of the calls are those of the run without the further requests.  Otherwise
the two runs could not be compared.
-/

namespace FailureDispatch

/-- What is done in a run into which requests to stop are strewn. -/
inductive Strewn where
  /-- A step of the run itself. -/
  | own (step : Option Step)
  /-- One more request. -/
  | again
  deriving DecidableEq

namespace Strewn

def own? : Strewn → Option (Option Step)
  | own step => some step
  | again => none

/-- The run without the further requests. -/
def steps (entries : List Strewn) : List (Option Step) := entries.filterMap own?

/-- The reports on the steps of the run itself. -/
def ownReports (reports : List (Strewn × Report)) : List Report :=
  reports.filterMap fun entry => entry.1.own?.map fun _ => entry.2

variable {step : Option Step} {rest : List Strewn} {report : Report}
  {reports : List (Strewn × Report)}

@[simp] theorem steps_own : steps (.own step :: rest) = step :: steps rest := rfl

@[simp] theorem steps_again : steps (.again :: rest) = steps rest := rfl

@[simp] theorem ownReports_own :
    ownReports ((.own step, report) :: reports) = report :: ownReports reports := rfl

@[simp] theorem ownReports_again :
    ownReports ((.again, report) :: reports) = ownReports reports := rfl

end Strewn

namespace Deployment

/-- Take the steps of a run, the first of which has the given number, and the requests
that are strewn into it. -/
def runStrewn (deployment : Deployment) :
    Nat → List Strewn → List (Strewn × Report) × Deployment
  | _, [] => ([], deployment)
  | id, .own step :: rest =>
      let (reply, after) := match step with
        | some step => deployment.take id step
        | none => (.nothingToActOn, deployment)
      let (reports, last) := after.runStrewn (id + 1) rest
      ((.own step, deployment.reportSince after (some reply)) :: reports, last)
  | id, .again :: rest =>
      let (reply, after) := deployment.take id .stop
      let (reports, last) := after.runStrewn id rest
      ((.again, deployment.reportSince after (some reply)) :: reports, last)

/-- A run into which nothing is strewn is that run. -/
theorem runStrewn_map_own (deployment : Deployment) (id : Nat) (steps : List (Option Step)) :
    (deployment.runStrewn id (steps.map .own)).2 = (deployment.run id steps).2 ∧
      Strewn.ownReports (deployment.runStrewn id (steps.map .own)).1 =
        (deployment.run id steps).1 := by
  induction steps generalizing id deployment with
  | nil => exact ⟨rfl, rfl⟩
  | cons step rest inductionHypothesis =>
      simp only [List.map_cons, runStrewn, run, Strewn.ownReports_own]
      exact ⟨(inductionHypothesis _ _).1, congrArg (List.cons _) (inductionHypothesis _ _).2⟩

section Again

variable {deployment reached : Deployment}

theorem Regular.told (regular : deployment.Regular) (evolves : Evolves deployment reached)
    (told : deployment.service.stopRequested = true) :
    reached.service.stopRequested = true :=
  regular.keeps evolves (fun _ _ _ _ _ deed kept => deed.told kept) told

/-- A request to stop a service that has been told to stop does nothing. -/
theorem Regular.requestStop_eq (regular : deployment.Regular)
    (told : deployment.service.stopRequested = true) : deployment.requestStop = deployment := by
  have cannot : deployment.service.state.canBecome .stopping = false := by
    cases can : deployment.service.state.canBecome .stopping with
    | false => rfl
    | true => exact told.symm.trans (regular.lawful.untold_of_stoppable can)
  have same : { deployment.service with stopRequested := true } = deployment.service := by
    rw [← told]
  simp only [requestStop, enter_of_cannot cannot, cancelWorker, told, Bool.not_true,
    Bool.false_and, Bool.false_eq_true, if_false, same]

theorem Regular.take_stop (regular : deployment.Regular)
    (told : deployment.service.stopRequested = true) (id : Nat) :
    (deployment.take id .stop).2 = deployment := by
  simp only [take]
  split
  · exact regular.requestStop_eq told
  · rfl
  · rfl

/-- Nothing is to be reported about a request that does nothing. -/
theorem reportSince_self (deployment : Deployment) (reply : Option Reply) :
    (deployment.reportSince deployment reply).events = [] ∧
      (deployment.reportSince deployment reply).ended = [] := by
  refine ⟨?_, ?_⟩
  · simp only [reportSince, List.drop_length]
    rfl
  · simp only [reportSince, List.drop_length]

/-- Whatever is strewn into the run of a service that has been told to stop, the run is the
same. -/
theorem Regular.runStrewn_eq (regular : deployment.Regular)
    (told : deployment.service.stopRequested = true) (id : Nat) (entries : List Strewn) :
    (deployment.runStrewn id entries).2 = (deployment.run id (Strewn.steps entries)).2 ∧
      Strewn.ownReports (deployment.runStrewn id entries).1 =
        (deployment.run id (Strewn.steps entries)).1 ∧
      ∀ entry ∈ (deployment.runStrewn id entries).1, entry.1 = .again →
        entry.2.events = [] ∧ entry.2.ended = [] := by
  induction entries generalizing id deployment with
  | nil => exact ⟨rfl, rfl, fun _ member => absurd member List.not_mem_nil⟩
  | cons entry rest inductionHypothesis =>
      -- After a step of the run itself the service is regular and has still been told.
      have goesOn {after : Deployment} (evolves : Evolves deployment after) :=
        inductionHypothesis (regular.persists evolves) (regular.told evolves told)
      cases entry with
      | own step =>
          cases step with
          | none =>
              rcases goesOn .refl (id + 1) with ⟨last, reports, quiet⟩
              simp only [runStrewn, run, Strewn.steps_own, Strewn.ownReports_own]
              exact ⟨last, congrArg (List.cons _) reports,
                List.forall_mem_cons.mpr ⟨fun strewn => absurd strewn (by simp), quiet⟩⟩
          | some step =>
              have evolves := (take_taken id step).evolves regular
              rcases goesOn evolves (id + 1) with ⟨last, reports, quiet⟩
              simp only [runStrewn, run, Strewn.steps_own, Strewn.ownReports_own]
              exact ⟨last, congrArg (List.cons _) reports,
                List.forall_mem_cons.mpr ⟨fun strewn => absurd strewn (by simp), quiet⟩⟩
      | again =>
          rcases goesOn .refl id with ⟨last, reports, quiet⟩
          simp only [runStrewn, regular.take_stop told id, Strewn.steps_again,
            Strewn.ownReports_again]
          exact ⟨last, reports,
            List.forall_mem_cons.mpr ⟨fun _ => reportSince_self _ _, quiet⟩⟩

end Again

/-- From the first request to stop on, further requests change nothing, wherever they are
strewn in: neither how the run ends, nor what is reported of its steps, nor is there
anything to report of them.  At no later moment, between two steps or in the middle of
one, would another request do anything; the state of a service that has ended does not
change any more; and the whole run leaves the marks of one request. -/
theorem stop_idempotent {origin : Deployment} (delivered : origin.Delivered)
    (earlier : List (Option Step))
    (told : (origin.run 0 earlier).2.service.stopRequested = true) (later : List Strewn) :
    (((origin.run 0 earlier).2.runStrewn earlier.length later).2 =
        ((origin.run 0 earlier).2.run earlier.length (Strewn.steps later)).2 ∧
      Strewn.ownReports ((origin.run 0 earlier).2.runStrewn earlier.length later).1 =
        ((origin.run 0 earlier).2.run earlier.length (Strewn.steps later)).1 ∧
      ∀ entry ∈ ((origin.run 0 earlier).2.runStrewn earlier.length later).1,
        entry.1 = .again → entry.2.events = [] ∧ entry.2.ended = []) ∧
    (∀ moment, Evolves (origin.run 0 earlier).2 moment →
      moment.requestStop = moment ∧
        (moment.service.state.isTerminal = true → ∀ last, Evolves moment last →
          last.service.state = moment.service.state)) ∧
    ((origin.run 0 earlier).2.runStrewn earlier.length later).2.journal.stopMarks =
      origin.journal.stopMarks ++ Journal.firstStop := by
  rcases delivered.begins with ⟨tidy, _⟩
  have there := tidy.run earlier
  have same := there.regular.runStrewn_eq told earlier.length later
  refine ⟨same, ?_, ?_⟩
  · intro moment evolves
    have regular := there.regular.persists evolves
    refine ⟨regular.requestStop_eq (there.regular.told evolves told), ?_⟩
    exact fun ended last goesOn => (regular.atRest goesOn ended).state
  · rw [Nat.zero_add] at there
    have owned := (delivered.owned.run tidy earlier).run there (Strewn.steps later)
    have still := there.regular.told
      (evolves_run there.regular earlier.length (Strewn.steps later)) told
    have marked := owned.marked
    unfold Marked at marked
    rw [same.1, marked, still]
    rfl

/-- A service is asked to stop while its handler waits at a gate. -/
def stoppedAtGate : List (Option Step) :=
  [some .start, some (.trySubmit .single), some .settle, some .stop]

/-- It is asked again while the handler waits, after the gate has been opened, and when the
service has ended. -/
def insistently : List Strewn :=
  [.again, .own (some .settle), .again, .own (some (.release "door" 1)), .again,
    .own (some (.advance defaultDrainWait)), .again, .own (some .drop), .again]

/-- The requests meet a service that is dispatching, one that is about to drain, and one
that has terminated, and the run is that without them. -/
theorem stop_idempotent_stoppedAtGate :
    (gated.run 0 stoppedAtGate).2.service.stopRequested = true ∧
      ((gated.run 0 stoppedAtGate).2.runStrewn 4 insistently).2 =
        ((gated.run 0 stoppedAtGate).2.run 4
          [some .settle, some (.release "door" 1), some (.advance defaultDrainWait),
            some .drop]).2 ∧
      ((gated.run 0 stoppedAtGate).2.runStrewn 4 insistently).2.journal.stopMarks =
        Journal.firstStop ∧
      (((gated.run 0 stoppedAtGate).2.runStrewn 4 insistently).1.map fun entry =>
        entry.2.state) =
          [.stopping, .stopping, .stopping, .stopping, .stopping, .terminated, .terminated,
            .terminated, .terminated] := by
  have told : (gated.run 0 stoppedAtGate).2.service.stopRequested = true := by decide +kernel
  have delivered : gated.Delivered := .untouched ⟨rfl, rfl, rfl, rfl, rfl, .nil⟩
  have again := stop_idempotent delivered stoppedAtGate told insistently
  exact ⟨told, again.1.1, again.2.2, by decide +kernel⟩

end Deployment
end FailureDispatch

import FailureDispatch.Proofs.Isolation.Stretches

/-!
# A handler's script is contained

Whether a handler fails, panics or succeeds is the affair of its own call.  Two
deployments that differ in the script of one registered handler, and are driven
by the same steps, cannot be told apart by anything but what is recorded about
how calls came out: the notices of failed calls and their count, and the
acknowledgements after calls of that handler with their count.

In the journals the acknowledgements are told apart by the name of the handler that
was called last.  Where somebody else bears that name, the fallback for instance, it
is the places that tell them apart: the same places are called in both deployments,
and calls at other places leave their acknowledgements in both (`Abreast`).

Scripts that wait are left out.  A handler that takes its time delays whatever
comes after it, and that is no failure.
-/

namespace FailureDispatch

/-- What a report says besides the events. -/
def Report.standing (report : Report) :
    Option Reply × List (Nat × Outcome) × ServiceState × Option QueueReport :=
  (report.reply, report.ended, report.state, report.queue)

namespace Deployment

/-- The deployment, with another handler in one place of the registered ones. -/
def replacing (deployment : Deployment) (index : Nat) (handler : Handler) : Deployment :=
  { deployment with service := deployment.service.setHandler (.registered index) handler }

/-- Whatever may be asked about two deployments, except how the calls of handlers
came out, has one answer for both.  In the journals even that may differ only
for failures, and for acknowledgements after calls of the named handler. -/
structure Indistinct (name : String) (left right : Deployment) : Prop where
  state : right.service.state = left.service.state
  /-- Where the worker is, with the batch in hand and the number of those drained. -/
  worker : right.service.worker = left.service.worker
  /-- The queue, with its buffer and its counters. -/
  source : right.source = left.source
  pending : right.pending = left.pending
  outcomes : right.outcomes = left.outcomes
  inquiries : right.journal.inquiries = left.journal.inquiries
  totals : ∀ counter : Counter, counter.tellsOutcome = false →
    right.journal.totals.get counter = left.journal.totals.get counter
  journal : right.journal.apart name = left.journal.apart name

/-- What two deployments have dispatched since they were the two given ones: the same
batches, stretch for stretch at the same places.  At every place calls leave the same in
both, apart from notices and counts of failures.  Only calls of the handler in the one
place may differ in acknowledgements as well. -/
def Abreast (index : Nat) (origin twin left right : Deployment) : Prop :=
  ∃ batches,
    left.journal.begun = origin.journal.begun ++ batches ∧
    right.journal.begun = twin.journal.begun ++ batches ∧
    left.journal.dispatches = origin.journal.dispatches ++
      (origin.service.staff.stretches batches).flatMap Stretch.entries ∧
    right.journal.dispatches = twin.journal.dispatches ++
      (twin.service.staff.stretches batches).flatMap Stretch.entries ∧
    (origin.service.staff.stretches batches).map (Stretch.apart index) =
      (twin.service.staff.stretches batches).map (Stretch.apart index)

namespace Kindred

variable {likeness : Likeness} {left right : Deployment}

theorem standing (kindred : Kindred likeness left right) {before other : Deployment}
    (earlier : Kindred likeness before other) (reply : Option Reply) :
    (reportSince other right reply).standing = (reportSince before left reply).standing := by
  simp only [reportSince, Report.standing, queueReport?, kindred.outcomes, earlier.outcomes,
    kindred.state, kindred.source]

/-- Kindred deployments give the same reports on the same steps, and are kindred at the
end. -/
theorem run (kindred : Kindred likeness left right) (serves : likeness.Serves) (id : Nat)
    (steps : List (Option Step)) :
    (right.run id steps).1.map Report.standing = (left.run id steps).1.map Report.standing ∧
      Kindred likeness (left.run id steps).2 (right.run id steps).2 := by
  induction steps generalizing id left right with
  | nil => exact ⟨rfl, kindred⟩
  | cons step rest inductionHypothesis =>
      cases step with
      | none =>
          rcases inductionHypothesis kindred (id + 1) with ⟨reports, last⟩
          exact ⟨congrArg₂ List.cons (kindred.standing kindred _) reports, last⟩
      | some step =>
          rcases kindred.take serves id step with ⟨same, later⟩
          rcases inductionHypothesis later (id + 1) with ⟨reports, last⟩
          refine ⟨?_, last⟩
          simp only [Deployment.run, List.map_cons, same]
          exact congrArg₂ List.cons (later.standing kindred _) reports

end Kindred

namespace Twins

variable {name : String} {index : Nat} {left right : Deployment}
  (twins : Twins name index left right)
include twins

theorem indistinct : Indistinct name left right where
  state := twins.kindred.state
  worker := twins.kindred.worker
  source := twins.kindred.source
  pending := by rw [Deployment.pending, Deployment.pending, twins.kindred.jobs]
  outcomes := twins.kindred.outcomes
  inquiries := twins.alike.inquiries_eq.symm
  totals := fun _ apart => (twins.alike.totals_eq apart).symm
  journal := (twins.alike false).symm

/-- Twins give the same reports on the same steps, and are twins at the end. -/
theorem run (id : Nat) (steps : List (Option Step)) :
    (right.run id steps).1.map Report.standing = (left.run id steps).1.map Report.standing ∧
      Twins name index (left.run id steps).2 (right.run id steps).2 := by
  rcases twins.kindred.run (serves_siblings name index) id steps with ⟨reports, last⟩
  exact ⟨reports, last.twins⟩

end Twins

section Replacing

variable {deployment : Deployment} {index : Nat} {name : String} {rule : SupportRule}
  {switch : Option (Schedule Verdict)} {script other : Script}

/-- A deployment with another script in the place of a prompt one is a twin. -/
theorem twins_replacing
    (known : deployment.service.handlers[index]? = some ⟨name, .scripted rule switch script⟩)
    (prompt : deployment.service.staff.Prompt) (promptToo : other.Prompt)
    (between : deployment.service.worker.Between) :
    Twins name index deployment
      (deployment.replacing index ⟨name, .scripted rule switch other⟩) := by
  have named (handler : Handler) (there : deployment.service.handlers[index]? = some handler) :
      handler.name = name := by
    rw [known] at there
    cases there
    rfl
  have itself : Staff.Siblings name index deployment.service.staff deployment.service.staff :=
    ⟨rfl, named, prompt, prompt⟩
  have unscripted : Handler.unscripted ⟨name, .scripted rule switch script⟩ =
      Handler.unscripted ⟨name, .scripted rule switch other⟩ := rfl
  have present : deployment.service.staff.handler? (.registered index) =
      some ⟨name, .scripted rule switch script⟩ := known
  have siblings := itself.setHandler (Or.inr ⟨rfl, unscripted⟩) (fun _ => rfl)
    (prompt.handler present) promptToo
  have unchanged : deployment.service.staff.setHandler (.registered index)
      ⟨name, .scripted rule switch script⟩ = deployment.service.staff := by
    rcases List.getElem?_eq_some_iff.mp known with ⟨inside, there⟩
    rw [Staff.setHandler, ← there]
    exact congrArg (fun handlers => { deployment.service.staff with handlers })
      (List.set_getElem_self inside)
  rw [unchanged] at siblings
  refine ⟨?_, siblings, .refl name _, between⟩
  exact congrArg
    (fun staff =>
      { deployment with service := deployment.service.withStaff staff, journal := [] })
    siblings.bare

/-- Twins that serve an in-memory queue keep abreast of each other. -/
theorem Twins.abreast {left right : Deployment} (twins : Twins name index left right) {id : Nat}
    (sound : left.OnCourse) (numbered : Numbered id left)
    (free : left.service.worker.isFree = true) (steps : List (Option Step)) :
    Abreast index left right (left.run id steps).2 (right.run id steps).2 := by
  have soundToo : right.OnCourse := by
    rw [twins.kindred.refitted]
    exact ⟨sound.buffered, sound.course, sound.held, sound.joins⟩
  have numberedToo : Numbered id right := by
    rw [twins.kindred.refitted]
    exact numbered
  have freeToo : right.service.worker.isFree = true := by
    rw [twins.kindred.worker]
    exact free
  rcases dispatches_run sound numbered twins.staff.left free steps with
    ⟨batches, begun, dispatches⟩
  rcases dispatches_run soundToo numberedToo twins.staff.right freeToo steps with
    ⟨batchesToo, begunToo, dispatchesToo⟩
  have same : batchesToo = batches := by
    have later := (twins.run id steps).2.alike.begun_eq
    rw [begun, begunToo, twins.alike.begun_eq] at later
    exact (List.append_cancel_left later).symm
  subst same
  exact ⟨batchesToo, begun, begunToo, dispatches, dispatchesToo, twins.staff.stretches batchesToo⟩

/-- A script in the place of another one has no influence on anything but what is
recorded about how calls came out, whatever is done to the two deployments.  Over an
in-memory queue the dispatches agree place by place, whatever names the handlers bear. -/
theorem script_contained
    (known : deployment.service.handlers[index]? = some ⟨name, .scripted rule switch script⟩)
    (prompt : deployment.service.staff.Prompt) (promptToo : other.Prompt)
    (between : deployment.service.worker.Between) (id : Nat) (steps : List (Option Step)) :
    ((deployment.replacing index ⟨name, .scripted rule switch other⟩).run id steps).1.map
        Report.standing = (deployment.run id steps).1.map Report.standing ∧
      Indistinct name (deployment.run id steps).2
        ((deployment.replacing index ⟨name, .scripted rule switch other⟩).run id steps).2 ∧
      (deployment.OnCourse → Numbered id deployment → deployment.service.worker.isFree = true →
        Abreast index deployment (deployment.replacing index ⟨name, .scripted rule switch other⟩)
          (deployment.run id steps).2
          ((deployment.replacing index ⟨name, .scripted rule switch other⟩).run id steps).2) := by
  have twins := twins_replacing known prompt promptToo between
  rcases twins.run id steps with ⟨reports, later⟩
  exact ⟨reports, later.indistinct, fun sound numbered free =>
    twins.abreast sound numbered free steps⟩

end Replacing

/-- Two handlers for every batch, the first of which panics at once. -/
def panickingFirst : Deployment where
  source := .buffered (.empty 4)
  service :=
    { handlers :=
        [⟨"first", .scripted .all none ⟨[[.panic]]⟩⟩,
          ⟨"second", .scripted .all none ⟨[[.proceed]]⟩⟩]
      drainWait := 0 }

/-- The same, but the first handler succeeds. -/
def succeedingFirst : Deployment :=
  panickingFirst.replacing 0 ⟨"first", .scripted .all none ⟨[[.proceed]]⟩⟩

/-- One batch is submitted, and the service is shut down. -/
def oneBatch : List (Option Step) :=
  [some .start, some .settle,
    some (.trySubmit ⟨.indexing,
      [{ type := .indexing, cause := "c", message := "m", unit := ⟨"u", .ref "q"⟩ }]⟩),
    some .settle, some .shutdown]

/-- The second handler and the shutdown are the same in both, and the services
differ in one acknowledgement. -/
theorem script_contained_oneBatch :
    ((succeedingFirst.run 0 oneBatch).1.map Report.standing =
        (panickingFirst.run 0 oneBatch).1.map Report.standing ∧
      Indistinct "first" (panickingFirst.run 0 oneBatch).2 (succeedingFirst.run 0 oneBatch).2 ∧
      Abreast 0 panickingFirst succeedingFirst (panickingFirst.run 0 oneBatch).2
        (succeedingFirst.run 0 oneBatch).2) ∧
    (panickingFirst.run 0 oneBatch).2.service.state = .terminated ∧
    (panickingFirst.run 0 oneBatch).2.journal.totals.get (.handled .indexing) = 1 ∧
    (panickingFirst.run 0 oneBatch).2.journal.totals.get .unitsAcknowledged = 1 ∧
    (succeedingFirst.run 0 oneBatch).2.journal.totals.get .unitsAcknowledged = 2 := by
  have known : panickingFirst.service.handlers[0]? =
      some ⟨"first", .scripted .all none ⟨[[.panic]]⟩⟩ := rfl
  have prompt : panickingFirst.service.staff.Prompt := ⟨by decide, by decide, by decide⟩
  have promptToo : Script.Prompt ⟨[[.proceed]]⟩ := by decide
  have unstarted : panickingFirst.Unstarted := ⟨⟨4, rfl⟩, rfl, rfl, rfl, rfl, rfl, rfl, .nil⟩
  rcases script_contained known prompt promptToo trivial 0 oneBatch with
    ⟨reports, indistinct, abreast⟩
  exact ⟨⟨reports, indistinct, abreast unstarted.onCourse unstarted.numbered rfl⟩,
    by decide +kernel, by decide +kernel, by decide +kernel, by decide +kernel⟩

end Deployment
end FailureDispatch

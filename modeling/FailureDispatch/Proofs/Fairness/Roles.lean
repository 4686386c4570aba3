import FailureDispatch.Proofs.Custody.Guarded
import FailureDispatch.Proofs.Drain.Claims
import FailureDispatch.Proofs.Fairness.Crowd

/-!
# The crowd of a deployment

The worker and the callers are told apart no longer: a call or a worker matters
by its role only.  Whatever an operation of the queue does is something that
somebody of that role may do.

A change of the service's state, or its end, wakes those who wait for it.  None
of them is a submission that waits for a slot.
-/

namespace FailureDispatch

/-- What a call that is not torn down is about at the queue. -/
def Call.role : Call → Role
  | .submit _ _ begun => .submits begun
  | .consume _ place | .consumeWithin _ place => .consumes place
  | .join _ _ | .joining _ | .awaitRunning | .awaitTerminated => .apart

/-- What a submission is about after it has been answered. -/
def SubmissionQueue.Submission.role : SubmissionQueue.Submission → Role
  | .accepted | .refused _ => .apart
  | .waiting => .submits true

def Job.role (job : Job) : Role := if job.doomed then job.call.role.doomed else job.call.role

def Worker.role : Worker → Role
  | .fetching (.queued place) | .drainFetching _ _ (.queued place) => .consumes place
  | _ => .apart

theorem Job.role_doomed (job : Job) : { job with doomed := true }.role = job.role.doomed := by
  cases job with
  | mk call doomed =>
      cases doomed with
      | true => exact (call.role.doomed_doomed).symm
      | false => rfl

theorem Worker.role_ne_submits (worker : Worker) (begun : Bool) : worker.role ≠ .submits begun := by
  cases worker with
  | fetching fetch | drainFetching _ _ fetch => cases fetch <;> exact nofun
  | _ => exact nofun

theorem Call.role_of_place? {call : Call} {place : SubmissionQueue.Place}
    (consumes : call.place? = some place) : call.role = .consumes place := by
  cases call <;> cases consumes <;> rfl

theorem Call.role_waitingAt {call : Call} {place : SubmissionQueue.Place}
    (consumes : call.place? = some place) (reached : SubmissionQueue.Place) :
    (call.waitingAt reached).role = .consumes reached := by
  cases call <;> cases consumes <;> rfl

theorem Job.role_of_place? {call : Call} {place : SubmissionQueue.Place}
    (consumes : call.place? = some place) (doomed : Bool) :
    Job.role ⟨call, doomed⟩ = .consumes place := by
  cases doomed with
  | true => exact congrArg Role.doomed (Call.role_of_place? consumes)
  | false => exact Call.role_of_place? consumes

/-- A call that waits for a time at most is no submission. -/
theorem Job.calm_of_alarm? {job : Job} {time : Nat} (waits : job.call.alarm? = some time) :
    job.role ≠ .submits true := by
  rcases job with ⟨call, doomed⟩
  cases call with
  | consumeWithin deadline place =>
      rw [Job.role_of_place? rfl doomed]
      exact nofun
  | _ => cases waits

theorem Service.Seeks.role_eq {service : Service} {phase : Phase} {place : SubmissionQueue.Place}
    (seeks : service.Seeks phase place) : service.worker.role = .consumes place := by
  cases seeks with
  | main here _ =>
      rw [here]
      rfl
  | drain here =>
      rw [here]
      rfl

theorem Opens.role_eq {staff : Staff} {batch : Batch} {phase : Phase} {stretch : Account}
    {worker : Worker} (opens : Opens staff batch phase stretch worker) : worker.role = .apart := by
  cases opens with
  | discards => cases phase <;> rfl
  | calls _ _ => rfl

/-! ## Operations of the queue -/

section Operations

variable {queue next : SubmissionQueue Actor Batch} {who : Actor} {woken : List Actor}
  {place reached : SubmissionQueue.Place}

theorem acts_of_item {batch : Batch} (looked : queue.seek who place = (.item batch, woken, next)) :
    Acts queue who (.consumes place) woken next .apart := by
  have looks := queue.seek_looks who place
  rw [looked] at looks
  cases looks with
  | takes gets front => exact .takes gets front

theorem acts_of_exhausted (looked : queue.seek who place = (.exhausted, woken, next)) :
    Acts queue who (.consumes place) woken next .apart := by
  have looks := queue.seek_looks who place
  rw [looked] at looks
  cases looks with
  | exhausted gets _ last => exact .misses gets last

theorem acts_of_waiting (looked : queue.seek who place = (.waiting reached, woken, next)) :
    Acts queue who (.consumes place) woken next (.consumes reached) := by
  have looks := queue.seek_looks who place
  rw [looked] at looks
  cases looks with
  | sleeps gets empty more => exact .sleeps gets empty more
  | queues asked => exact .stands asked

theorem acts_of_depart (queue : SubmissionQueue Actor Batch) (who : Actor)
    (place : SubmissionQueue.Place) :
    Acts queue who (.consumes place) (queue.depart who place).1 (queue.depart who place).2
      .apart := by
  cases place with
  | seat => exact .vacates .kept
  | line => exact .leaves (Or.inl rfl)

/-- Looking once more and giving up is one turn. -/
theorem acts_of_timeout (looked : queue.seek who place = (.waiting reached, woken, next)) :
    Acts queue who (.consumes place) (woken ++ (next.depart who reached).1)
      (next.depart who reached).2 .apart := by
  have looks := queue.seek_looks who place
  rw [looked] at looks
  cases looks with
  | sleeps gets _ _ => exact .vacates gets
  | queues asked => exact .leaves (Or.inr asked)

theorem acts_of_gives {late : Prop} (gives : Deployment.Gives queue place late woken next) :
    Acts queue .worker (.consumes place) woken next .apart := by
  cases gives with
  | exhausted looked => exact acts_of_exhausted looked
  | timedOut _ looked => exact acts_of_timeout looked

theorem acts_of_attempt {begun : Bool} {batch : Batch} {answer : SubmissionQueue.Submission}
    (tried : queue.attempt begun who batch = (answer, woken, next)) :
    Acts queue who (.submits begun) woken next answer.role := by
  have resumes {begun : Bool} (tried : queue.resume who batch = (answer, woken, next)) :
      Acts queue who (.submits begun) woken next answer.role := by
    unfold SubmissionQueue.resume at tried
    split at tried
    · next asked =>
      cases tried
      exact .accepted batch asked
    · next asked =>
      cases tried
      exact .queues asked
  cases begun with
  | true => exact resumes tried
  | false =>
      simp only [SubmissionQueue.attempt, SubmissionQueue.submit, Bool.false_eq_true,
        if_false] at tried
      split at tried
      · exact resumes tried
      · cases tried
        exact .refused

end Operations

/-! ## Roles in a deployment -/

namespace Deployment

/-- What everybody is about at the queue. -/
def role (deployment : Deployment) : Actor → Role
  | .worker => deployment.service.worker.role
  | .caller id => ((deployment.job? id).map Job.role).getD .apart

/-- The crowd at the queue of a deployment. -/
def crowd (deployment : Deployment) (queue : SubmissionQueue Actor Batch) : Crowd :=
  ⟨queue, deployment.role, deployment.ready⟩

section Roles

variable {deployment : Deployment} {id : Nat}

theorem role_of_job? {job : Job} (known : deployment.job? id = some job) :
    deployment.role (.caller id) = job.role := by
  rw [role, known]
  rfl

theorem role_of_absent (gone : deployment.job? id = none) :
    deployment.role (.caller id) = .apart := by
  rw [role, gone]
  rfl

theorem role_finish (deployment : Deployment) (id : Nat) (outcome : Outcome) :
    (deployment.finish id outcome).role = Function.update deployment.role (.caller id) .apart := by
  funext actor
  cases actor with
  | worker => rfl
  | caller other =>
      by_cases own : other = id
      · subst own
        rw [Function.update_self, role_of_absent (job?_finish_self outcome)]
      · have different : Actor.caller other ≠ .caller id := fun same => own (Actor.caller.inj same)
        rw [Function.update_of_ne different, role, role, job?_finish_of_ne own]

theorem role_setJob {old : Job} (known : deployment.job? id = some old) (job : Job) :
    (deployment.setJob id job).role = Function.update deployment.role (.caller id) job.role := by
  funext actor
  cases actor with
  | worker => rfl
  | caller other =>
      by_cases own : other = id
      · subst own
        rw [Function.update_self, role_of_job? (job?_setJob known job)]
      · have different : Actor.caller other ≠ .caller id := fun same => own (Actor.caller.inj same)
        rw [Function.update_of_ne different, role, role, job?_setJob_of_ne own]

theorem role_addJob (fresh : deployment.job? id = none) (call : Call) :
    (deployment.addJob id call).role = Function.update deployment.role (.caller id) call.role := by
  funext actor
  cases actor with
  | worker => rfl
  | caller other =>
      by_cases own : other = id
      · subst own
        rw [Function.update_self, role_of_job? (job?_addJob_self fresh call)]
        rfl
      · have different : Actor.caller other ≠ .caller id := fun same => own (Actor.caller.inj same)
        have single : [(id, ({ call } : Job))].lookup other = none := by
          rw [List.lookup_cons, beq_false_of_ne own]
          rfl
        rw [Function.update_of_ne different, role, role, job?_addJob, single, Option.or_none]

/-- Roles depend on the worker and on the calls only. -/
theorem role_congr {other : Deployment} (worker : other.service.worker = deployment.service.worker)
    (jobs : other.jobs = deployment.jobs) : other.role = deployment.role := by
  funext actor
  cases actor with
  | worker => exact congrArg Worker.role worker
  | caller id => simp only [role, job?, jobs]

theorem calm_nobody (deployment : Deployment) :
    ∀ actor ∈ [], deployment.role actor ≠ .submits true := nofun

/-- Whoever is woken because of a call that is no submission is calm. -/
theorem calm_callersWith {property : Call → Bool}
    (distinct : (deployment.jobs.map Prod.fst).Nodup)
    (apart : ∀ call, property call = true → ∀ begun, call.role ≠ .submits begun) :
    ∀ actor ∈ deployment.callersWith property, deployment.role actor ≠ .submits true := by
  intro actor member
  rcases List.mem_map.mp member with ⟨entry, among, same⟩
  rcases List.mem_filter.mp among with ⟨present, has⟩
  rw [← same, role_of_job? (job?_of_mem distinct present)]
  unfold Job.role
  split
  · exact Role.doomed_ne_submits _ true
  · exact apart entry.2.call has true

theorem calm_observers (distinct : (deployment.jobs.map Prod.fst).Nodup) :
    ∀ actor ∈ deployment.callersWith Call.observesState, deployment.role actor ≠ .submits true := by
  apply calm_callersWith distinct
  intro call observes
  cases call with
  | awaitRunning | awaitTerminated => exact nofun
  | _ => cases observes

theorem calm_joiners (distinct : (deployment.jobs.map Prod.fst).Nodup) :
    ∀ actor ∈ deployment.joiners, deployment.role actor ≠ .submits true := by
  apply calm_callersWith distinct
  intro call awaits
  cases call with
  | joining door => exact nofun
  | _ => cases awaits

theorem calm_worker (deployment : Deployment) : deployment.role .worker ≠ .submits true :=
  deployment.service.worker.role_ne_submits true

theorem role_requestStop (deployment : Deployment) :
    deployment.requestStop.role = deployment.role := by
  rcases requestStop_eq deployment with ⟨_, _, _, _, same⟩
  rw [same]
  exact role_congr rfl rfl

end Roles

end Deployment
end FailureDispatch

import FailureDispatch.Proofs.Drain.Seat
import FailureDispatch.Proofs.Queue.Slots

/-!
# Submissions and their claims

Whoever stands in line for a slot, or has been granted one, is a submission
that has begun and is still under way, and every such submission has a claim.
So a queue on which nobody has a claim has no submission waiting.

`Proceeds` restates the turn of a caller for this purpose: either the call goes
on as it was, or it ends and gives up its claim, or it begins to wait for a
slot, or it begins to wait for the worker.
-/

namespace FailureDispatch
namespace Call

/-- Whether the call is a submission that waits for a slot. -/
def waitsForSlot : Call → Bool
  | submit _ _ begun => begun
  | _ => false

/-- Whether the call is a submission. -/
def isSubmission : Call → Bool
  | submit _ _ _ => true
  | _ => false

/-- Whether the call must act before it can wait for others. -/
def isPending : Call → Bool
  | submit _ _ begun => !begun
  | join _ _ => true
  | _ => false

theorem not_waitsForSlot_of_isNew {call : Call} (new : call.isNew = true) :
    call.waitsForSlot = false := by
  cases call with
  | submit door batch begun =>
      cases begun with
      | true => cases new
      | false => rfl
  | _ => rfl

theorem not_waitsForSlot_of_holdsNothing {call : Call} (free : call.holdsNothing = true) :
    call.waitsForSlot = false := by
  cases call with
  | submit door batch begun =>
      cases begun with
      | true => cases free
      | false => rfl
  | _ => rfl

/-- Who only looks on waits for nothing that a submission or the worker decides. -/
theorem idle_of_observesState {call : Call} (observes : call.observesState = true) :
    call.waitsForSlot = false ∧ call.isPending = false ∧ call.awaitsWorker = false := by
  cases call <;> first | exact ⟨rfl, rfl, rfl⟩ | cases observes

theorem idle_of_awaitsWorker {call : Call} (awaits : call.awaitsWorker = true) :
    call.waitsForSlot = false ∧ call.isPending = false := by
  cases call <;> first | exact ⟨rfl, rfl⟩ | cases awaits

end Call

namespace Deployment

/-- The claims on the slots of a queue are those of the submissions that wait. -/
structure Claimed (deployment : Deployment) (queue : SubmissionQueue Actor Batch) : Prop where
  distinct : (deployment.jobs.map Prod.fst).Nodup
  roomy : queue.Roomy
  claimants : ∀ actor, actor ∈ queue.slots.claimants ↔
    ∃ entry ∈ deployment.jobs, actor = .caller entry.1 ∧ entry.2.call.waitsForSlot = true

/-! ## Numbers of calls -/

section Numbers

variable {deployment : Deployment} {id : Nat}

theorem fst_finish (outcome : Outcome) :
    ((deployment.finish id outcome).jobs.map Prod.fst).Sublist (deployment.jobs.map Prod.fst) :=
  List.filter_sublist.map Prod.fst

theorem fst_setJob (job : Job) :
    (deployment.setJob id job).jobs.map Prod.fst = deployment.jobs.map Prod.fst := by
  simp only [setJob, List.map_map]
  apply List.map_congr_left
  intro entry _
  by_cases same : entry.1 = id
  · simp only [Function.comp_apply, same, if_true]
  · simp only [Function.comp_apply, if_neg same]

/-- What a call became before it ended does not matter. -/
theorem filter_setJob (deployment : Deployment) (id : Nat) (job : Job) :
    ((deployment.setJob id job).jobs.filter fun entry => entry.1 != id) =
      deployment.jobs.filter fun entry => entry.1 != id := by
  simp only [setJob]
  induction deployment.jobs with
  | nil => rfl
  | cons entry rest inductionHypothesis =>
      by_cases same : entry.1 = id
      · simp only [List.map_cons, same, if_true, List.filter_cons, bne_self_eq_false,
          Bool.false_eq_true, if_false, inductionHypothesis]
      · simp only [List.map_cons, if_neg same, List.filter_cons, inductionHypothesis]

/-- Whoever is found under the number of a call is that call. -/
theorem job?_of_mem (distinct : (deployment.jobs.map Prod.fst).Nodup) {entry : Nat × Job}
    (member : entry ∈ deployment.jobs) : deployment.job? entry.1 = some entry.2 := by
  unfold job?
  generalize deployment.jobs = jobs at distinct member
  induction jobs with
  | nil => cases member
  | cons head rest inductionHypothesis =>
      rcases List.nodup_cons.mp distinct with ⟨fresh, others⟩
      rcases List.mem_cons.mp member with same | later
      · rw [same]
        exact List.lookup_cons_self
      · have different : (entry.1 == head.1) = false := by
          apply beq_false_of_ne
          intro same
          exact fresh (same ▸ List.mem_map_of_mem later)
        rw [List.lookup_cons, different]
        exact inductionHypothesis others later

end Numbers

/-! ## Turns of callers -/

/-- What a turn of a caller comes to for the other calls. -/
inductive Proceeds (before : Deployment) (queue : SubmissionQueue Actor Batch) (id : Nat) :
    Deployment → Prop where
  | stays
      (settled : ∀ job, before.job? id = some job →
        job.call.waitsForSlot = false ∧ job.call.isPending = false ∧
          (job.call.awaitsWorker = true → before.service.worker.isGone = false)) :
      Proceeds before queue id before
  | ends {after job next granted woken} (present : before.job? id = some job)
      (jobs : after.jobs = before.jobs.filter fun entry => entry.1 != id)
      (source : after.source = .buffered next) (roomy : next.Roomy)
      (quits : queue.slots.Quits next.slots (.caller id) granted)
      (ready : after.ready = lineUpAll before.ready woken)
      (wakes : ∀ actor ∈ granted, actor ∈ woken) : Proceeds before queue id after
  | queues {after door batch begun next}
      (present : before.job? id = some ⟨.submit door batch begun, false⟩)
      (jobs : after.jobs = (before.setJob id { call := .submit door batch true }).jobs)
      (source : after.source = .buffered next) (roomy : next.Roomy)
      (queues : queue.slots.Queues next.slots (.caller id))
      (ready : after.ready = before.ready) : Proceeds before queue id after
  | asks {after door stopFirst woken}
      (present : before.job? id = some ⟨.join door stopFirst, false⟩)
      (going : before.service.worker.isGone = false)
      (jobs : after.jobs = (before.setJob id { call := .joining door }).jobs)
      (source : after.source = .buffered queue)
      (ready : after.ready = lineUpAll before.ready woken) : Proceeds before queue id after

section Claims

variable {before after : Deployment} {queue : SubmissionQueue Actor Batch}

/-- Where nobody has a claim, nobody waits for a slot. -/
theorem Claimed.not_waitsForSlot (claimed : before.Claimed queue)
    (unclaimed : queue.slots.claimants = []) (entry : Nat × Job) (member : entry ∈ before.jobs) :
    entry.2.call.waitsForSlot = false := by
  apply Bool.eq_false_iff.mpr
  intro waits
  have claims := (claimed.claimants _).mpr ⟨entry, member, rfl, waits⟩
  rw [unclaimed] at claims
  cases claims

/-- A call that does not wait for a slot has no claim to give up. -/
theorem Claimed.quits (claimed : before.Claimed queue) {id : Nat} {job : Job}
    (present : before.job? id = some job) (waits : job.call.waitsForSlot = false)
    {next : SubmissionQueue Actor Batch} (slots : next.slots = queue.slots) :
    queue.slots.Quits next.slots (.caller id) [] := by
  have stranger : Actor.caller id ∉ queue.slots.claimants := by
    intro claims
    rcases (claimed.claimants _).mp claims with ⟨entry, member, same, claiming⟩
    cases same
    have found := job?_of_mem claimed.distinct member
    rw [present] at found
    cases found
    rw [waits] at claiming
    cases claiming
  have different {other : Actor} (claims : other ∈ queue.slots.claimants) :
      other ≠ .caller id := fun same => stranger (same ▸ claims)
  rw [slots]
  refine ⟨claimed.roomy.orderly, ?_, ?_⟩
  · intro other
    exact ⟨fun claims => ⟨claims, different claims⟩, fun kept => kept.1⟩
  · intro other member
    exact Or.inl ⟨member, different (List.mem_append_right _ member)⟩

/-- A call may end without having had a claim. -/
theorem Claimed.ends_unclaimed (claimed : before.Claimed queue) {id : Nat} {job : Job}
    (present : before.job? id = some job) (waits : job.call.waitsForSlot = false)
    {next : SubmissionQueue Actor Batch} (slots : next.Roomy ∧ next.slots = queue.slots)
    (jobs : after.jobs = before.jobs.filter fun entry => entry.1 != id)
    (source : after.source = .buffered next) {woken : List Actor}
    (ready : after.ready = lineUpAll before.ready woken) : Proceeds before queue id after := by
  apply Proceeds.ends present jobs source slots.1 (claimed.quits present waits slots.2) ready
  intro actor member
  cases member

theorem attempt_claims (roomy : queue.Roomy) (begun : Bool) (who : Actor) (batch : Batch) :
    SubmissionQueue.Claims queue who (queue.attempt begun who batch) := by
  cases begun with
  | true => exact SubmissionQueue.resume_claims roomy who batch
  | false => exact SubmissionQueue.submit_claims roomy who batch

/-- A submission that waits is not refused. -/
theorem not_refused_of_begun {who : Actor} {batch : Batch} {error : FailureError}
    {woken : List Actor} {next : SubmissionQueue Actor Batch} {begun : Bool}
    (tried : queue.attempt begun who batch = (.refused error, woken, next)) : begun = false := by
  cases begun with
  | false => rfl
  | true =>
      simp only [SubmissionQueue.attempt, if_true, SubmissionQueue.resume] at tried
      split at tried <;> cases tried

theorem ClosesBy.slots {door : Door} {woken : List Actor} {next : SubmissionQueue Actor Batch}
    (closes : ClosesBy queue door woken next) (roomy : queue.Roomy) :
    next.Roomy ∧ next.slots = queue.slots := by
  rcases closes with ⟨_, _, same⟩ | ⟨_, closed⟩
  · rw [same]
    exact ⟨roomy, rfl⟩
  · rcases queue.close_eq with ⟨sleeper, same⟩
    rw [show next = queue.close.2 from congrArg Prod.snd closed, same]
    exact ⟨roomy.of_same rfl rfl rfl, rfl⟩

/-- What a turn of a caller comes to, where nobody else consumes. -/
theorem Claimed.proceeds {id : Nat} (claimed : before.Claimed queue) (sole : before.SoleConsumer)
    (turn : CallerTurn before queue id after) (buffered : before.source = .buffered queue) :
    Proceeds before queue id after := by
  have roomy := claimed.roomy
  cases turn with
  | absent gone =>
      apply Proceeds.stays
      intro job present
      rw [gone] at present
      cases present
  | lingers job patient =>
      apply Proceeds.stays
      intro other present
      rw [job] at present
      cases present
      rcases patient with observes | ⟨awaits, going⟩
      · rcases Call.idle_of_observesState observes with ⟨waits, pending, apart⟩
        refine ⟨waits, pending, ?_⟩
        intro awaits
        rw [apart] at awaits
        cases awaits
      · rcases Call.idle_of_awaitsWorker awaits with ⟨waits, pending⟩
        exact ⟨waits, pending, fun _ => going⟩
  | @accepted door batch begun woken next job tried =>
      have claims := attempt_claims roomy begun (.caller id) batch
      rw [tried] at claims
      cases claims with
      | accepted roomyNext quits =>
          simp only [adopt_eq, note, finish]
          exact .ends job rfl rfl roomyNext quits rfl (fun _ member => by cases member)
  | @refused door batch begun error woken next outcome job tried failed =>
      have waits := not_refused_of_begun tried
      have claims := attempt_claims roomy begun (.caller id) batch
      rw [tried] at claims
      cases claims with
      | refused roomyNext same =>
          simp only [adopt_eq, note, finish]
          exact claimed.ends_unclaimed job waits ⟨roomyNext, same⟩ rfl rfl rfl
  | @queues door batch begun woken next job tried =>
      have claims := attempt_claims roomy begun (.caller id) batch
      rw [tried] at claims
      cases claims with
      | waiting roomyNext queues =>
          rw [adopt_eq]
          exact .queues job rfl rfl roomyNext queues rfl
  | withdraws job =>
      rcases SubmissionQueue.withdraw_quits roomy (.caller id) with
        ⟨roomyNext, roused, granted, same, quits⟩
      rw [adopt_eq]
      apply Proceeds.ends job rfl rfl roomyNext quits rfl
      intro actor member
      rw [same]
      exact List.mem_append_left _ member
  | catches job consumes _ | misses job consumes _ _ | stays job consumes _
  | departs job consumes _ | timesOut job consumes _ => exact absurd consumes (sole.no_place job)
  | @asks door stopFirst job going =>
      rcases toldBy_eq before stopFirst with ⟨_, _, _, _, _, same⟩
      rw [same]
      exact .asks job going rfl buffered rfl
  | @joins door stopFirst count job _ =>
      rcases toldBy_eq before stopFirst with ⟨early, _, _, _, _, told⟩
      have source : ((before.toldBy stopFirst).setJob id { call := .joining door }).source =
          .buffered queue := by
        rw [told]
        exact buffered
      have jobs : (((before.toldBy stopFirst).setJob id { call := .joining door }).report id door
          (.ok count)).jobs = before.jobs.filter fun entry => entry.1 != id := by
        rw [jobs_report, filter_setJob, told]
      rcases report_eq source id door count with ⟨woken, next, _, _, closes, reported⟩
      have ready : lineUpAll ((before.toldBy stopFirst).setJob id { call := .joining door }).ready
          woken = lineUpAll before.ready (early ++ woken) := by
        rw [told]
        exact lineUpAll_lineUpAll _ _ _
      rw [reported] at jobs ⊢
      exact claimed.ends_unclaimed job rfl (closes.slots roomy) jobs rfl ready
  | @learns door count job _ =>
      rcases report_eq buffered id door count with ⟨woken, next, _, _, closes, reported⟩
      rw [reported]
      exact claimed.ends_unclaimed job rfl (closes.slots roomy) rfl rfl rfl
  | letsGo job =>
      rcases requestStop_eq before with ⟨woken, _, _, _, same⟩
      rw [same]
      exact claimed.ends_unclaimed job rfl ⟨roomy, rfl⟩ rfl buffered rfl
  | givesUp job free =>
      have waits := Call.not_waitsForSlot_of_holdsNothing free
      have nobody : before.ready = lineUpAll before.ready [] := rfl
      exact claimed.ends_unclaimed job waits ⟨roomy, rfl⟩ rfl buffered nobody
  | sees job observes _ =>
      have waits := (Call.idle_of_observesState observes).1
      have nobody : before.ready = lineUpAll before.ready [] := rfl
      exact claimed.ends_unclaimed job waits ⟨roomy, rfl⟩ rfl buffered nobody

/-! ## Moves -/

/-- A slot may be granted while no call begins or ends. -/
theorem Claimed.served (claimed : before.Claimed queue) (jobs : after.jobs = before.jobs)
    {next : SubmissionQueue Actor Batch} (roomy : next.Roomy) {granted : List Actor}
    (serves : queue.slots.Serves next.slots granted) : after.Claimed next where
  distinct := by rw [jobs]; exact claimed.distinct
  roomy := roomy
  claimants := by
    intro actor
    rw [jobs]
    exact (serves.claimants actor).trans (claimed.claimants actor)

/-- A call may change without beginning to wait for a slot, or ceasing to. -/
theorem Claimed.changed (claimed : before.Claimed queue) {id : Nat} {old job : Job}
    (present : before.job? id = some old)
    (same : job.call.waitsForSlot = old.call.waitsForSlot)
    (jobs : after.jobs = (before.setJob id job).jobs) : after.Claimed queue where
  distinct := by rw [jobs, fst_setJob]; exact claimed.distinct
  roomy := claimed.roomy
  claimants := by
    intro actor
    refine (claimed.claimants actor).trans ?_
    rw [jobs]
    constructor
    · rintro ⟨entry, member, who, waits⟩
      by_cases changed : entry.1 = id
      · have found := job?_of_mem claimed.distinct member
        rw [changed, present] at found
        cases found
        have replaced : (id, job) ∈ (before.setJob id job).jobs :=
          mem_of_job? (job?_setJob present job)
        rw [changed] at who
        exact ⟨_, replaced, who, same.trans waits⟩
      · exact ⟨entry, mem_setJob_of_ne member changed job, who, waits⟩
    · rintro ⟨entry, member, who, waits⟩
      rcases mem_setJob member with ⟨kept, _⟩ | replaced
      · exact ⟨entry, kept, who, waits⟩
      · rw [replaced] at who waits
        exact ⟨_, mem_of_job? present, who, same.symm.trans waits⟩

/-- A turn of a caller keeps the claims with the submissions. -/
theorem Claimed.caller_turn (claimed : before.Claimed queue) {id : Nat}
    (proceeds : Proceeds before queue id after) (buffered : before.source = .buffered queue) :
    ∃ next, after.source = .buffered next ∧ after.Claimed next := by
  cases proceeds with
  | stays _ => exact ⟨queue, buffered, claimed⟩
  | @ends _ job next granted woken present jobs source roomy quits _ _ =>
      have ended (entry : Nat × Job) :
          entry ∈ after.jobs ↔ entry ∈ before.jobs ∧ entry.1 ≠ id := by
        rw [jobs, List.mem_filter, bne_iff_ne]
      refine ⟨next, source, ?_, roomy, ?_⟩
      · rw [jobs]
        exact claimed.distinct.sublist (fst_finish .aborted)
      · intro actor
        refine (quits.claimants actor).trans ?_
        rw [claimed.claimants actor]
        constructor
        · rintro ⟨⟨entry, member, who, waits⟩, different⟩
          have other : entry.1 ≠ id := by
            intro equal
            rw [equal] at who
            exact different who
          exact ⟨entry, (ended entry).mpr ⟨member, other⟩, who, waits⟩
        · rintro ⟨entry, member, who, waits⟩
          have kept := (ended entry).mp member
          refine ⟨⟨entry, kept.1, who, waits⟩, ?_⟩
          rw [who]
          intro equal
          cases equal
          exact kept.2 rfl
  | @queues _ door batch begun next present jobs source roomy queues _ =>
      refine ⟨next, source, ?_, roomy, ?_⟩
      · rw [jobs, fst_setJob]
        exact claimed.distinct
      · intro actor
        refine (queues.claimants actor).trans ?_
        rw [claimed.claimants actor, jobs]
        have replaced : (id, (⟨.submit door batch true, false⟩ : Job)) ∈
            (before.setJob id { call := .submit door batch true }).jobs :=
          mem_of_job? (job?_setJob present _)
        constructor
        · rintro (⟨entry, member, who, waits⟩ | who)
          · by_cases changed : entry.1 = id
            · rw [changed] at who
              exact ⟨_, replaced, who, rfl⟩
            · exact ⟨entry, mem_setJob_of_ne member changed _, who, waits⟩
          · exact ⟨_, replaced, who, rfl⟩
        · rintro ⟨entry, member, who, waits⟩
          rcases mem_setJob member with ⟨kept, _⟩ | new
          · exact Or.inl ⟨entry, kept, who, waits⟩
          · rw [new] at who
            exact Or.inr who
  | asks present _ jobs source _ =>
      refine ⟨queue, source, claimed.changed present ?_ jobs⟩
      rfl

end Claims

section Serving

variable {before after : Deployment} {queue : SubmissionQueue Actor Batch}

/-- A worker that takes a batch may grant a slot, and wakes whom it grants one. -/
theorem TakesAtMost.serves {woken : List Actor} {next : SubmissionQueue Actor Batch}
    (takes : TakesAtMost queue woken next) (roomy : queue.Roomy) :
    next.Roomy ∧ ∃ granted, queue.slots.Serves next.slots granted ∧
      ∀ actor ∈ granted, actor ∈ woken := by
  cases takes with
  | nothing =>
      refine ⟨roomy.of_same rfl rfl rfl, [], .refl roomy.orderly, ?_⟩
      intro actor member
      cases member
  | takes front wakes =>
      have serves := Permits.release_serves roomy.orderly
      have measured := roomy.measured
      rw [front, List.length_cons] at measured
      refine ⟨⟨roomy.positive, ?_, serves.orderly⟩, _, serves, ?_⟩
      · rw [Permits.supply_release, Nat.add_assoc, Nat.add_comm 1]
        exact measured
      · intro actor member
        rw [wakes]
        exact member

/-- From outside a slot may be used up, and nobody is granted one. -/
theorem Outside.serves (outside : Outside before queue after)
    (buffered : before.source = .buffered queue) (roomy : queue.Roomy) :
    ∃ next, after.source = .buffered next ∧ next.Roomy ∧ queue.slots.Serves next.slots [] := by
  cases outside with
  | aside _ _ _ _ | starts _ => exact ⟨queue, buffered, roomy, .refl roomy.orderly⟩
  | @accepts batch _ _ tried | @refuses batch _ _ _ tried =>
      have serves := SubmissionQueue.trySubmit_serves roomy batch
      rw [tried] at serves
      simp only [adopt_eq, note]
      exact ⟨_, rfl, serves⟩
  | closes =>
      rcases queue.close_eq with ⟨sleeper, same⟩
      rw [adopt_eq, same]
      exact ⟨_, rfl, roomy.of_same rfl rfl rfl, .refl roomy.orderly⟩
  | stops holder _ =>
      rcases requestStop_eq { before with holder } with ⟨_, _, _, _, same⟩
      rw [same]
      exact ⟨queue, buffered, roomy, .refl roomy.orderly⟩

end Serving

end Deployment
end FailureDispatch

import FailureDispatch.Proofs.Fairness.Lines

/-!
# Trying and waiting

There are two ways to submit a batch.  One looks whether a slot is free; the
other asks for a slot, stands in line if it gets none, and may find later that
one has been granted to it.  They are written apart from each other, and they
ask different questions: a slot that has been granted is not free, although the
buffer has room for it.

For somebody who has no claim yet both questions have the same answer.  So the
two ways agree: either both have their batch accepted, and leave the same queue
behind and the same actors in line, or both are told that the queue is closed,
or the one is told that it is full where the other begins to wait.

The agreement is about a submission that has its first turn where it begins.
Nothing is said about what becomes of one that has to wait.
-/

namespace FailureDispatch

namespace Batch

/-- The draft that a batch can be formed from. -/
def draft (batch : Batch) : Draft := ⟨batch.type, batch.failures⟩

theorem build_draft (batch : Batch) : batch.draft.build = .ok batch := by
  have uniform := (stranger?_eq_none_iff batch.type batch.failures).mpr batch.uniform
  unfold Draft.build draft ofFailures
  split
  · next empty => exact absurd empty batch.nonempty
  · split
    · next stranger found =>
      rw [uniform] at found
      cases found
    · rfl

end Batch

namespace SubmissionQueue

variable {ι α : Type} [DecidableEq ι]

/-- How offering an item and beginning to submit it go together. -/
inductive Alike (queue : SubmissionQueue ι α) (who : ι) :
    Except FailureError Unit × List ι × SubmissionQueue ι α →
      Submission × List ι × SubmissionQueue ι α → Prop where
  | accepted {woken next} : Alike queue who (.ok (), woken, next) (.accepted, woken, next)
  | closed (closed : queue.isOpen = false) :
      Alike queue who (.error .queueClosed, [], queue.refuse)
        (.refused .queueClosed, [], queue.refuse)
  | full (isOpen : queue.isOpen = true) (taken : queue.slots.free = 0) :
      Alike queue who (.error (.queueFull queue.capacity), [], queue.refuse)
        (.waiting, [],
          { queue with slots := { queue.slots with line := queue.slots.line ++ [who] } })

/-- Who has no claim on a slot gets one just if one is free. -/
theorem alike_of_stranger {queue : SubmissionQueue ι α} {who : ι}
    (stranger : who ∉ queue.slots.claimants) (item : α) :
    Alike queue who (queue.trySubmit item) (queue.submit who item) := by
  cases isOpen : queue.isOpen with
  | false =>
      have refused : (!queue.isOpen) = true := by rw [isOpen]; rfl
      rw [trySubmit, if_pos refused, submit, if_neg (Bool.eq_false_iff.mp isOpen)]
      exact .closed isOpen
  | true =>
      have passed : ¬ (!queue.isOpen) = true := by rw [isOpen]; exact Bool.false_ne_true
      have asks := queue.slots.ask_asks who
      rcases asked : queue.slots.ask who with ⟨answer, slots⟩
      rw [asked] at asks
      rw [trySubmit, if_neg passed, submit, if_pos isOpen, resume, asked]
      cases asks with
      | picksUp granted => exact absurd (List.mem_append_right _ granted) stranger
      | standsOn _ stands => exact absurd (List.mem_append_left _ stands) stranger
      | obtains _ room =>
          rw [if_pos room]
          exact .accepted
      | queues _ taken =>
          have full : ¬ 0 < queue.slots.free := by
            rw [taken]
            exact Nat.lt_irrefl 0
          rw [if_neg full]
          exact .full isOpen taken

end SubmissionQueue

namespace Deployment

/-- A submission that would wait for a slot begins, and has its first turn at once. -/
def beginSubmission (deployment : Deployment) (id : Nat) (door : Door) (batch : Batch) :
    Deployment :=
  (deployment.addJob id (.submit door batch false)).advanceCaller id

section Beginning

variable {deployment : Deployment} {queue : SubmissionQueue Actor Batch} {id : Nat} {door : Door}
  {batch : Batch}

/-- A call that ends where it has begun leaves its outcome behind and nothing else. -/
theorem jobs_finish_addJob (fresh : ∀ entry ∈ deployment.jobs, entry.1 ≠ id) (call : Call) :
    ((deployment.addJob id call).jobs.filter fun entry => entry.1 != id) = deployment.jobs := by
  have others : (deployment.jobs.filter fun entry => entry.1 != id) = deployment.jobs :=
    List.filter_eq_self.mpr fun entry member => bne_iff_ne.mpr (fresh entry member)
  simp only [addJob, List.filter_append, others, List.filter_cons, List.filter_nil,
    bne_self_eq_false, Bool.false_eq_true, if_false, List.append_nil]

/-- What the queue says decides what becomes of a submission that begins. -/
theorem beginSubmission_eq (buffered : deployment.source = .buffered queue)
    (fresh : ∀ entry ∈ deployment.jobs, entry.1 ≠ id) :
    deployment.beginSubmission id door batch =
      ((deployment.addJob id (.submit door batch false)).adopt
          (queue.submit (.caller id) batch).2.1
          (queue.submit (.caller id) batch).2.2).settleSubmission id door batch
        (queue.submit (.caller id) batch).1 := by
  have known := job?_addJob_self (job?_of_fresh fresh) (.submit door batch false)
  have source : (deployment.addJob id (.submit door batch false)).source = .buffered queue :=
    buffered
  simp only [beginSubmission, advanceCaller, known, advanceCall, source, Bool.false_eq_true,
    if_false]

/-- A submission that has not begun has no claim on a slot. -/
theorem Civil.stranger {sitter : Option Actor} (civil : deployment.Civil queue sitter)
    (fresh : ∀ entry ∈ deployment.jobs, entry.1 ≠ id) : .caller id ∉ queue.slots.claimants := by
  intro claims
  have waits := (civil.reserved.claims _).mp claims
  rw [show (deployment.crowd queue).role (.caller id) = .apart from
    role_of_absent (job?_of_fresh fresh)] at waits
  cases waits

end Beginning

/-- How both ways of submitting a batch go together: the answer to the one that does not wait, with
what it leaves behind, and what the other leaves behind after its first turn. -/
inductive Concur (reached : Deployment) (queue : SubmissionQueue Actor Batch) (id : Nat)
    (door : Door) (batch : Batch) : Reply × Deployment → Deployment → Prop where
  | accepted {after : Deployment} (before : after.outcomes = reached.outcomes) :
      Concur reached queue id door batch (.ok, after)
        { after with outcomes := after.outcomes ++ [(id, .done)] }
  | closed {after : Deployment} (before : after.outcomes = reached.outcomes) :
      Concur reached queue id door batch (refusal door .queueClosed, after)
        { after with
          outcomes := after.outcomes ++ [(id, door.outcome (.error .queueClosed))] }
  | full {waiting : Deployment}
      (waits : waiting.job? id = some { call := .submit door batch true })
      (before : waiting.outcomes = reached.outcomes) :
      Concur reached queue id door batch
        (refusal door (.queueFull queue.capacity),
          { reached with
            source := .buffered queue.refuse, journal := reached.journal ++ [.refused batch] })
        waiting

/-- Whoever is new at a queue is told the same in either way. -/
theorem Civil.concur {reached : Deployment} {queue : SubmissionQueue Actor Batch}
    {sitter : Option Actor} (civil : reached.Civil queue sitter) {id : Nat}
    (fresh : ∀ entry ∈ reached.jobs, entry.1 ≠ id) (door : Door) (batch : Batch) :
    Concur reached queue id door batch (reached.submitNow door batch.draft)
      (reached.beginSubmission id door batch) := by
  have alike := SubmissionQueue.alike_of_stranger (civil.stranger fresh) batch
  have jobs := jobs_finish_addJob fresh (.submit door batch false)
  have known := job?_addJob_self (job?_of_fresh fresh) (.submit door batch false)
  rw [beginSubmission_eq civil.buffered fresh]
  simp only [submitNow, civil.buffered, batch.build_draft]
  rcases tried : queue.trySubmit batch with ⟨result, woken, next⟩
  rcases begun : queue.submit (.caller id) batch with ⟨submission, roused, after⟩
  rw [tried, begun] at alike
  simp only [adopt_eq]
  cases alike with
  | accepted =>
      simp only [settleSubmission, note, finish, jobs]
      exact .accepted rfl
  | closed _ =>
      simp only [settleSubmission, note, finish, jobs]
      cases door <;> exact .closed rfl
  | full _ _ =>
      exact .full (job?_setJob known _) rfl

/-- What the two ways of submitting a batch say of each other: `tried` is the answer to the one that
does not wait, with what it leaves behind, and `begun` what the other leaves behind after its first
turn. -/
structure AgreesWith (reached : Deployment) (queue : SubmissionQueue Actor Batch) (id : Nat)
    (door : Door) (batch : Batch) (tried : Reply × Deployment) (begun : Deployment) : Prop where
  /-- There is no fourth answer. -/
  answers : tried.1 = .ok ∨ tried.1 = refusal door .queueClosed ∨
    tried.1 = refusal door (.queueFull queue.capacity)
  accepted : tried.1 = .ok ↔ begun.outcomes = reached.outcomes ++ [(id, .done)]
  closed : tried.1 = refusal door .queueClosed ↔
    begun.outcomes = reached.outcomes ++ [(id, door.outcome (.error .queueClosed))]
  full : tried.1 = refusal door (.queueFull queue.capacity) ↔
    begun.outcomes = reached.outcomes ∧
      begun.job? id = some { call := .submit door batch true }
  /-- Unless one of them has to wait, they differ in the outcome of the call and in nothing else. -/
  alike : begun.outcomes ≠ reached.outcomes →
    tried.2.outcomes = reached.outcomes ∧ begun = { tried.2 with outcomes := begun.outcomes }
  /-- Where one has to wait, the other has itself counted and does nothing else. -/
  counted : begun.outcomes = reached.outcomes →
    tried.2 = { reached with
      source := .buffered queue.refuse, journal := reached.journal ++ [.refused batch] }

theorem Concur.agrees {reached begun : Deployment} {queue : SubmissionQueue Actor Batch}
    {id : Nat} {door : Door} {batch : Batch} {tried : Reply × Deployment}
    (concur : Concur reached queue id door batch tried begun) :
    reached.AgreesWith queue id door batch tried begun := by
  have longer (outcome : Outcome) : reached.outcomes ++ [(id, outcome)] ≠ reached.outcomes := by
    intro same
    have lengths := congrArg List.length same
    simp at lengths
  have other {first second : Outcome} (different : first ≠ second) :
      reached.outcomes ++ [(id, first)] ≠ reached.outcomes ++ [(id, second)] := by
    intro same
    exact different (congrArg Prod.snd (List.cons.inj (List.append_cancel_left same)).1)
  have done : door.outcome (.error .queueClosed) ≠ .done := by
    cases door <;> exact nofun
  have refused (error : FailureError) : refusal door error ≠ .ok := by
    cases door <;> exact nofun
  have full : refusal door (.queueFull queue.capacity) ≠ refusal door .queueClosed := by
    cases door <;> exact nofun
  cases concur with
  | accepted before =>
      rw [before]
      refine ⟨Or.inl rfl, iff_of_true rfl rfl, ?_, ?_, fun _ => ⟨before, rfl⟩, ?_⟩
      · exact iff_of_false (refused _).symm (other done.symm)
      · exact iff_of_false (refused _).symm fun same => longer _ same.1
      · exact fun same => absurd same (longer _)
  | closed before =>
      rw [before]
      refine ⟨Or.inr (Or.inl rfl), ?_, iff_of_true rfl rfl, ?_, fun _ => ⟨before, rfl⟩, ?_⟩
      · exact iff_of_false (refused _) (other done)
      · exact iff_of_false full.symm fun same => longer _ same.1
      · exact fun same => absurd same (longer _)
  | full waits before =>
      refine ⟨Or.inr (Or.inr rfl), ?_, ?_, iff_of_true rfl ⟨before, waits⟩, ?_, fun _ => rfl⟩
      · exact iff_of_false (refused _) fun same => longer _ (same.symm.trans before)
      · exact iff_of_false full fun same => longer _ (same.symm.trans before)
      · exact fun different => absurd before different

/-- In whatever state a queue is, also when it has been closed, when submissions wait for a slot
or when a freed slot has been granted to one that has not had its turn, submitting a batch without
waiting and beginning to submit it come to the same, unless the latter has to wait. -/
theorem submitNow_agrees_with_submission {origin reached : Deployment} (vacant : origin.Vacant)
    (happens : Happens origin reached) {id : Nat}
    (fresh : ∀ entry ∈ reached.jobs, entry.1 ≠ id) (door : Door) (batch : Batch) :
    ∃ queue, reached.source = .buffered queue ∧
      reached.AgreesWith queue id door batch (reached.submitNow door batch.draft)
        (reached.beginSubmission id door batch) := by
  rcases vacant.happens happens with ⟨queue, sitter, civil⟩
  exact ⟨queue, civil.buffered, (civil.concur fresh door batch).agrees⟩

/-- The buffer is empty there, but its only slot belongs to a submission that has not had its turn:
whoever comes next is refused or has to wait. -/
theorem submitNow_agrees_with_submission_relieved :
    (relieved.source = .buffered relievedQueue ∧ relievedQueue.buffer = [] ∧
      relievedQueue.slots.granted = [.caller 1]) ∧
      ∀ batch,
        relieved.AgreesWith relievedQueue 4 .service batch (relieved.submitNow .service batch.draft)
            (relieved.beginSubmission 4 .service batch) ∧
          (relieved.submitNow .service batch.draft).1 = .refused (.queueFull 1) ∧
          (relieved.beginSubmission 4 .service batch).job? 4 =
            some { call := .submit .service batch true } := by
  have source : relieved.source = .buffered relievedQueue := by decide +kernel
  refine ⟨⟨source, rfl, rfl⟩, fun batch => ?_⟩
  have fresh : ∀ entry ∈ relieved.jobs, entry.1 ≠ 4 := by decide +kernel
  rcases submitNow_agrees_with_submission (vacant_ofQueue (show ofQueue 1 = .ok narrow from rfl))
    happens_relieved fresh .service batch with ⟨queue, buffered, agrees⟩
  cases source.symm.trans buffered
  have full : (relieved.submitNow .service batch.draft).1 = .refused (.queueFull 1) := by
    simp only [submitNow, source, batch.build_draft]
    rfl
  exact ⟨agrees, full, (agrees.full.mp full).2⟩

end Deployment
end FailureDispatch

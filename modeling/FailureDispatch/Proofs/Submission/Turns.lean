import FailureDispatch.Proofs.Custody.Closing
import FailureDispatch.Proofs.Submission.Trying

/-!
# What becomes of submissions

Three counters are kept apart from the buffer whose history they tell, and a
call that submits may pass several turns before it ends.  `Handles` says what
one turn of a caller comes to for the submissions: the batch of one is accepted
and counted, or one that is just beginning is refused and counted, or nothing of
the kind happens, and then a submission can only be torn down.

`Treats` says the same of anything that happens, provided that no submission
begins with it.  It speaks of the calls that have ended meanwhile, so that who
follows a call need not know what ended it.
-/

namespace FailureDispatch

/-- Whether the call submits a batch. -/
def Call.submits : Call → Bool
  | submit _ _ _ => true
  | _ => false

theorem Call.Follows.submits_eq {earlier later : Call} (follows : earlier.Follows later) :
    later.submits = earlier.submits := by
  cases follows with
  | submit | join => rfl
  | consume reached consumes => cases earlier <;> rfl

/-- Only a submission goes on as a submission, and with the same batch. -/
theorem Call.Follows.submission {earlier later : Call} {door : Door} {batch : Batch} {goesOn : Bool}
    (follows : earlier.Follows later) (told : later = .submit door batch goesOn) :
    ∃ begun, earlier = .submit door batch begun := by
  cases follows with
  | @submit _ _ begun =>
      cases told
      exact ⟨begun, rfl⟩
  | consume reached consumes =>
      cases earlier with
      | consume _ _ | consumeWithin _ _ => cases told
      | _ => cases consumes
  | join => cases told

theorem Call.submits_of_place? {call : Call} {place : SubmissionQueue.Place}
    (consumes : call.place? = some place) : call.submits = false := by
  cases call <;> first | rfl | cases consumes

/-- The error that the end of a call reports. -/
def Outcome.error? : Outcome → Option FailureError
  | failed error | failedInApp (.domain error) => some error
  | _ => none

namespace SubmissionQueue

/-! ## The counters of a queue -/

section Counters

variable {ι α : Type} {queue next last : SubmissionQueue ι α}

/-- So many submissions have been accepted and so many refused, and the capacity is what it was. -/
structure Counts (queue next : SubmissionQueue ι α) (accepted refused : Nat) : Prop where
  capacity : next.capacity = queue.capacity
  submitted : next.submitted = queue.submitted + accepted
  rejected : next.rejected = queue.rejected + refused

theorem Counts.refl (queue : SubmissionQueue ι α) : queue.Counts queue 0 0 := ⟨rfl, rfl, rfl⟩

theorem Counts.trans {accepted refused : Nat} (first : queue.Counts next 0 0)
    (second : next.Counts last accepted refused) : queue.Counts last accepted refused :=
  ⟨second.capacity.trans first.capacity,
    second.submitted.trans (congrArg (· + accepted) first.submitted),
    second.rejected.trans (congrArg (· + refused) first.rejected)⟩

theorem counts_refuse (queue : SubmissionQueue ι α) : queue.Counts queue.refuse 0 1 :=
  ⟨rfl, rfl, rfl⟩

theorem counts_rouseIfExhausted (queue : SubmissionQueue ι α) :
    queue.Counts queue.rouseIfExhausted.2 0 0 := by
  unfold rouseIfExhausted
  split <;> exact ⟨rfl, rfl, rfl⟩

theorem counts_close (queue : SubmissionQueue ι α) : queue.Counts queue.close.2 0 0 :=
  (show queue.Counts { queue with isOpen := false } 0 0 from ⟨rfl, rfl, rfl⟩).trans
    (counts_rouseIfExhausted _)

variable [DecidableEq ι]

theorem counts_withdraw (queue : SubmissionQueue ι α) (who : ι) :
    queue.Counts (queue.withdraw who).2 0 0 :=
  (show queue.Counts { queue with slots := (queue.slots.leave who).2 } 0 0 from
    ⟨rfl, rfl, rfl⟩).trans (counts_rouseIfExhausted _)

theorem counts_seek (queue : SubmissionQueue ι α) (who : ι) (place : Place) :
    queue.Counts (queue.seek who place).2.2 0 0 := by
  have looks := queue.seek_looks who place
  generalize queue.seek who place = looked at looks ⊢
  cases looks <;> exact ⟨rfl, rfl, rfl⟩

theorem counts_depart (queue : SubmissionQueue ι α) (who : ι) (place : Place) :
    queue.Counts (queue.depart who place).2 0 0 := by
  cases place <;> exact ⟨rfl, rfl, rfl⟩

end Counters

variable {queue : SubmissionQueue Actor Batch}

/-- What a turn of a submission can come to.  One that has begun is not refused any more, and only
one that has begun gets anywhere at a closed queue. -/
inductive Tries (queue : SubmissionQueue Actor Batch) (begun : Bool) :
    Submission → SubmissionQueue Actor Batch → Prop where
  | accepted {next} (may : queue.isOpen = false → begun = true) (counts : queue.Counts next 1 0) :
      Tries queue begun .accepted next
  | refused (new : begun = false) (closed : queue.isOpen = false) :
      Tries queue begun (.refused .queueClosed) queue.refuse
  | waits {next} (may : queue.isOpen = false → begun = true) (counts : queue.Counts next 0 0) :
      Tries queue begun .waiting next

theorem resume_tries {begun : Bool} (may : queue.isOpen = false → begun = true) (who : Actor)
    (batch : Batch) :
    Tries queue begun (queue.resume who batch).1 (queue.resume who batch).2.2 := by
  unfold resume
  split
  · exact .accepted may ⟨rfl, rfl, rfl⟩
  · exact .waits may ⟨rfl, rfl, rfl⟩

theorem attempt_tries (queue : SubmissionQueue Actor Batch) (begun : Bool) (who : Actor)
    (batch : Batch) :
    Tries queue begun (queue.attempt begun who batch).1 (queue.attempt begun who batch).2.2 := by
  cases begun with
  | true => exact resume_tries (fun _ => rfl) who batch
  | false =>
      show Tries queue false (queue.submit who batch).1 (queue.submit who batch).2.2
      unfold submit
      split
      · next isOpen =>
        refine resume_tries (fun closed => ?_) who batch
        rw [isOpen] at closed
        cases closed
      · next closed => exact .refused rfl (Bool.eq_false_iff.mpr closed)

end SubmissionQueue

namespace Deployment

/-- The calls that have ended since, with their outcomes. -/
def ended (before after : Deployment) : List (Nat × Outcome) :=
  after.outcomes.drop before.outcomes.length

/-- The numbers of the submissions under way, in the order in which they came. -/
def submitters (deployment : Deployment) : List Nat :=
  (deployment.jobs.filter fun entry => entry.2.call.submits).map Prod.fst

section Handling

variable {before after : Deployment} {queue next : SubmissionQueue Actor Batch} {id : Nat}

theorem ended_of_same (outcomes : after.outcomes = before.outcomes) : before.ended after = [] := by
  rw [ended, outcomes, List.drop_length]

theorem ended_of_one {outcome : Outcome}
    (outcomes : after.outcomes = before.outcomes ++ [(id, outcome)]) :
    before.ended after = [(id, outcome)] := by
  rw [ended, outcomes, List.drop_left]

theorem mem_submitters (distinct : (before.jobs.map Prod.fst).Nodup) :
    id ∈ before.submitters ↔ ∃ job, before.job? id = some job ∧ job.call.submits = true := by
  constructor
  · intro member
    rcases List.mem_map.mp member with ⟨entry, among, same⟩
    rcases List.mem_filter.mp among with ⟨present, submits⟩
    exact ⟨entry.2, same ▸ job?_of_mem distinct present, submits⟩
  · rintro ⟨job, known, submits⟩
    exact List.mem_map.mpr ⟨(id, job), List.mem_filter.mpr ⟨mem_of_job? known, submits⟩, rfl⟩

theorem nodup_submitters (distinct : (before.jobs.map Prod.fst).Nodup) :
    before.submitters.Nodup :=
  distinct.sublist (List.filter_sublist.map Prod.fst)

/-! ## Turns of callers -/

/-- What a turn of a caller comes to for the submissions. -/
inductive Handles (before : Deployment) (queue : SubmissionQueue Actor Batch) (id : Nat)
    (after : Deployment) (next : SubmissionQueue Actor Batch) : Prop where
  | aside (counts : queue.Counts next 0 0)
      (accepted : after.journal.accepted = before.journal.accepted)
      (ends : ∀ job outcome, before.job? id = some job → job.call.submits = true →
        after.outcomes = before.outcomes ++ [(id, outcome)] → job.doomed = true ∧ outcome = .aborted)
      (begins : queue.isOpen = false → after.outcomes = before.outcomes →
        ∀ door batch, before.job? id ≠ some ⟨.submit door batch false, false⟩)
  | accepts {door batch begun} (job : before.job? id = some ⟨.submit door batch begun, false⟩)
      (may : queue.isOpen = false → begun = true) (counts : queue.Counts next 1 0)
      (accepted : after.journal.accepted = before.journal.accepted ++ [batch])
      (outcomes : after.outcomes = before.outcomes ++ [(id, .done)])
  | refuses {door batch outcome}
      (job : before.job? id = some ⟨.submit door batch false, false⟩)
      (closed : queue.isOpen = false) (counts : queue.Counts next 0 1)
      (accepted : after.journal.accepted = before.journal.accepted)
      (error : outcome.error? = some .queueClosed)
      (outcomes : after.outcomes = before.outcomes ++ [(id, outcome)])

/-- A call that submits nothing is no concern of the submissions. -/
theorem Handles.of_other {job : Job} (known : before.job? id = some job)
    (other : job.call.submits = false) (counts : queue.Counts next 0 0)
    (accepted : after.journal.accepted = before.journal.accepted) :
    Handles before queue id after next := by
  refine .aside counts accepted ?_ ?_
  · intro asked outcome present submits
    cases known.symm.trans present
    rw [other] at submits
    cases submits
  · intro _ _ door batch present
    cases known.symm.trans present
    cases other

/-- A submission that is torn down. -/
theorem Handles.of_doomed {call : Call} (known : before.job? id = some ⟨call, true⟩)
    (counts : queue.Counts next 0 0)
    (accepted : after.journal.accepted = before.journal.accepted)
    (outcomes : after.outcomes = before.outcomes ++ [(id, .aborted)]) :
    Handles before queue id after next := by
  refine .aside counts accepted ?_ ?_
  · intro asked outcome present _ same
    cases known.symm.trans present
    have told := List.append_cancel_left (outcomes.symm.trans same)
    exact ⟨rfl, (congrArg Prod.snd (List.cons.inj told).1).symm⟩
  · intro _ _ door batch present
    cases known.symm.trans present

/-- What a turn of a caller is to the submissions. -/
theorem CallerTurn.handles (turn : CallerTurn before queue id after)
    (buffered : before.source = .buffered queue) :
    ∃ next, after.source = .buffered next ∧ Handles before queue id after next := by
  have tries {begun : Bool} {batch : Batch} {submission : SubmissionQueue.Submission}
      {woken : List Actor} {later : SubmissionQueue Actor Batch}
      (tried : queue.attempt begun (.caller id) batch = (submission, woken, later)) :
      SubmissionQueue.Tries queue begun submission later := by
    have tries := queue.attempt_tries begun (.caller id) batch
    rwa [tried] at tries
  have seeks {place : SubmissionQueue.Place} {caught : SubmissionQueue.Catch Batch}
      {woken : List Actor} {later : SubmissionQueue Actor Batch}
      (looked : queue.seek (.caller id) place = (caught, woken, later)) :
      queue.Counts later 0 0 := by
    have counts := queue.counts_seek (.caller id) place
    rwa [looked] at counts
  have closes {door : Door} {woken : List Actor} {later : SubmissionQueue Actor Batch}
      (closes : ClosesBy queue door woken later) : queue.Counts later 0 0 := by
    rcases closes with ⟨_, _, same⟩ | ⟨_, closed⟩
    · rw [same]
      exact .refl queue
    · rw [show later = queue.close.2 from congrArg Prod.snd closed]
      exact queue.counts_close
  -- The journal of a caller that submits nothing says nothing of accepted batches.
  rcases turn.accounts buffered with ⟨trace, accounts, _, ends⟩
  have journal (silent : trace.accepted = []) :
      after.journal.accepted = before.journal.accepted := by
    rw [accounts.journal, Journal.accepted_append, silent, List.append_nil]
  have unsaid {job : Job} (known : before.job? id = some job) (other : job.call.submits = false) :
      trace.accepted = [] := by
    rcases ends with ⟨_, accepted, _⟩ | ⟨asked, outcome, present, _, accepted, _⟩
    · exact accepted
    · cases known.symm.trans present
      rw [accepted]
      rcases job with ⟨call, _⟩
      cases call with
      | submit door batch begun => cases other
      | _ => cases outcome <;> rfl
  have others {job : Job} {later : SubmissionQueue Actor Batch}
      (known : before.job? id = some job) (other : job.call.submits = false)
      (counts : queue.Counts later 0 0) : Handles before queue id after later :=
    .of_other known other counts (journal (unsaid known other))
  cases turn with
  | absent gone =>
      refine ⟨queue, buffered, .aside (.refl queue) rfl ?_ ?_⟩
      · intro job outcome present
        rw [gone] at present
        cases present
      · intro _ _ door batch present
        rw [gone] at present
        cases present
  | @lingers call job patient =>
      have other : call.submits = false := by
        rcases patient with observes | ⟨awaits, _⟩
        · cases call <;> first | rfl | cases observes
        · cases call <;> first | rfl | cases awaits
      exact ⟨queue, buffered, others job other (.refl queue)⟩
  | accepted job tried =>
      cases tries tried with
      | accepted may counts =>
          rw [adopt_eq]
          exact ⟨_, rfl, .accepts job may counts (Journal.accepted_append _ _) rfl⟩
  | refused job tried failed =>
      cases tries tried with
      | refused new closed =>
          subst new
          rw [adopt_eq]
          refine ⟨_, rfl, .refuses job closed queue.counts_refuse ?_ ?_ rfl⟩
          · exact (Journal.accepted_append _ _).trans (List.append_nil _)
          · rcases failed with same | same <;> (rw [same]; rfl)
  | @queues door batch begun _ _ job tried =>
      cases tries tried with
      | waits may counts =>
          refine ⟨_, source_adopt before _ _, .aside counts ?_ ?_ ?_⟩
          · rw [adopt_eq]
            rfl
          · intro asked outcome _ _ same
            rw [adopt_eq] at same
            have impossible := congrArg List.length same
            simp [setJob] at impossible
          · intro closed _ other item present
            cases job.symm.trans present
            cases may closed
  | withdraws job =>
      refine ⟨_, source_adopt before _ _, .of_doomed job (queue.counts_withdraw _) ?_ ?_⟩ <;>
        (rw [adopt_eq]; rfl)
  | catches job consumes looked =>
      exact ⟨_, source_adopt before _ _,
        others job (Call.submits_of_place? consumes) (seeks looked)⟩
  | misses job consumes looked _ =>
      exact ⟨_, source_adopt before _ _,
        others job (Call.submits_of_place? consumes) (seeks looked)⟩
  | stays job consumes looked =>
      exact ⟨_, source_adopt before _ _,
        others job (Call.submits_of_place? consumes) (seeks looked)⟩
  | departs job consumes _ =>
      exact ⟨_, source_adopt before _ _,
        others job (Call.submits_of_place? consumes) (queue.counts_depart _ _)⟩
  | timesOut job consumes looked =>
      exact ⟨_, source_adopt _ _ _, others job (Call.submits_of_place? consumes)
        ((seeks looked).trans (SubmissionQueue.counts_depart _ _ _))⟩
  | @asks door stopFirst job _ =>
      exact ⟨queue, (source_toldBy before stopFirst).trans buffered,
        others job rfl (.refl queue)⟩
  | @joins door stopFirst count job _ =>
      have source : ((before.toldBy stopFirst).setJob id { call := .joining door }).source =
          .buffered queue := (source_toldBy before stopFirst).trans buffered
      rcases report_eq source id door count with ⟨_, next, _, _, closing, reported⟩
      refine ⟨next, ?_, others job rfl (closes closing)⟩
      rw [reported]
      rfl
  | @learns door count job _ =>
      rcases report_eq buffered id door count with ⟨_, next, _, _, closing, reported⟩
      refine ⟨next, ?_, others job rfl (closes closing)⟩
      rw [reported]
      rfl
  | letsGo job =>
      exact ⟨queue, (source_toldBy before true).trans buffered, others job rfl (.refl queue)⟩
  | givesUp job _ => exact ⟨queue, buffered, .of_doomed job (.refl queue) rfl rfl⟩
  | @sees call _ job observes _ =>
      have other : call.submits = false := by
        cases call <;> first | rfl | cases observes
      exact ⟨queue, buffered, others job other (.refl queue)⟩

end Handling

/-! ## Submissions under way -/

section Under

variable {before after : Deployment} {id : Nat}

/-- Going on with a call keeps it among the submissions or away from them. -/
theorem submitters_setJob (distinct : (before.jobs.map Prod.fst).Nodup) {old job : Job}
    (known : before.job? id = some old) (same : job.call.submits = old.call.submits) :
    (before.setJob id job).submitters = before.submitters := by
  have kept : ∀ entry ∈ before.jobs,
      (if entry.1 = id then (id, job) else entry).2.call.submits = entry.2.call.submits := by
    intro entry member
    by_cases asked : entry.1 = id
    · have present := job?_of_mem distinct member
      rw [asked, known] at present
      rw [if_pos asked, same, Option.some.inj present]
    · rw [if_neg asked]
  have numbers : ∀ entry ∈ before.jobs.filter fun entry => entry.2.call.submits,
      (if entry.1 = id then (id, job) else entry).1 = entry.1 := by
    intro entry _
    by_cases asked : entry.1 = id
    · rw [if_pos asked, asked]
    · rw [if_neg asked]
  simp only [submitters, setJob, List.filter_map, List.map_map]
  rw [List.filter_congr (show ∀ entry ∈ before.jobs,
    ((fun entry : Nat × Job => entry.2.call.submits) ∘
      fun entry => if entry.1 = id then (id, job) else entry) entry = entry.2.call.submits from kept)]
  exact List.map_congr_left numbers

theorem submitters_finish (before : Deployment) (id : Nat) (outcome : Outcome) :
    (before.finish id outcome).submitters = before.submitters.filter (· != id) := by
  simp only [submitters, finish, List.filter_map, List.filter_filter]
  congr 1
  apply List.filter_congr
  intro entry _
  exact Bool.and_comm _ _

theorem submitters_addJob (before : Deployment) (id : Nat) (call : Call) :
    (before.addJob id call).submitters =
      before.submitters ++ if call.submits then [id] else [] := by
  simp only [submitters, addJob, List.filter_append, List.map_append]
  cases submits : call.submits <;> simp [submits]

/-- The submissions that are left when some calls have ended. -/
def remaining (ended : List (Nat × Outcome)) (numbers : List Nat) : List Nat :=
  numbers.filter fun id => (ended.lookup id).isNone

theorem remaining_nil (numbers : List Nat) : remaining [] numbers = numbers :=
  List.filter_eq_self.mpr fun _ _ => rfl

theorem remaining_cons (ended : List (Nat × Outcome)) (id : Nat) (numbers : List Nat) :
    remaining ended (id :: numbers) =
      if (ended.lookup id).isNone then id :: remaining ended numbers
      else remaining ended numbers := List.filter_cons

theorem remaining_one (id : Nat) (outcome : Outcome) (numbers : List Nat) :
    remaining [(id, outcome)] numbers = numbers.filter (· != id) := by
  apply List.filter_congr
  intro other _
  by_cases same : other = id
  · subst same
    rw [List.lookup_cons_self, bne_self_eq_false]
    rfl
  · rw [List.lookup_cons, beq_false_of_ne same, bne_iff_ne.mpr same]
    rfl

end Under

/-! ## Whatever happens -/

/-- What something that happens comes to for the submissions under way. -/
inductive Treats (before : Deployment) (queue : SubmissionQueue Actor Batch)
    (after : Deployment) (next : SubmissionQueue Actor Batch) : Prop where
  | aside (counts : queue.Counts next 0 0)
      (accepted : after.journal.accepted = before.journal.accepted)
      (ends : ∀ entry ∈ before.ended after, entry.1 ∈ before.submitters → entry.2 = .aborted)
  | accepts {id door batch begun} (job : before.job? id = some ⟨.submit door batch begun, false⟩)
      (may : queue.isOpen = false → begun = true) (counts : queue.Counts next 1 0)
      (accepted : after.journal.accepted = before.journal.accepted ++ [batch])
      (ended : before.ended after = [(id, .done)])
  | refuses {id door batch outcome}
      (job : before.job? id = some ⟨.submit door batch false, false⟩)
      (closed : queue.isOpen = false) (counts : queue.Counts next 0 1)
      (accepted : after.journal.accepted = before.journal.accepted)
      (error : outcome.error? = some .queueClosed) (ended : before.ended after = [(id, outcome)])

/-- What becomes of the submissions under way, of the calls and of the queue. -/
structure Treatment (before : Deployment) (queue : SubmissionQueue Actor Batch)
    (after : Deployment) (next : SubmissionQueue Actor Batch) : Prop where
  source : after.source = .buffered next
  outcomes : after.outcomes = before.outcomes ++ before.ended after
  submitters : after.submitters = remaining (before.ended after) before.submitters
  treats : Treats before queue after next

section Treatments

variable {before after : Deployment} {queue next : SubmissionQueue Actor Batch} {id : Nat}
  {sitter : Option Actor}

/-- Nothing becomes of the submissions. -/
theorem Treatment.of_still (source : after.source = .buffered next)
    (outcomes : after.outcomes = before.outcomes) (submitters : after.submitters = before.submitters)
    (counts : queue.Counts next 0 0)
    (accepted : after.journal.accepted = before.journal.accepted) :
    Treatment before queue after next := by
  have none := ended_of_same outcomes
  refine ⟨source, ?_, ?_, .aside counts accepted ?_⟩
  · rw [none, List.append_nil, outcomes]
  · rw [none, remaining_nil, submitters]
  · rw [none]
    exact nofun

/-- The worker submits nothing. -/
theorem WorkerTurn.counts {progress : Progress} {woken : List Actor} {service : Service}
    {trace : Journal} (turn : WorkerTurn before queue progress woken next service trace) :
    queue.Counts next 0 0 := by
  have seeks {place : SubmissionQueue.Place} {result : SubmissionQueue.Catch Batch}
      {actors : List Actor} {later : SubmissionQueue Actor Batch}
      (looked : queue.seek .worker place = (result, actors, later)) : queue.Counts later 0 0 := by
    have counts := queue.counts_seek .worker place
    rwa [looked] at counts
  cases turn with
  | interrupted _ _ => exact queue.counts_depart .worker _
  | shutOut _ looked | waits _ looked | drainWaits _ _ looked | takes _ looked _ _ _ =>
      exact seeks looked
  | completes _ gives =>
      cases gives with
      | exhausted looked => exact seeks looked
      | timedOut _ looked =>
          exact (seeks looked).trans (SubmissionQueue.counts_depart _ Actor.worker _)
  | _ => exact .refl queue

/-- The worker writes of no accepted batch. -/
theorem WorkerTurn.accepted_eq {progress : Progress} {woken : List Actor} {service : Service}
    {trace : Journal} (turn : WorkerTurn before queue progress woken next service trace) :
    trace.accepted = [] := by
  have balanced := turn.balanced.submitted
  rw [turn.counts.submitted] at balanced
  exact List.eq_nil_of_length_eq_zero (Nat.add_left_cancel balanced).symm

/-- The turn of a caller, in terms of the calls that have ended. -/
theorem CallerTurn.treatment (turn : CallerTurn before queue id after)
    (buffered : before.source = .buffered queue) (composed : before.Composed)
    (visits : Visits before id after) : ∃ next, Treatment before queue after next := by
  rcases turn.handles buffered with ⟨next, source, handles⟩
  have visit : ∃ ended : List (Nat × Outcome), before.ended after = ended ∧
      after.outcomes = before.outcomes ++ ended ∧
      after.submitters = remaining ended before.submitters ∧
      ∀ entry ∈ ended, entry.1 = id := by
    cases visits.visit with
    | rests jobs outcomes _ =>
        refine ⟨[], ended_of_same outcomes, outcomes.trans (List.append_nil _).symm, ?_, nofun⟩
        rw [remaining_nil, submitters, jobs]
        rfl
    | @stays call later known follows jobs outcomes _ =>
        refine ⟨[], ended_of_same outcomes, outcomes.trans (List.append_nil _).symm, ?_, nofun⟩
        rw [remaining_nil, submitters, jobs]
        exact submitters_setJob composed.distinct known follows.submits_eq
    | @ends job outcome known _ jobs outcomes =>
        refine ⟨[(id, outcome)], ended_of_one outcomes, outcomes, ?_, ?_⟩
        · rw [remaining_one, submitters, jobs]
          exact submitters_finish before id outcome
        · intro entry member
          rw [List.mem_singleton.mp member]
  rcases visit with ⟨ended, same, outcomes, submitters, own⟩
  refine ⟨next, source, same ▸ outcomes, same ▸ submitters, ?_⟩
  cases handles with
  | aside counts accepted ends _ =>
      refine .aside counts accepted ?_
      rw [same]
      intro entry member among
      have number := own entry member
      rcases (mem_submitters composed.distinct).mp (number ▸ among) with ⟨job, known, submits⟩
      have alone : after.outcomes = before.outcomes ++ [(id, entry.2)] := by
        rcases turn.outcomes buffered with none | ⟨_, outcome, _, _, one⟩
        · rw [none] at outcomes
          have nothing : ended = [] := by
            have lengths := congrArg List.length outcomes
            rw [List.length_append] at lengths
            exact List.eq_nil_of_length_eq_zero (by omega)
          rw [nothing] at member
          cases member
        · have told := List.append_cancel_left (outcomes.symm.trans one)
          rw [told] at member
          rw [one, List.mem_singleton.mp member]
      exact (ends job entry.2 known submits alone).2
  | accepts job may counts accepted outcomes =>
      exact .accepts job may counts accepted (ended_of_one outcomes)
  | refuses job closed counts accepted error outcomes =>
      exact .refuses job closed counts accepted error (ended_of_one outcomes)

/-- Who stands in line does not matter. -/
theorem Treatment.lines (treatment : Treatment before queue after next) (ready : List Actor) :
    Treatment before queue { after with ready } next := by
  refine ⟨treatment.source, treatment.outcomes, treatment.submitters, ?_⟩
  cases treatment.treats with
  | aside counts accepted ends => exact .aside counts accepted ends
  | accepts job may counts accepted ended => exact .accepts job may counts accepted ended
  | refuses job closed counts accepted error ended =>
      exact .refuses job closed counts accepted error ended

theorem Civil.tick_treatment (civil : before.Civil queue sitter) :
    ∃ next, Treatment before queue before.tick next := by
  have regular := civil.composed.sound.regular
  have course := civil.composed.sound.course
  apply tick_keeps fun after => ∃ next, Treatment before queue after next
  · rintro after ready ⟨next, treatment⟩
    exact ⟨next, treatment.lines ready⟩
  · rcases advanceWorker_turn civil.buffered course with
      ⟨_, _, next, _, _, trace, same, turn, _⟩
    have accepted : (before.journal ++ trace).accepted = before.journal.accepted := by
      rw [Journal.accepted_append, turn.accepted_eq, List.append_nil]
    rw [same]
    exact ⟨next, .of_still rfl rfl rfl turn.counts accepted⟩
  · intro id
    exact (advanceCaller_turn civil.buffered course).treatment civil.buffered civil.composed
      (visits_advanceCaller regular.lawful regular.joins)
  · exact ⟨queue, .of_still civil.buffered rfl rfl (.refl queue) rfl⟩

/-- Something happens with which no submission begins: nobody submits without waiting, and no call
comes that would wait for a slot. -/
structure Besides (before after : Deployment) : Prop where
  happening : Happening before after
  untried : ∀ (door : Door) (batch : Batch), after ≠ (before.submitNow door batch.draft).2
  unentered : ∀ id door batch,
    after ≠ (before.addJob id (.submit door batch false)).wake (.caller id)

/-- How something that happens is about submissions. -/
inductive Occasion (before after : Deployment) : Prop where
  | tries (door : Door) (batch : Batch) (same : after = (before.submitNow door batch.draft).2)
  | enters (id : Nat) (door : Door) (batch : Batch)
      (same : after = (before.addJob id (.submit door batch false)).wake (.caller id))
  | besides (besides : Besides before after)

theorem Happening.occasion (happening : Happening before after) : Occasion before after := by
  by_cases tried : ∃ (door : Door) (batch : Batch), after = (before.submitNow door batch.draft).2
  · rcases tried with ⟨door, batch, same⟩
    exact .tries door batch same
  · by_cases entered : ∃ id door batch,
        after = (before.addJob id (.submit door batch false)).wake (.caller id)
    · rcases entered with ⟨id, door, batch, same⟩
      exact .enters id door batch same
    · exact .besides ⟨happening, fun door batch same => tried ⟨door, batch, same⟩,
        fun id door batch same => entered ⟨id, door, batch, same⟩⟩

/-- What comes from outside is a submission, or nothing becomes of any. -/
theorem Besides.outside (besides : Besides before after) (buffered : before.source = .buffered queue)
    (outside : Outside before queue after) : ∃ next, Treatment before queue after next := by
  have submitters : after.submitters = before.submitters := by
    rw [Deployment.submitters, Deployment.submitters, outside.jobs]
  have still {next : SubmissionQueue Actor Batch} (source : after.source = .buffered next)
      (counts : queue.Counts next 0 0)
      (accepted : after.journal.accepted = before.journal.accepted) :
      ∃ next, Treatment before queue after next :=
    ⟨next, .of_still source outside.outcomes submitters counts accepted⟩
  have plainly {trace : Journal} (plain : trace.Plain) :
      (before.journal ++ trace).accepted = before.journal.accepted := by
    rw [Journal.accepted_append, plain.accepted_eq, List.append_nil]
  have untried (door : Door) (batch : Batch) := besides.untried door batch
  cases outside with
  | aside _ _ plain _ => exact still buffered (.refl queue) (plainly plain)
  | @accepts batch _ _ tried =>
      refine absurd ?_ (untried .service batch)
      simp only [submitNow, buffered, batch.build_draft, tried]
  | @refuses batch _ _ _ tried =>
      refine absurd ?_ (untried .service batch)
      simp only [submitNow, buffered, batch.build_draft, tried]
  | closes =>
      refine still (source_adopt before _ _) queue.counts_close ?_
      rw [adopt_eq]
  | starts _ => exact still buffered (.refl queue) (plainly (.cons rfl .nil))
  | stops holder _ =>
      rcases requestStop_eq { before with holder } with ⟨_, _, _, plain, same⟩
      rw [same] at still ⊢
      exact still buffered (.refl queue) (plainly plain)

/-- Whatever happens, unless a submission begins with it. -/
theorem Civil.treatment (civil : before.Civil queue sitter) (besides : Besides before after) :
    ∃ next, Treatment before queue after next := by
  have outside (act : Act before after) : ∃ next, Treatment before queue after next :=
    besides.outside civil.buffered (act.outside civil.buffered)
  have unentered := besides.unentered
  cases besides.happening with
  | turn => exact civil.tick_treatment
  | @begins id call _ may =>
      have other : call.submits = false := by
        cases call with
        | submit door batch begun =>
            cases begun with
            | true => exact absurd may.isNew Bool.false_ne_true
            | false => exact absurd rfl (unentered id door batch)
        | _ => rfl
      rw [wake_eq]
      refine ⟨queue, .of_still civil.buffered rfl ?_ (.refl queue) rfl⟩
      have same := submitters_addJob before id call
      rw [other] at same
      exact same.trans (List.append_nil _)
  | aborts known =>
      rw [wake_eq]
      exact ⟨queue, .of_still civil.buffered rfl
        (submitters_setJob civil.composed.distinct known rfl) (.refl queue) rfl⟩
  | rings time later => exact outside (.clock time _ later)
  | passes time later => exact outside (.clock time [] later)
  | requests request => exact outside request.act
  | handsOver holder held => exact outside (.handOver holder held)
  | announces settings held => exact outside (.announce settings held)

end Treatments

/-! ## Torn down -/

/-- Every call that is to be torn down stands in the line of those who can act. -/
def Impends (deployment : Deployment) : Prop :=
  ∀ id call, deployment.job? id = some ⟨call, true⟩ → .caller id ∈ deployment.ready

section Impending

variable {before after : Deployment} {origin reached : Deployment}

/-- The calls are what they were, and nobody has left the line. -/
theorem Impends.around (impends : before.Impends) (jobs : after.jobs = before.jobs)
    (grows : ∀ actor ∈ before.ready, actor ∈ after.ready) : after.Impends :=
  fun id call known => grows _ (impends id call ((congrArg (List.lookup id) jobs).symm.trans known))

/-- At its turn a call is torn down or goes on, and everybody else keeps his place. -/
theorem Impends.tick (impends : before.Impends) (regular : before.Regular) :
    before.tick.Impends := by
  unfold Deployment.tick
  cases line : before.ready with
  | nil => exact impends
  | cons head rest =>
      have remain {after : Deployment} {actor : Actor}
          (grows : ∃ woken, after.ready = lineUpAll before.ready woken)
          (different : actor ≠ head) (stands : actor ∈ before.ready) :
          actor ∈ after.stepBack.ready := by
        rcases grows with ⟨woken, ready⟩
        rw [stepBack, ready, line]
        rw [line] at stands
        exact (mem_tail_lineUpAll different).mpr
          (Or.inl (List.mem_of_ne_of_mem different stands))
      cases head with
      | worker =>
          have works := works_advanceWorker regular.lawful
          dsimp only
          split
          · next after turn =>
            rw [turn] at works
            exact impends.around works.jobs works.waits
          · next after turn =>
            rw [turn] at works
            intro id call known
            have other : Actor.caller id ≠ .worker := by
              intro same
              cases same
            exact remain works.line other
              (impends id call ((congrArg (List.lookup id) works.jobs).symm.trans known))
      | caller own =>
          have visits : Visits before own (before.advanceCaller own) :=
            visits_advanceCaller regular.lawful regular.joins
          intro id call known
          by_cases same : id = own
          · subst same
            have known : (before.advanceCaller id).job? id = some ⟨call, true⟩ := known
            cases present : before.job? id with
            | none =>
                have still : before.advanceCaller id = before := by
                  simp only [advanceCaller, present]
                rw [still, present] at known
                cases known
            | some job =>
                rcases job with ⟨asked, doomed⟩
                cases visits.visit with
                | rests jobs outcomes _ =>
                    have there := (congrArg (List.lookup id) jobs).symm.trans known
                    cases present.symm.trans there
                    have torn : (before.advanceCaller id).job? id = none := by
                      simp only [advanceCaller, present, dismantle]
                      exact job?_finish_self _
                    rw [torn] at known
                    cases known
                | @stays _ later earlier _ jobs _ _ =>
                    have there := (congrArg (List.lookup id) jobs).symm.trans known
                    have goes : (before.setJob id { call := later }).job? id =
                        some { call := later } := job?_setJob earlier _
                    cases goes.symm.trans there
                | @ends _ outcome _ _ jobs _ =>
                    have there := (congrArg (List.lookup id) jobs).symm.trans known
                    have gone : (before.finish id outcome).job? id = none :=
                      job?_finish_self outcome
                    cases gone.symm.trans there
          · have before' : before.job? id = some ⟨call, true⟩ :=
              (job?_advanceCaller_of_ne regular same).symm.trans known
            exact remain visits.line (fun equal => same (Actor.caller.inj equal))
              (impends id call before')

theorem Impends.happening (impends : before.Impends) (sound : before.OnCourse)
    (happening : Happening before after) : after.Impends := by
  rcases sound.buffered with ⟨queue, buffered⟩
  have outside {after : Deployment} (act : Act before after) : after.Impends :=
    impends.around (act.outside buffered).jobs (act.outside buffered).grows
  cases happening with
  | turn => exact impends.tick sound.regular
  | @begins own call fresh _ =>
      rw [wake_eq]
      intro id asked known
      have known : (before.addJob own call).job? id = some ⟨asked, true⟩ := known
      refine mem_lineUp.mpr (Or.inl (impends id asked ?_))
      rw [job?_addJob] at known
      cases earlier : before.job? id with
      | some job => rwa [earlier] at known
      | none =>
          rw [earlier, Option.none_or] at known
          cases List.mem_singleton.mp (mem_of_lookup known)
  | @aborts own job present =>
      rw [wake_eq]
      intro id asked known
      by_cases same : id = own
      · rw [same]
        exact mem_lineUp.mpr (Or.inr rfl)
      · have known : (before.setJob own { job with doomed := true }).job? id =
            some ⟨asked, true⟩ := known
        rw [job?_setJob_of_ne same] at known
        exact mem_lineUp.mpr (Or.inl (impends id asked known))
  | rings time later => exact outside (.clock time _ later)
  | passes time later => exact outside (.clock time [] later)
  | requests request => exact outside request.act
  | handsOver holder held => exact outside (.handOver holder held)
  | announces settings held => exact outside (.announce settings held)

/-- Nobody who is to be torn down is forgotten. -/
theorem Vacant.impends (vacant : origin.Vacant) (happens : Happens origin reached) :
    reached.Impends := by
  induction happens with
  | refl =>
      intro id call known
      rw [job?, vacant.unstarted.jobs] at known
      cases known
  | tail earlier happening inductionHypothesis =>
      have sound := vacant.unstarted.onCourse.reaches (Happens.reaches earlier)
      exact inductionHypothesis.happening sound happening

end Impending

end Deployment
end FailureDispatch

import FailureDispatch.Proofs.Ledger.Conservation
import FailureDispatch.Proofs.Submission.Turns

/-!
# The counters of a queue

The counters are updated apart from the buffer that they describe, at the exits
of several operations, and calls are torn down in between.  What they should say
is known only to those who submit: each knows whether he has been told that his
batch was accepted, or why it was not, or that he is still waiting.

`Attempts` is the list of what they know, one entry for each submission in the
order in which they came.  It is kept beside the deployment and nothing depends
on it: an entry is made when a submission begins, and changed when its call ends.
The counters agree with it at every moment (`Books`), also between the turns of
a run.
-/

namespace FailureDispatch

/-- What can become of a submission. -/
inductive Fate where
  | accepted
  | refused (error : FailureError)
  | underWay (id : Nat)
  | aborted
  deriving DecidableEq

/-- A submission, by what its caller knows: the answer given at once, the number of the call while
this is under way, or how the call ended. -/
inductive Attempt where
  | answered (reply : Reply)
  | underWay (id : Nat)
  | ended (outcome : Outcome)

namespace Attempt

/-- What has become of the submission.  No submission ends in another way. -/
def fate? : Attempt → Option Fate
  | answered .ok | ended .done => some .accepted
  | answered (.refused error) | answered (.refusedInApp (.domain error)) => some (.refused error)
  | ended .aborted => some .aborted
  | ended outcome => outcome.error?.map .refused
  | underWay id => some (.underWay id)
  | answered _ => none

def isAccepted (attempt : Attempt) : Bool := attempt.fate? = some .accepted

def isRefused (attempt : Attempt) : Bool :=
  match attempt.fate? with
  | some (.refused _) => true
  | _ => false

def isAborted (attempt : Attempt) : Bool := attempt.fate? = some .aborted

/-- The number of the call that is under way. -/
def number? : Attempt → Option Nat
  | underWay id => some id
  | _ => none

/-- What the caller knows when some calls have ended. -/
def learn (ended : List (Nat × Outcome)) : Attempt → Attempt
  | underWay id =>
      match ended.lookup id with
      | some outcome => .ended outcome
      | none => .underWay id
  | attempt => attempt

/-- The submission has met with one of the four fates.  It is refused because the queue is closed,
or because the queue is full if it does not wait. -/
def Known (capacity : Nat) (attempt : Attempt) : Prop :=
  ∃ fate, attempt.fate? = some fate ∧ ∀ error, fate = .refused error →
    error = .queueClosed ∨ (error = .queueFull capacity ∧ ∃ reply, attempt = .answered reply)

theorem fate?_of_refusal (door : Door) (error : FailureError) :
    (answered (Deployment.refusal door error)).fate? = some (.refused error) := by
  cases door <;> rfl

theorem fate?_of_error {outcome : Outcome} {error : FailureError}
    (failed : outcome.error? = some error) : (ended outcome).fate? = some (.refused error) := by
  cases outcome with
  | failed _ =>
      cases failed
      rfl
  | failedInApp reason =>
      cases reason with
      | domain _ =>
          cases failed
          rfl
      | _ => cases failed
  | _ => cases failed

theorem counted_of_refused {attempt : Attempt} {error : FailureError}
    (refused : attempt.fate? = some (.refused error)) :
    attempt.isAccepted = false ∧ attempt.isRefused = true := by
  simp only [isAccepted, isRefused, refused]
  exact ⟨rfl, trivial⟩

theorem known_of_fate {capacity : Nat} {attempt : Attempt} {fate : Fate}
    (met : attempt.fate? = some fate) (spared : ∀ error, fate ≠ .refused error) :
    attempt.Known capacity :=
  ⟨fate, met, fun error same => absurd same (spared error)⟩

/-- Who has been refused because the queue is closed. -/
theorem known_of_closed {capacity : Nat} {attempt : Attempt}
    (refused : attempt.fate? = some (.refused .queueClosed)) : attempt.Known capacity :=
  ⟨_, refused, fun _ same => Or.inl (Fate.refused.inj same).symm⟩

/-- The number of the submissions that have met with a fate, by the four fates. -/
theorem length_eq {capacity : Nat} {attempts : List Attempt}
    (known : ∀ attempt ∈ attempts, attempt.Known capacity) :
    attempts.length = attempts.countP isAccepted + attempts.countP isRefused +
      (attempts.filterMap number?).length + attempts.countP isAborted := by
  induction attempts with
  | nil => rfl
  | cons attempt rest inductionHypothesis =>
      have others := inductionHypothesis fun other member =>
        known other (List.mem_cons_of_mem _ member)
      rcases known attempt List.mem_cons_self with ⟨fate, met, _⟩
      simp only [List.countP_cons, List.length_cons, others, isAccepted, isRefused, isAborted, met]
      have named : ((attempt :: rest).filterMap number?).length =
          (rest.filterMap number?).length + if attempt.number?.isSome then 1 else 0 := by
        cases attempt <;> rfl
      have number : attempt.number?.isSome = true ↔ ∃ id, fate = .underWay id := by
        cases attempt with
        | underWay id => exact iff_of_true rfl ⟨id, (Option.some.inj met).symm⟩
        | answered reply =>
            refine iff_of_false Bool.false_ne_true ?_
            rintro ⟨id, same⟩
            subst same
            cases reply with
            | refusedInApp reason => cases reason <;> cases met
            | _ => cases met
        | ended outcome =>
            refine iff_of_false Bool.false_ne_true ?_
            rintro ⟨id, same⟩
            subst same
            cases outcome with
            | failedInApp reason => cases reason <;> cases met
            | _ => cases met
      rw [named]
      cases fate <;> simp [number] <;> omega

/-! ## When calls end -/

section Learning

variable {ended : List (Nat × Outcome)} {attempts : List Attempt} {id : Nat} {outcome : Outcome}

/-- The numbers of the submissions under way. -/
def numbers (attempts : List Attempt) : List Nat := attempts.filterMap number?

theorem numbers_append (first second : List Attempt) :
    numbers (first ++ second) = numbers first ++ numbers second :=
  List.filterMap_append

/-- Whoever hears nothing new knows what he knew. -/
theorem learn_of_other {attempt : Attempt}
    (other : ∀ id, attempt = .underWay id → ended.lookup id = none) :
    attempt.learn ended = attempt := by
  cases attempt with
  | underWay id => rw [learn, other id rfl]
  | answered _ | ended _ => rfl

/-- Whose call has ended is not under way any more. -/
theorem numbers_learn (ended : List (Nat × Outcome)) (attempts : List Attempt) :
    numbers (attempts.map (learn ended)) = Deployment.remaining ended (numbers attempts) := by
  induction attempts with
  | nil => rfl
  | cons attempt rest inductionHypothesis =>
      cases attempt with
      | answered _ | ended _ => exact inductionHypothesis
      | underWay id =>
          show numbers (learn ended (.underWay id) :: rest.map (learn ended)) =
            Deployment.remaining ended (id :: numbers rest)
          rw [Deployment.remaining_cons, ← inductionHypothesis, learn]
          cases ended.lookup id <;> rfl

/-- Ends that do not count leave the counts as they were. -/
theorem countP_learn (counted : Attempt → Bool)
    (under : ∀ id, counted (.underWay id) = false)
    (ends : ∀ entry ∈ ended, entry.1 ∈ numbers attempts → counted (.ended entry.2) = false) :
    (attempts.map (learn ended)).countP counted = attempts.countP counted := by
  rw [List.countP_map]
  apply List.countP_congr
  intro attempt member
  cases attempt with
  | answered _ | ended _ => exact Iff.rfl
  | underWay id =>
      simp only [Function.comp_apply, learn, under]
      cases found : ended.lookup id with
      | none => rw [under]
      | some outcome =>
          have number : id ∈ numbers attempts := List.mem_filterMap.mpr ⟨_, member, rfl⟩
          rw [ends _ (mem_of_lookup found) number]

/-- One end is counted once. -/
theorem countP_learn_one (counted : Attempt → Bool)
    (under : ∀ id, counted (.underWay id) = false) (once : (numbers attempts).Nodup)
    (member : id ∈ numbers attempts) :
    (attempts.map (learn [(id, outcome)])).countP counted =
      attempts.countP counted + if counted (.ended outcome) then 1 else 0 := by
  induction attempts with
  | nil => cases member
  | cons attempt rest inductionHypothesis =>
      rw [List.map_cons, List.countP_cons, List.countP_cons]
      by_cases own : attempt = .underWay id
      · subst own
        have alone : id ∉ numbers rest := (List.nodup_cons.mp once).1
        have others : (rest.map (learn [(id, outcome)])).countP counted = rest.countP counted := by
          apply countP_learn counted under
          intro entry among number
          rw [List.mem_singleton.mp among] at number
          exact absurd number alone
        have told : learn [(id, outcome)] (.underWay id) = .ended outcome := by
          rw [learn, List.lookup_cons_self]
        rw [others, told, under]
        rfl
      · have same : attempt.learn [(id, outcome)] = attempt := by
          apply learn_of_other
          intro other equal
          have different : (other == id) = false := beq_false_of_ne fun there => own (there ▸ equal)
          rw [List.lookup_cons, different]
          rfl
        have further : id ∈ numbers rest ∧ (numbers rest).Nodup := by
          cases attempt with
          | answered _ | ended _ => exact ⟨member, once⟩
          | underWay other =>
              have different : id ≠ other := fun there => own (there ▸ rfl)
              rcases List.mem_cons.mp member with same | later
              · exact absurd same different
              · exact ⟨later, (List.nodup_cons.mp once).2⟩
        rw [same, inductionHypothesis further.2 further.1]
        omega

end Learning

end Attempt

namespace Deployment

/-- What those know who have submitted since the beginning, in the order of their submissions.  The
second submits without waiting, the third begins to, and with the last no submission begins. -/
inductive Attempts (origin : Deployment) : List Attempt → Deployment → Prop where
  | begins : Attempts origin [] origin
  | tries {attempts : List Attempt} {before : Deployment} (door : Door) (batch : Batch)
      (earlier : Attempts origin attempts before) :
      Attempts origin (attempts ++ [.answered (before.submitNow door batch.draft).1])
        (before.submitNow door batch.draft).2
  | enters {attempts : List Attempt} {before : Deployment} {id : Nat} (door : Door) (batch : Batch)
      (fresh : ∀ entry ∈ before.jobs, entry.1 ≠ id) (earlier : Attempts origin attempts before) :
      Attempts origin (attempts ++ [.underWay id])
        ((before.addJob id (.submit door batch false)).wake (.caller id))
  | goesOn {attempts : List Attempt} {before after : Deployment} (besides : Besides before after)
      (earlier : Attempts origin attempts before) :
      Attempts origin (attempts.map (Attempt.learn (before.ended after))) after

section Attempting

variable {origin before after reached : Deployment} {queue next : SubmissionQueue Actor Batch}
  {attempts : List Attempt} {capacity : Nat}

theorem happening_enters {id : Nat} (door : Door) (batch : Batch)
    (fresh : ∀ entry ∈ before.jobs, entry.1 ≠ id) :
    Happening before ((before.addJob id (.submit door batch false)).wake (.caller id)) :=
  .begins fresh ⟨rfl, fun _ => rfl, fun joins => nomatch joins⟩

theorem Attempts.happens (history : Attempts origin attempts reached) : Happens origin reached := by
  induction history with
  | begins => exact .refl
  | tries door batch _ inductionHypothesis =>
      exact inductionHypothesis.tail (.requests (.submitNow door batch.draft))
  | enters door batch fresh _ inductionHypothesis =>
      exact inductionHypothesis.tail (happening_enters door batch fresh)
  | goesOn besides _ inductionHypothesis => exact inductionHypothesis.tail besides.happening

/-- Whatever happens, there is something that the submitters know. -/
theorem exists_attempts (vacant : origin.Vacant) (happens : Happens origin reached) :
    ∃ attempts, Attempts origin attempts reached := by
  induction happens with
  | refl => exact ⟨[], .begins⟩
  | @tail before after earlier happening inductionHypothesis =>
      rcases inductionHypothesis with ⟨attempts, history⟩
      cases happening.occasion with
      | tries door batch same => exact ⟨_, same ▸ history.tries door batch⟩
      | enters id door batch same =>
          subst same
          rcases vacant.happens (earlier.tail happening) with ⟨_, _, civil⟩
          have distinct := civil.composed.distinct
          rw [wake_eq] at distinct
          have numbers : ((before.addJob id (.submit door batch false)).jobs.map Prod.fst) =
              before.jobs.map Prod.fst ++ [id] := List.map_append
          have apart := (List.nodup_append.mp (numbers ▸ distinct)).2.2
          refine ⟨_, history.enters door batch fun entry member => ?_⟩
          exact apart entry.1 (List.mem_map_of_mem member) id List.mem_cons_self
      | besides besides => exact ⟨_, history.goesOn besides⟩

/-! ## Answers -/

/-- What the queue answers to somebody who does not wait. -/
inductive Replies (queue : SubmissionQueue Actor Batch) (door : Door) :
    Reply → SubmissionQueue Actor Batch → Prop where
  | accepted {next : SubmissionQueue Actor Batch} (counts : queue.Counts next 1 0) :
      Replies queue door .ok next
  | closed {next : SubmissionQueue Actor Batch} (closed : queue.isOpen = false)
      (counts : queue.Counts next 0 1) :
      Replies queue door (refusal door .queueClosed) next
  | full {next : SubmissionQueue Actor Batch} (isOpen : queue.isOpen = true)
      (counts : queue.Counts next 0 1) :
      Replies queue door (refusal door (.queueFull queue.capacity)) next

theorem submitNow_replies (buffered : before.source = .buffered queue) (door : Door)
    (batch : Batch) :
    ∃ next, (before.submitNow door batch.draft).2.source = .buffered next ∧
      (before.submitNow door batch.draft).2.jobs = before.jobs ∧
      Replies queue door (before.submitNow door batch.draft).1 next := by
  simp only [submitNow, buffered, batch.build_draft, SubmissionQueue.trySubmit, adopt_eq]
  cases isOpen : queue.isOpen with
  | false => exact ⟨_, rfl, rfl, .closed isOpen ⟨rfl, rfl, rfl⟩⟩
  | true =>
      by_cases room : 0 < queue.slots.free
      · simp only [room, if_true]
        exact ⟨_, rfl, rfl, .accepted ⟨rfl, rfl, rfl⟩⟩
      · simp only [room, if_false]
        exact ⟨_, rfl, rfl, .full isOpen ⟨rfl, rfl, rfl⟩⟩

/-! ## The books -/

/-- The counters say what the submitters know. -/
structure Books (capacity : Nat) (attempts : List Attempt) (deployment : Deployment)
    (queue : SubmissionQueue Actor Batch) : Prop where
  capacity_eq : queue.capacity = capacity
  submitted : queue.submitted = attempts.countP Attempt.isAccepted
  rejected : queue.rejected = attempts.countP Attempt.isRefused
  underWay : Attempt.numbers attempts = deployment.submitters
  known : ∀ attempt ∈ attempts, attempt.Known capacity

/-- Nobody has submitted anything at the beginning. -/
theorem Vacant.books (vacant : origin.Vacant) (capacity : Nat) :
    Books (max capacity 1) [] origin (.empty capacity) := by
  refine ⟨rfl, rfl, rfl, ?_, nofun⟩
  rw [submitters, vacant.unstarted.jobs]
  rfl

/-- An entry is added for a submission that begins. -/
theorem Books.adds (books : Books capacity attempts before queue) {attempt : Attempt}
    (known : attempt.Known capacity)
    (counts : queue.Counts next (if attempt.isAccepted then 1 else 0)
      (if attempt.isRefused then 1 else 0))
    (submitters : after.submitters = before.submitters ++ Attempt.numbers [attempt]) :
    Books capacity (attempts ++ [attempt]) after next where
  capacity_eq := counts.capacity.trans books.capacity_eq
  submitted := by
    rw [counts.submitted, books.submitted, List.countP_append, List.countP_singleton]
  rejected := by
    rw [counts.rejected, books.rejected, List.countP_append, List.countP_singleton]
  underWay := by rw [Attempt.numbers_append, books.underWay, submitters]
  known := by
    intro other member
    rcases List.mem_append.mp member with earlier | last
    · exact books.known other earlier
    · rw [List.mem_singleton.mp last]
      exact known

/-- A submission that does not wait is answered at once and counted accordingly. -/
theorem Books.tries (books : Books capacity attempts before queue)
    (buffered : before.source = .buffered queue) (door : Door) (batch : Batch) :
    ∃ next, (before.submitNow door batch.draft).2.source = .buffered next ∧
      Books capacity (attempts ++ [.answered (before.submitNow door batch.draft).1])
        (before.submitNow door batch.draft).2 next := by
  rcases submitNow_replies buffered door batch with ⟨next, source, jobs, replies⟩
  have submitters : (before.submitNow door batch.draft).2.submitters =
      before.submitters ++ [] := by
    rw [List.append_nil, Deployment.submitters, jobs]
    rfl
  generalize before.submitNow door batch.draft = tried at source replies submitters ⊢
  rcases tried with ⟨reply, after⟩
  have refused (error : FailureError) (counts : queue.Counts next 0 1)
      (known : (Attempt.answered (refusal door error)).Known capacity) :
      Books capacity (attempts ++ [.answered (refusal door error)]) after next := by
    rcases Attempt.counted_of_refused (Attempt.fate?_of_refusal door error) with ⟨none, one⟩
    refine books.adds known ?_ submitters
    rw [none, one]
    exact counts
  refine ⟨next, source, ?_⟩
  cases replies with
  | accepted counts =>
      refine books.adds (Attempt.known_of_fate rfl ?_) counts submitters
      intro error same
      cases same
  | closed _ counts =>
      exact refused _ counts (Attempt.known_of_closed (Attempt.fate?_of_refusal door _))
  | full _ counts =>
      refine refused _ counts ⟨_, Attempt.fate?_of_refusal door _, fun error same => Or.inr ?_⟩
      exact ⟨(Fate.refused.inj same).symm.trans (congrArg _ books.capacity_eq), _, rfl⟩

/-- A submission that would wait is under way. -/
theorem Books.enters (books : Books capacity attempts before queue) (id : Nat) (door : Door)
    (batch : Batch) :
    Books capacity (attempts ++ [.underWay id])
      ((before.addJob id (.submit door batch false)).wake (.caller id)) queue := by
  rw [wake_eq]
  exact books.adds (Attempt.known_of_fate rfl nofun) (.refl queue) (submitters_addJob before id _)

/-- Whoever hears how his call has ended has been counted accordingly. -/
theorem Books.learns (books : Books capacity attempts before queue)
    (distinct : (before.jobs.map Prod.fst).Nodup)
    (treatment : Treatment before queue after next) :
    Books capacity (attempts.map (Attempt.learn (before.ended after))) after next := by
  have once : (Attempt.numbers attempts).Nodup := by
    rw [books.underWay]
    exact nodup_submitters distinct
  have underWay : Attempt.numbers (attempts.map (Attempt.learn (before.ended after))) =
      after.submitters := by
    rw [Attempt.numbers_learn, books.underWay, treatment.submitters]
  -- Whose call has ended knows his fate if all outcomes of submissions tell one.
  have learns (tells : ∀ entry ∈ before.ended after, entry.1 ∈ before.submitters →
      (Attempt.ended entry.2).Known capacity) :
      ∀ attempt ∈ attempts.map (Attempt.learn (before.ended after)), attempt.Known capacity := by
    intro attempt member
    rcases List.mem_map.mp member with ⟨earlier, among, same⟩
    subst same
    cases earlier with
    | answered _ | ended _ => exact books.known _ among
    | underWay id =>
        rw [Attempt.learn]
        split
        · next outcome found =>
          refine tells (id, outcome) (mem_of_lookup found) ?_
          rw [← books.underWay]
          exact List.mem_filterMap.mpr ⟨_, among, rfl⟩
        · exact books.known _ among
  cases treatment.treats with
  | aside counts _ ends =>
      have uncounted (counted : Attempt → Bool) (under : ∀ id, counted (.underWay id) = false)
          (aborted : counted (.ended .aborted) = false) :
          (attempts.map (Attempt.learn (before.ended after))).countP counted =
            attempts.countP counted := by
        apply Attempt.countP_learn counted under
        intro entry member number
        rw [books.underWay] at number
        rw [ends entry member number, aborted]
      refine ⟨counts.capacity.trans books.capacity_eq, ?_, ?_, underWay, learns ?_⟩
      · rw [counts.submitted, books.submitted, uncounted _ (fun _ => rfl) rfl]
        rfl
      · rw [counts.rejected, books.rejected, uncounted _ (fun _ => rfl) rfl]
        rfl
      · intro entry member number
        rw [ends entry member number]
        exact Attempt.known_of_fate rfl nofun
  | @accepts id door batch begun job _ counts _ ended =>
      have member : id ∈ Attempt.numbers attempts := by
        rw [books.underWay]
        exact (mem_submitters distinct).mpr ⟨_, job, rfl⟩
      rw [ended] at underWay learns ⊢
      refine ⟨counts.capacity.trans books.capacity_eq, ?_, ?_, underWay, learns ?_⟩
      · rw [counts.submitted, books.submitted,
          Attempt.countP_learn_one _ (fun _ => rfl) once member]
        rfl
      · rw [counts.rejected, books.rejected,
          Attempt.countP_learn_one _ (fun _ => rfl) once member]
        rfl
      · intro entry among _
        rw [List.mem_singleton.mp among]
        exact Attempt.known_of_fate rfl nofun
  | @refuses id door batch outcome job _ counts _ error ended =>
      have member : id ∈ Attempt.numbers attempts := by
        rw [books.underWay]
        exact (mem_submitters distinct).mpr ⟨_, job, rfl⟩
      have refused := Attempt.fate?_of_error error
      rcases Attempt.counted_of_refused refused with ⟨none, one⟩
      rw [ended] at underWay learns ⊢
      refine ⟨counts.capacity.trans books.capacity_eq, ?_, ?_, underWay, learns ?_⟩
      · rw [counts.submitted, books.submitted,
          Attempt.countP_learn_one _ (fun _ => rfl) once member, none]
        rfl
      · rw [counts.rejected, books.rejected,
          Attempt.countP_learn_one _ (fun _ => rfl) once member, one]
        rfl
      · intro entry among _
        rw [List.mem_singleton.mp among]
        exact Attempt.known_of_closed refused

/-- At every moment the counters say what the submitters know. -/
theorem Attempts.books (history : Attempts origin attempts reached) (vacant : origin.Vacant)
    (made : origin.source = .buffered (.empty capacity)) :
    ∃ queue, reached.source = .buffered queue ∧ Books (max capacity 1) attempts reached queue := by
  induction history with
  | begins => exact ⟨_, made, vacant.books capacity⟩
  | tries door batch _ inductionHypothesis =>
      rcases inductionHypothesis with ⟨queue, buffered, books⟩
      exact books.tries buffered door batch
  | enters door batch _ _ inductionHypothesis =>
      rcases inductionHypothesis with ⟨queue, buffered, books⟩
      refine ⟨queue, ?_, books.enters _ door batch⟩
      rw [wake_eq]
      exact buffered
  | goesOn besides earlier inductionHypothesis =>
      rcases inductionHypothesis with ⟨queue, buffered, books⟩
      rcases vacant.happens earlier.happens with ⟨_, _, civil⟩
      cases buffered.symm.trans civil.buffered
      rcases civil.treatment besides with ⟨next, treatment⟩
      exact ⟨next, treatment.source, books.learns civil.composed.distinct treatment⟩

/-! ## Who closes the queue -/

/-- The queue is open, and with what happens it is closed. -/
def Closes (before after : Deployment) : Prop :=
  Happening before after ∧ ∃ queue, before.source = .buffered queue ∧ queue.isOpen = true ∧
    after.source = .buffered queue.close.2

theorem Crowd.Step.isOpen {before after : Crowd} (step : before.Step after) :
    after.queue.isOpen = before.queue.isOpen ∨ after.queue = before.queue.close.2 := by
  cases step with
  | stirs _ | comes _ _ | dooms _ | approaches _ _ => exact Or.inl rfl
  | offers batch => exact Or.inl (before.queue.isOpen_trySubmit batch)
  | closes => exact Or.inr rfl
  | turn _ _ acts _ _ =>
      cases acts with
      | closes => exact Or.inr rfl
      | withdraws => exact Or.inl (before.queue.isOpen_withdraw _)
      | _ => exact Or.inl rfl

/-- A queue that is closed has been closed by somebody. -/
theorem exists_closes (vacant : origin.Vacant) (happens : Happens origin reached)
    (shut : reached.Shut) :
    ∃ before after, Happens origin before ∧ Closes before after ∧ Happens after reached := by
  induction happens with
  | refl =>
      rcases shut with ⟨queue, buffered, closed⟩
      rcases vacant.unstarted.buffered with ⟨capacity, empty⟩
      cases buffered.symm.trans empty
      cases closed
  | @tail before after earlier happening inductionHypothesis =>
      rcases vacant.happens earlier with ⟨queue, _, civil⟩
      cases isOpen : queue.isOpen with
      | false =>
          rcases inductionHypothesis ⟨queue, civil.buffered, isOpen⟩ with
            ⟨first, second, happened, closes, further⟩
          exact ⟨first, second, happened, closes, further.tail happening⟩
      | true =>
          rcases happening.follows civil.composed civil.buffered with ⟨next, buffered, step⟩
          refine ⟨before, after, earlier, ⟨happening, queue, civil.buffered, isOpen, ?_⟩, .refl⟩
          rcases shut with ⟨other, source, closed⟩
          cases source.symm.trans buffered
          rcases Crowd.Step.isOpen step with same | shut
          · have same : next.isOpen = queue.isOpen := same
            rw [closed, isOpen] at same
            cases same
          · exact buffered.trans (congrArg Source.buffered shut)

/-! ## The accounts -/

theorem Merges.length_eq {left right merged : List Batch} (merges : Merges left right merged) :
    merged.length = left.length + right.length := by
  induction merges with
  | nil => rfl
  | left _ _ inductionHypothesis | right _ _ inductionHypothesis =>
      simp only [List.length_append, List.length_singleton, inductionHypothesis]
      omega

/-- When nobody can act, whoever is still under way with a submission waits for a slot. -/
theorem Civil.waiting {sitter : Option Actor} (civil : reached.Civil queue sitter)
    (impends : reached.Impends) (settled : reached.Settled) {id : Nat}
    (member : id ∈ reached.submitters) :
    ∃ door batch, reached.job? id = some ⟨.submit door batch true, false⟩ := by
  have nobody {actor : Actor} : actor ∉ reached.ready := by
    rw [settled]
    exact List.not_mem_nil
  rcases (mem_submitters civil.composed.distinct).mp member with ⟨⟨call, doomed⟩, known, submits⟩
  cases doomed with
  | true => exact absurd (impends id call known) nobody
  | false =>
      cases call with
      | submit door batch begun =>
          cases begun with
          | true => exact ⟨door, batch, known⟩
          | false =>
              have begins : reached.role (.caller id) = .submits false := role_of_job? known
              exact absurd (civil.reserved.fresh (.caller id) begins) nobody
      | _ => cases submits

/-- A submission under way is refused only where it begins, and only because the queue is closed. -/
theorem Civil.refused_late {sitter : Option Actor} (civil : reached.Civil queue sitter)
    (happening : Happening reached after) {id : Nat} {outcome : Outcome} {error : FailureError}
    (ended : (id, outcome) ∈ reached.ended after) (member : id ∈ reached.submitters)
    (failed : outcome.error? = some error) :
    error = .queueClosed ∧ queue.isOpen = false ∧
      ∃ door batch, reached.job? id = some ⟨.submit door batch false, false⟩ := by
  have nothing (outcomes : after.outcomes = reached.outcomes) : False := by
    rw [ended_of_same outcomes] at ended
    cases ended
  cases happening.occasion with
  | tries door batch same =>
      refine (nothing ?_).elim
      rw [same]
      exact (submitNow_outside civil.buffered door batch.draft).outcomes
  | enters other door batch same =>
      refine (nothing ?_).elim
      rw [same, wake_eq]
      rfl
  | besides besides =>
      rcases civil.treatment besides with ⟨next, treatment⟩
      cases treatment.treats with
      | aside _ _ ends =>
          have aborted : outcome = .aborted := ends _ ended member
          rw [aborted] at failed
          cases failed
      | accepts _ _ _ _ alone =>
          rw [alone, List.mem_singleton] at ended
          cases ended
          cases failed
      | refuses job closed _ _ known alone =>
          rw [alone, List.mem_singleton] at ended
          cases ended
          exact ⟨(Option.some.inj (known.symm.trans failed)).symm, closed, _, _, job⟩

/-- The counters of a queue, what its submitters know, and what is in its buffer. -/
structure Accounted (origin : Deployment) (capacity : Nat) (attempts : List Attempt)
    (reached : Deployment) (queue : SubmissionQueue Actor Batch) : Prop where
  /-- Every submission has met with one of the four fates. -/
  known : ∀ attempt ∈ attempts, attempt.Known queue.capacity
  submitted : queue.submitted = attempts.countP Attempt.isAccepted
  rejected : queue.rejected = attempts.countP Attempt.isRefused
  total : attempts.length =
    queue.submitted + queue.rejected + reached.submitters.length +
      attempts.countP Attempt.isAborted
  underWay : Attempt.numbers attempts = reached.submitters
  /-- When nobody can act, the submissions under way are those that wait for a slot. -/
  waiting : reached.Settled → ∀ id ∈ reached.submitters,
    ∃ door batch, reached.job? id = some ⟨.submit door batch true, false⟩
  /-- What has been taken has been returned by a call or is the worker's. -/
  consumed : queue.consumed = reached.returned.length + reached.journal.begun.length
  /-- The difference of the counters is the number of batches that wait. -/
  size : queue.consumed ≤ queue.submitted ∧ queue.size = queue.buffer.length
  room : queue.size ≤ queue.capacity ∧ queue.capacity = max capacity 1
  /-- No counter overflows before there have been as many submissions. -/
  counters : attempts.length < UInt64.size →
    queue.submitted < UInt64.size ∧ queue.consumed < UInt64.size ∧ queue.rejected < UInt64.size
  /-- Who does not wait is refused because the queue is closed or full. -/
  answers : ∀ (door : Door) (batch : Batch),
    (reached.submitNow door batch.draft).1 = .ok ∨
      (reached.submitNow door batch.draft).1 = refusal door .queueClosed ∧ queue.isOpen = false ∨
      (reached.submitNow door batch.draft).1 = refusal door (.queueFull queue.capacity) ∧
        queue.isOpen = true
  /-- Who would wait is refused where he begins, because the queue is closed. -/
  late : ∀ after, Happening reached after → ∀ id outcome error,
    (id, outcome) ∈ reached.ended after → id ∈ reached.submitters →
      outcome.error? = some error → error = .queueClosed ∧ queue.isOpen = false ∧
        ∃ door batch, reached.job? id = some ⟨.submit door batch false, false⟩
  /-- A queue is closed if somebody has closed it. -/
  closed : queue.isOpen = false →
    ∃ before after, Happens origin before ∧ Closes before after ∧ Happens after reached

/-- Whatever happens at a queue, and at any moment of it, the counters agree with what those know
who have submitted to it, and their difference with the buffer.  Nobody is refused but for one of
the two reasons, and nobody at all once his submission has begun to wait. -/
theorem counters_tell_the_truth {origin : Deployment} (vacant : origin.Vacant) {capacity : Nat}
    (made : origin.source = .buffered (.empty capacity)) {attempts : List Attempt}
    {reached : Deployment} (history : Attempts origin attempts reached) :
    ∃ queue, reached.source = .buffered queue ∧
      Accounted origin capacity attempts reached queue := by
  have happens := history.happens
  rcases history.books vacant made with ⟨queue, buffered, books⟩
  rcases vacant.happens happens with ⟨_, sitter, civil⟩
  cases buffered.symm.trans civil.buffered
  rcases reaches_conserves vacant.unstarted happens.reaches with ⟨_, source, conserved⟩
  cases buffered.symm.trans source
  have roomy : queue.Roomy := civil.reserved.roomy
  have merges := Merges.length_eq (reaches_attributes vacant.unstarted happens.reaches).merges
  have lengths := congrArg List.length conserved.batches
  rw [List.length_append, ← conserved.consumed, ← conserved.submitted] at lengths
  have total := Attempt.length_eq books.known
  rw [← books.submitted, ← books.rejected,
    show attempts.filterMap Attempt.number? = reached.submitters from books.underWay] at total
  have size : queue.size = queue.buffer.length := by
    rw [SubmissionQueue.size]
    omega
  refine ⟨queue, buffered, ?_⟩
  refine ⟨?_, books.submitted, books.rejected, total, books.underWay, ?_, ?_, ⟨?_, size⟩, ⟨?_, ?_⟩,
    ?_, ?_, ?_, ?_⟩
  · rw [books.capacity_eq]
    exact books.known
  · exact fun settled id member => civil.waiting (vacant.impends happens) settled member
  · exact conserved.consumed.trans merges
  · omega
  · rw [size, ← roomy.measured]
    exact Nat.le_add_left _ _
  · exact books.capacity_eq
  · intro few
    refine ⟨?_, ?_, ?_⟩ <;> omega
  · intro door batch
    rcases submitNow_replies buffered door batch with ⟨next, _, _, replies⟩
    generalize (reached.submitNow door batch.draft).1 = reply at replies ⊢
    cases replies with
    | accepted _ => exact Or.inl rfl
    | closed closed _ => exact Or.inr (Or.inl ⟨rfl, closed⟩)
    | full isOpen _ => exact Or.inr (Or.inr ⟨rfl, isOpen⟩)
  · exact fun after happening id outcome error ended member failed =>
      civil.refused_late happening ended member failed
  · exact fun closed => exists_closes vacant happens ⟨queue, buffered, closed⟩

end Attempting

/-- One batch is accepted at once, one when the first has been taken.  Somebody is refused because
the queue is full, another gives up waiting, and a third still waits when the queue is closed and
the last is refused. -/
def frequented : Deployment :=
  (narrow.run 0 [some (.trySubmit .single), some (.submitDirectly .single),
    some (.trySubmit .single), some (.consume "stop"), some (.submitDirectly .single),
    some (.abort 4), some (.submitDirectly .single), some .close, some (.trySubmit .single)]).2

/-- How many submissions the queue has accepted and how many it has refused. -/
def tallies (deployment : Deployment) : Nat × Nat :=
  match deployment.source with
  | .buffered queue => (queue.submitted, queue.rejected)
  | .scripted _ => (0, 0)

/-- Two submitters know that they were accepted, two that they were refused, and one waits. -/
theorem counters_tell_the_truth_frequented :
    narrow.source = .buffered (.empty 1) ∧ frequented.Settled ∧
      ∃ attempts, Attempts narrow attempts frequented ∧
        attempts.countP Attempt.isAccepted = 2 ∧ attempts.countP Attempt.isRefused = 2 ∧
        Attempt.numbers attempts = [6] ∧ ∀ attempt ∈ attempts, attempt.Known 1 := by
  have made : ofQueue 1 = .ok narrow := rfl
  have happens : Happens narrow frequented :=
    happens_run unstarted_narrow.onCourse unstarted_narrow.numbered _
  have settled : frequented.Settled := by decide +kernel
  have told : frequented.tallies = (2, 2) := by decide +kernel
  have waiting : frequented.submitters = [6] := by decide +kernel
  rcases exists_attempts (vacant_ofQueue made) happens with ⟨attempts, history⟩
  rcases counters_tell_the_truth (vacant_ofQueue made) rfl history with
    ⟨queue, buffered, accounted⟩
  rw [tallies, buffered] at told
  refine ⟨rfl, settled, attempts, history, ?_, ?_, accounted.underWay.trans waiting, ?_⟩
  · exact accounted.submitted.symm.trans (congrArg Prod.fst told)
  · exact accounted.rejected.symm.trans (congrArg Prod.snd told)
  · rw [← show queue.capacity = 1 from accounted.room.2]
    exact accounted.known

end Deployment
end FailureDispatch

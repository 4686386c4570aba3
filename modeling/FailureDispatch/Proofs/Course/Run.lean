import FailureDispatch.Proofs.Course.Sound

/-!
# Runs consist of moves

Whatever a run does, `Move` admits: a step from outside is an act, or settles,
or lets time pass, or begins a call between two settlings.  So a statement
about everything that is reached by moves holds of every run, after each of
its steps and in the middle of each of them.
-/

namespace FailureDispatch

namespace Step

/-- Whether the step begins a call that takes batches from the queue. -/
def consumes : Step → Bool
  | consume _ | consumeWithin _ => true
  | _ => false

/-- Whether the step gives the handle, or the runtime, to a call. -/
def isJoin : Step → Bool
  | join | shutdown => true
  | _ => false

end Step

/-- The interface through which a handle or a runtime is given away. -/
def Holder.door? : Holder → Option Door
  | .nobody => none
  | .handle => some .service
  | .runtime => some .runtime

/-- Nobody can give away what he does not hold. -/
theorem Holder.ne_nobody {holder : Holder} {door : Door} (held : holder.door? = some door) :
    holder ≠ .nobody := by
  intro nobody
  rw [nobody] at held
  cases held

namespace Deployment

/-! ## Settling and time -/

theorem reaches_settle (others : Bool) (deployment : Deployment) :
    Reaches others deployment deployment.settle := by
  apply settle_keeps
  · intro reached reaches
    exact reaches.tail .turn
  · exact .refl

theorem reaches_clock (others : Bool) (deployment : Deployment) {time : Nat}
    (later : deployment.now ≤ time) : Reaches others deployment { deployment with now := time } :=
  .single (.act (.clock time [] later))

theorem reaches_passTime (others : Bool) (remaining : Nat) (deployment : Deployment) :
    Reaches others deployment (passTime remaining deployment) := by
  fun_induction passTime remaining deployment with
  | case1 => exact reaches_clock others _ (Nat.le_add_right _ _)
  | case2 remaining deployment time _ due inductionHypothesis =>
      have rung : Move others deployment (deployment.ring time) :=
        .act (.clock time _ (Nat.le_of_lt due.1))
      exact ((Relation.ReflTransGen.single rung).trans (reaches_settle others _)).trans
        inductionHypothesis
  | case3 => exact reaches_clock others _ (Nat.le_add_right _ _)

theorem reaches_advance (others : Bool) (deployment : Deployment) (duration : Nat) :
    Reaches others deployment (deployment.advance duration) :=
  (reaches_settle others deployment).trans (reaches_passTime others duration _)

/-- What every turn keeps on course is kept by settling. -/
theorem OnCourse.keeps_settle {property : Deployment → Prop} {before : Deployment}
    (sound : before.OnCourse)
    (ticks : ∀ deployment, deployment.OnCourse → property deployment → property deployment.tick)
    (holds : property before) : before.settle.OnCourse ∧ property before.settle := by
  have keeps (deployment : Deployment) (holds : deployment.OnCourse ∧ property deployment) :
      deployment.tick.OnCourse ∧ property deployment.tick :=
    ⟨holds.1.tick, ticks deployment holds.1 holds.2⟩
  exact settle_keeps keeps ⟨sound, holds⟩

/-- What every turn and every act keep on course is kept while time passes. -/
theorem OnCourse.keeps_passTime {property : Deployment → Prop} {before : Deployment}
    (sound : before.OnCourse)
    (ticks : ∀ deployment, deployment.OnCourse → property deployment → property deployment.tick)
    (acts : ∀ deployment later, deployment.OnCourse → Act deployment later →
      property deployment → property later)
    (holds : property before) (remaining : Nat) : property (passTime remaining before) := by
  fun_induction passTime remaining before with
  | case1 | case3 => exact acts _ _ sound (.clock _ [] (Nat.le_add_right _ _)) holds
  | case2 remaining before time _ due inductionHypothesis =>
      have rung : Act before (before.ring time) := .clock time _ (Nat.le_of_lt due.1)
      have settled := (sound.act rung).keeps_settle ticks (acts _ _ sound rung holds)
      exact inductionHypothesis settled.1 settled.2

/-- What every turn keeps, and every change of the clock and of the line, is kept while
time passes. -/
theorem passTime_keeps {property : Deployment → Prop}
    (ticks : ∀ deployment, property deployment → property deployment.tick)
    (around : ∀ deployment now ready, property deployment →
      property { deployment with now, ready })
    {before : Deployment} (holds : property before) (remaining : Nat) :
    property (passTime remaining before) := by
  fun_induction passTime remaining before with
  | case1 | case3 => exact around _ _ _ holds
  | case2 remaining before time _ _ inductionHypothesis =>
      have rung : property (before.ring time) := by
        rw [ring, wakeAll_eq]
        exact around before time _ holds
      exact inductionHypothesis (settle_keeps ticks rung)

/-! ## Numbers -/

/-- Every call, under way or ended, has a number below the bound. -/
def Numbered (bound : Nat) (deployment : Deployment) : Prop :=
  (∀ entry ∈ deployment.jobs, entry.1 < bound) ∧
    ∀ ended ∈ deployment.outcomes, ended.1 < bound

namespace Numbered

variable {bound : Nat} {before : Deployment}

theorem mono {higher : Nat} (numbered : Numbered bound before) (le : bound ≤ higher) :
    Numbered higher before :=
  ⟨fun entry member => Nat.lt_of_lt_of_le (numbered.1 entry member) le,
    fun ended member => Nat.lt_of_lt_of_le (numbered.2 ended member) le⟩

theorem caller_turn {queue : SubmissionQueue Actor Batch} {id : Nat} {after : Deployment}
    (numbered : Numbered bound before) (turn : CallerTurn before queue id after)
    (buffered : before.source = .buffered queue) : Numbered bound after := by
  constructor
  · intro entry member
    rcases turn.jobs entry member with old | ⟨same, _, job, present, _⟩
    · exact numbered.1 entry old
    · rw [same]
      exact numbered.1 _ (mem_of_job? present)
  · intro ended member
    rcases turn.outcomes buffered with same | ⟨job, outcome, present, _, same⟩
    · rw [same] at member
      exact numbered.2 ended member
    · rw [same] at member
      rcases List.mem_append.mp member with old | new
      · exact numbered.2 ended old
      · rw [List.mem_singleton.mp new]
        exact numbered.1 _ (mem_of_job? present)

theorem tick (sound : before.OnCourse) (numbered : Numbered bound before) :
    Numbered bound before.tick := by
  rcases sound.buffered with ⟨queue, buffered⟩
  have turned := tick_turned buffered sound.course
  generalize before.tick = after at turned ⊢
  cases turned with
  | nobody => exact numbered
  | @worker _ progress _ _ _ _ gates _ turn => cases progress <;> exact numbered
  | caller _ turn =>
      have kept := numbered.caller_turn turn buffered
      exact ⟨kept.1, kept.2⟩

theorem settle (sound : before.OnCourse) (numbered : Numbered bound before) :
    before.settle.OnCourse ∧ Numbered bound before.settle :=
  sound.keeps_settle (fun _ course kept => kept.tick course) numbered

theorem act {after : Deployment} (sound : before.OnCourse) (numbered : Numbered bound before)
    (act : Act before after) : Numbered bound after := by
  rcases sound.buffered with ⟨queue, buffered⟩
  have outside := act.outside buffered
  unfold Numbered
  rw [outside.jobs, outside.outcomes]
  exact numbered

theorem passTime (sound : before.OnCourse) (numbered : Numbered bound before) (remaining : Nat) :
    Numbered bound (Deployment.passTime remaining before) :=
  sound.keeps_passTime (fun _ course kept => kept.tick course)
    (fun _ _ course act kept => kept.act course act) numbered remaining

theorem abort (numbered : Numbered bound before) {other : Nat} {job : Job}
    (known : before.job? other = some job) (later : Job) :
    Numbered bound ((before.setJob other later).wake (.caller other)) := by
  rw [wake_eq]
  refine ⟨?_, numbered.2⟩
  intro entry member
  rcases mem_setJob member with ⟨old, _⟩ | same
  · exact numbered.1 entry old
  · have below := numbered.1 _ (mem_of_job? known)
    rw [same]
    exact below

end Numbered

/-! ## Steps -/

/-- An act that a step asks for by name.  It wakes only those whom it concerns. -/
inductive Request (before : Deployment) : Deployment → Prop where
  | release (gate : String) (count : Nat) :
      Request before
        ((before.setGate gate ((before.gate gate).release count).2).wakeAll
          ((before.gate gate).release count).1)
  | cancel (token : String) :
      Request before
        ({ before with cancelled := token :: before.cancelled }.wakeAll
          (before.callersWith (Call.usesToken token)))
  | submitNow (door : Door) (draft : Draft) : Request before (before.submitNow door draft).2
  | close {queue : SubmissionQueue Actor Batch} (buffered : before.source = .buffered queue) :
      Request before (before.adopt queue.close.1 queue.close.2)
  | logStats (tag : String) : Request before (before.logStats tag)
  | start : Request before before.start.2
  | stop (held : before.holder ≠ .nobody) : Request before before.requestStop
  | drop : Request before before.dropHolder
  | watch (watches : List (String × Nat)) : Request before { before with watches }

theorem Request.act {before after : Deployment} (request : Request before after) :
    Act before after := by
  cases request with
  | release gate count => exact .release gate count
  | cancel token => exact .cancel token
  | submitNow door draft => exact .submitNow door draft
  | close buffered => exact .close buffered
  | logStats tag => exact .logStats tag
  | start => exact .start
  | stop held => exact .stop held
  | drop => exact .drop
  | watch watches => exact .watch watches

/-- A request as a step makes it: the clock stands still, a handle comes only
from a start, and whoever holds a runtime cannot stop it without letting go of
it. -/
structure AtOnce (before after : Deployment) : Prop where
  request : Request before after
  still : after.now = before.now
  holder : after.holder = before.holder ∨ after.holder = .nobody ∨ before.service.state = .new
  untold : after.holder = .runtime → after.service.stopRequested = before.service.stopRequested
  /-- Only whoever holds the service can stop it, and only a start gives it to somebody. -/
  custody : (after.holder = before.holder ∧ after.service = before.service) ∨
    (before.holder ≠ .nobody ∧ after.service.stopRequested = true) ∨
      (before.service.state = .new ∧ after.holder = .handle)

theorem AtOnce.act {before after : Deployment} (atOnce : AtOnce before after) :
    Act before after :=
  atOnce.request.act

/-- A request that touches neither the service nor its holder. -/
theorem AtOnce.quiet {before after : Deployment} (request : Request before after)
    (still : after.now = before.now) (holder : after.holder = before.holder)
    (service : after.service = before.service) : AtOnce before after :=
  ⟨request, still, Or.inl holder, fun _ => congrArg Service.stopRequested service,
    Or.inl ⟨holder, service⟩⟩

/-- What a step comes to.  A call begins between two settlings; the handle
leaves its holder before the first of them. -/
inductive Taken (before : Deployment) (id : Nat) (step : Step) : Deployment → Prop where
  | acts {after} (atOnce : AtOnce before after)
      (lets : after.holder = .nobody → before.holder = .nobody ∨ step = .drop) :
      Taken before id step after
  | settles : Taken before id step before.settle
  | advances (duration : Nat) : Taken before id step (before.advance duration)
  | aborts {other job} (asked : step = .abort other) (known : before.job? other = some job) :
      Taken before id step
        ((before.setJob other { job with doomed := true }).wake (.caller other)).settle
  | begins {call} (new : call.isNew = true) (joins : call.isJoin = step.isJoin)
      (consumes : call.place?.isSome = step.consumes) (single : call.isJoin = false) :
      Taken before id step (before.spawn id call)
  | joins {door stopFirst} (held : before.holder.door? = some door) (asked : step.isJoin = true) :
      Taken before id step ({ before with holder := .nobody }.spawn id (.join door stopFirst))

/-- A step that touches neither the service nor its holder. -/
theorem Taken.quiet {before after : Deployment} {id : Nat} {step : Step}
    (request : Request before after)
    (still : after.now = before.now) (holder : after.holder = before.holder)
    (service : after.service = before.service) : Taken before id step after :=
  .acts (.quiet request still holder service) fun nobody => Or.inl (holder.symm.trans nobody)

theorem Taken.unmoved {before : Deployment} {id : Nat} {step : Step} :
    Taken before id step before :=
  .quiet (.watch before.watches) rfl rfl rfl

theorem spawnJoin_taken {before : Deployment} (id : Nat) (stopFirst : Bool) {step : Step}
    (joins : step.isJoin = true) :
    Taken before id step (before.spawnJoin id stopFirst).2 := by
  unfold spawnJoin
  split
  · exact .unmoved
  · next holder => exact .joins (by rw [holder]; rfl) joins
  · next holder =>
    split
    · exact .joins (by rw [holder]; rfl) joins
    · exact .unmoved

theorem start_atOnce (before : Deployment) : AtOnce before before.start.2 := by
  cases can : before.service.state.canBecome .starting with
  | true =>
      have new : before.service.state = .new := by
        cases state : before.service.state <;> first | rfl | (rw [state] at can; cases can)
      refine ⟨.start, ?_, Or.inr (Or.inr new), ?_, Or.inr (Or.inr ⟨new, ?_⟩)⟩
      · simp only [start, enter_of_canBecome can, setWorker, wake_eq]
      · intro _
        simp only [start, enter_of_canBecome can, setWorker, wake_eq]
      · simp only [start, enter_of_canBecome can, setWorker, wake_eq]
  | false =>
      have same : before.start.2 = before := by simp only [start, enter_of_cannot can]
      refine .quiet .start ?_ ?_ ?_ <;> rw [same]

/-- A start takes the handle from nobody. -/
theorem holder_of_start {before : Deployment} (nobody : before.start.2.holder = .nobody) :
    before.holder = .nobody := by
  unfold start at nobody
  cases can : before.service.state.canBecome .starting with
  | true =>
      simp only [enter_of_canBecome can, setWorker, wake_eq] at nobody
      cases nobody
  | false =>
      simp only [enter_of_cannot can] at nobody
      exact nobody

theorem stop_atOnce {before : Deployment} (handle : before.holder = .handle) :
    AtOnce before before.requestStop := by
  rcases requestStop_eq before with ⟨_, _, _, _, same⟩
  have held : before.holder ≠ .nobody := by
    rw [handle]
    intro impossible
    cases impossible
  refine ⟨.stop held, ?_, ?_, ?_, Or.inr (Or.inl ⟨held, ?_⟩)⟩
  · rw [same]
  · rw [same]
    exact Or.inl rfl
  · rw [same]
    intro runtime
    rw [show before.holder = .runtime from runtime] at handle
    cases handle
  · rw [same]

theorem drop_atOnce (before : Deployment) : AtOnce before before.dropHolder := by
  cases holder : before.holder with
  | nobody =>
      have same : before.dropHolder = before := by simp only [dropHolder, holder]
      refine .quiet .drop ?_ ?_ ?_ <;> rw [same]
  | handle | runtime =>
      have same : before.dropHolder = requestStop { before with holder := .nobody } := by
        simp only [dropHolder, holder]
      rcases requestStop_eq { before with holder := .nobody } with ⟨_, _, _, _, told⟩
      have held : before.holder ≠ .nobody := by
        rw [holder]
        intro impossible
        cases impossible
      refine ⟨.drop, ?_, Or.inr (Or.inl ?_), ?_, Or.inr (Or.inl ⟨held, ?_⟩)⟩
      · rw [same, told]
      · rw [same, told]
      · rw [same, told]
        intro impossible
        cases impossible
      · rw [same, told]

section Steps

variable {before : Deployment} (id : Nat)

theorem submitNow_taken (door : Door) (draft : Draft) {step : Step} :
    Taken before id step (before.submitNow door draft).2 := by
  refine .quiet (.submitNow door draft) ?_ ?_ ?_
  all_goals
    rcases submitNow_cases before door draft with
      same | ⟨queue, woken, next, batch, entry, _, _, same⟩ <;> rw [same]
    simp only [adopt_eq, note]

theorem spawnSubmission_taken (door : Door) (draft : Draft) {step : Step}
    (joins : step.isJoin = false) (consumes : step.consumes = false) :
    Taken before id step (before.spawnSubmission id door draft).2 := by
  unfold spawnSubmission
  cases before.source with
  | scripted queue => exact .unmoved
  | buffered queue =>
      cases draft.build with
      | error error => exact .unmoved
      | ok batch => exact .begins rfl joins.symm consumes.symm rfl

theorem spawnOnQueue_taken {call : Call} {step : Step} (new : call.isNew = true)
    (joins : call.isJoin = step.isJoin) (consumes : call.place?.isSome = step.consumes)
    (single : call.isJoin = false) : Taken before id step (before.spawnOnQueue id call).2 := by
  unfold spawnOnQueue
  cases before.source with
  | scripted queue => exact .unmoved
  | buffered queue => exact .begins new joins consumes single

/-- Every step is of one of the kinds, whatever the queue is. -/
theorem take_taken (step : Step) : Taken before id step (before.take id step).2 := by
  have wakes {changed : Deployment} {actors : List Actor}
      (request : Request before (changed.wakeAll actors))
      (still : changed.now = before.now) (holder : changed.holder = before.holder)
      (service : changed.service = before.service) :
      Taken before id step (changed.wakeAll actors) := by
    refine .quiet request ?_ ?_ ?_
    · rw [wakeAll_eq]
      exact still
    · rw [wakeAll_eq]
      exact holder
    · rw [wakeAll_eq]
      exact service
  cases step with
  | settle => exact .settles
  | advance duration => exact .advances duration
  | release gate count => exact wakes (.release gate count) rfl rfl rfl
  | cancel token =>
      simp only [take]
      split
      · exact .unmoved
      · exact wakes (.cancel token) rfl rfl rfl
  | abort other =>
      simp only [take]
      split
      · exact .unmoved
      · next known => exact .aborts rfl known
  | trySubmit draft => exact submitNow_taken id before.door draft
  | trySubmitDirectly draft => exact submitNow_taken id .service draft
  | submit draft => exact spawnSubmission_taken id before.door draft rfl rfl
  | submitDirectly draft => exact spawnSubmission_taken id .service draft rfl rfl
  | consume token => exact spawnOnQueue_taken id rfl rfl rfl rfl
  | consumeWithin wait => exact spawnOnQueue_taken id rfl rfl rfl rfl
  | close =>
      simp only [take]
      cases source : before.source with
      | scripted queue => exact .unmoved
      | buffered queue => exact wakes (.close source) rfl rfl rfl
  | logStats tag =>
      have acts : Taken before id (.logStats tag) (before.logStats tag) := by
        refine .quiet (.logStats tag) ?_ ?_ ?_ <;> rw [logStats_eq] <;> rfl
      simp only [take]
      cases before.source with
      | scripted queue => exact .unmoved
      | buffered queue => exact acts
  | start =>
      have same : (before.take id .start).2 = before.start.2 := by
        simp only [take]
        split <;> next started => rw [started]
      rw [same]
      exact .acts (start_atOnce before) fun nobody => Or.inl (holder_of_start nobody)
  | stop =>
      simp only [take]
      split
      · next holder =>
        refine .acts (stop_atOnce holder) fun nobody => Or.inl ?_
        rcases requestStop_eq before with ⟨_, _, _, _, same⟩
        rw [same] at nobody
        exact nobody
      · exact .unmoved
      · exact .unmoved
  | drop => exact .acts (drop_atOnce before) fun _ => Or.inr rfl
  | join => exact spawnJoin_taken id false rfl
  | shutdown => exact spawnJoin_taken id true rfl
  | awaitRunning => exact .begins rfl rfl rfl rfl
  | awaitTerminated => exact .begins rfl rfl rfl rfl
  | viewHandle =>
      simp only [take]
      split <;> exact .unmoved
  | viewRuntime =>
      simp only [take]
      split <;> exact .unmoved
  | watch name => exact .quiet (.watch _) rfl rfl rfl
  | pollWatch name =>
      simp only [take]
      split
      · exact .unmoved
      · exact .quiet (.watch _) rfl rfl rfl

end Steps

/-! ## Runs -/

section Runs

variable {others : Bool} {before after : Deployment} {id : Nat}

theorem started_settle (sound : before.OnCourse) (started : before.service.state ≠ .new) :
    before.settle.service.state ≠ .new :=
  (sound.keeps_settle (fun _ course kept => course.tick_started kept) started).2

/-- A call begins in a settled deployment, under a number that no other has. -/
theorem begins_settled (sound : before.OnCourse) (numbered : Numbered id before) {call : Call}
    (new : call.isNew = true) (consumes : call.place?.isSome = true → others = true)
    (started : call.isJoin = true → before.service.state ≠ .new) :
    Move others before.settle ((before.settle.addJob id call).wake (.caller id)) ∧
      Numbered (id + 1) ((before.settle.addJob id call).wake (.caller id)) := by
  rcases numbered.settle sound with ⟨soundSettled, numberedSettled⟩
  constructor
  · apply Move.begins
    · intro entry member
      exact Nat.ne_of_lt (numberedSettled.1 entry member)
    · exact ⟨new, consumes, fun joins => started_settle sound (started joins)⟩
  · rw [wake_eq]
    have below := numberedSettled.mono (Nat.le_succ id)
    refine ⟨?_, below.2⟩
    intro entry member
    rcases List.mem_append.mp member with old | new
    · exact below.1 entry old
    · rw [List.mem_singleton.mp new]
      exact Nat.lt_succ_self id

theorem reaches_spawn (sound : before.OnCourse) (numbered : Numbered id before) {call : Call}
    (new : call.isNew = true) (consumes : call.place?.isSome = true → others = true)
    (started : call.isJoin = true → before.service.state ≠ .new) :
    Reaches others before (before.spawn id call) ∧ Numbered (id + 1) (before.spawn id call) := by
  rcases begins_settled sound numbered new consumes started with ⟨move, later⟩
  have begun := (numbered.settle sound).1.move move
  constructor
  · exact ((reaches_settle others before).tail move).trans (reaches_settle others _)
  · exact (later.settle begun).2

/-- What a step comes to is reached by moves. -/
theorem Taken.reaches {step : Step} (taken : Taken before id step after)
    (sound : before.OnCourse) (numbered : Numbered id before)
    (admitted : step.consumes = true → others = true) :
    Reaches others before after ∧ Numbered (id + 1) after := by
  have higher := Nat.le_succ id
  cases taken with
  | acts atOnce _ =>
      exact ⟨.single (.act atOnce.act), (numbered.act sound atOnce.act).mono higher⟩
  | settles => exact ⟨reaches_settle others before, (numbered.settle sound).2.mono higher⟩
  | advances duration =>
      rcases numbered.settle sound with ⟨soundSettled, numberedSettled⟩
      exact ⟨reaches_advance others before duration,
        (numberedSettled.passTime soundSettled duration).mono higher⟩
  | aborts _ known =>
      have move : Move others before _ := .abort known
      have numberedThere := (numbered.abort known _).settle (sound.move move)
      exact ⟨(Relation.ReflTransGen.single move).trans (reaches_settle others _),
        numberedThere.2.mono higher⟩
  | begins new joins consumes single =>
      apply reaches_spawn sound numbered new
      · intro wants
        exact admitted (consumes.symm.trans wants)
      · intro wants
        rw [single] at wants
        cases wants
  | @joins door stopFirst given asked =>
      have held := Holder.ne_nobody given
      have handed : Act before { before with holder := .nobody } := .handOver .nobody held
      have apart : (Call.join door stopFirst).place?.isSome = true → others = true := by
        intro wants
        cases wants
      rcases reaches_spawn (sound.act handed) (numbered.act sound handed) rfl apart
        (fun _ => sound.held held) with ⟨reached, numberedThere⟩
      exact ⟨(Relation.ReflTransGen.single (.act handed)).trans reached, numberedThere⟩

/-- A run that consumes only if others may consume is made of moves, and gives
every step a number of its own. -/
theorem reaches_run_numbered (sound : before.OnCourse) (numbered : Numbered id before)
    (steps : List (Option Step))
    (admitted : ∀ step, some step ∈ steps → step.consumes = true → others = true) :
    Reaches others before (before.run id steps).2 ∧
      Numbered (id + steps.length) (before.run id steps).2 := by
  induction steps generalizing id before with
  | nil => exact ⟨.refl, numbered⟩
  | cons step rest inductionHypothesis =>
      have later (step' : Step) (member : some step' ∈ rest) :
          step'.consumes = true → others = true :=
        admitted step' (List.mem_cons_of_mem _ member)
      have length : id + (step :: rest).length = id + 1 + rest.length := by
        rw [List.length_cons, Nat.add_assoc, Nat.add_comm 1]
      rw [length]
      cases step with
      | none => exact inductionHypothesis sound (numbered.mono (Nat.le_succ id)) later
      | some step =>
          have reached := (take_taken id step).reaches sound numbered
            (admitted step List.mem_cons_self)
          have rest := inductionHypothesis (sound.reaches reached.1) reached.2 later
          exact ⟨reached.1.trans rest.1, rest.2⟩

theorem reaches_run (sound : before.OnCourse) (numbered : Numbered id before)
    (steps : List (Option Step))
    (admitted : ∀ step, some step ∈ steps → step.consumes = true → others = true) :
    Reaches others before (before.run id steps).2 :=
  (reaches_run_numbered sound numbered steps admitted).1

/-- A run may be interrupted and resumed. -/
theorem run_append (before : Deployment) (id : Nat) (earlier later : List (Option Step)) :
    (before.run id (earlier ++ later)).2 =
      ((before.run id earlier).2.run (id + earlier.length) later).2 := by
  induction earlier generalizing id before with
  | nil => rfl
  | cons step rest inductionHypothesis =>
      have length : id + (step :: rest).length = id + 1 + rest.length := by
        rw [List.length_cons, Nat.add_assoc, Nat.add_comm 1]
      rw [length]
      cases step with
      | none => exact inductionHypothesis before (id + 1)
      | some step => exact inductionHypothesis (before.take id step).2 (id + 1)

end Runs

/-! ## Beginnings -/

/-- A service that nobody has started, over an empty queue that nobody uses. -/
structure Unstarted (deployment : Deployment) : Prop where
  buffered : ∃ capacity, deployment.source = .buffered (.empty capacity)
  worker : deployment.service.worker = .idle
  state : deployment.service.state = .new
  untold : deployment.service.stopRequested = false
  holder : deployment.holder = .nobody
  jobs : deployment.jobs = []
  outcomes : deployment.outcomes = []
  journal : deployment.journal.Plain

namespace Unstarted

variable {deployment : Deployment} (unstarted : deployment.Unstarted)
include unstarted

theorem onCourse : deployment.OnCourse where
  buffered := by
    rcases unstarted.buffered with ⟨capacity, same⟩
    exact ⟨_, same⟩
  course := ⟨.new, by rw [unstarted.worker]; rfl, unstarted.state, unstarted.untold⟩
  held := fun held => absurd unstarted.holder held
  joins := by
    intro entry member
    rw [unstarted.jobs] at member
    cases member

theorem numbered : Numbered 0 deployment := by
  constructor
  · intro entry member
    rw [unstarted.jobs] at member
    cases member
  · intro ended member
    rw [unstarted.outcomes] at member
    cases member

end Unstarted

/-- A bare queue comes with a service that nobody has started. -/
theorem unstarted_ofQueue {capacity : Nat} {deployment : Deployment}
    (made : ofQueue capacity = .ok deployment) : deployment.Unstarted := by
  unfold ofQueue SubmissionQueue.empty? at made
  split at made
  · next queue same =>
    split at same
    · cases same
      cases made
      exact ⟨⟨capacity, rfl⟩, rfl, rfl, rfl, rfl, rfl, rfl, .nil⟩
    · cases same
  · cases made

/-- A queue with room for one batch. -/
def narrow : Deployment := { source := .buffered (.empty 1) }

theorem unstarted_narrow : narrow.Unstarted := unstarted_ofQueue (show ofQueue 1 = .ok narrow from rfl)

/-- A service whose only handler waits at a gate, over a queue with room for two
batches. -/
def gated : Deployment where
  source := .buffered (.empty 2)
  service := { handlers := [⟨"slow", .scripted .all none ⟨[[.pass "door"]]⟩⟩] }

theorem unstarted_gated : gated.Unstarted :=
  ⟨⟨2, rfl⟩, rfl, rfl, rfl, rfl, rfl, rfl, .nil⟩

end Deployment

/-- A batch of one failure. -/
def Draft.single : Draft :=
  ⟨.indexing, [{ type := .indexing, cause := "timeout", message := "timed out", unit := .plain "1" }]⟩

end FailureDispatch

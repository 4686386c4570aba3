import FailureDispatch.Proofs.Registry.Runtime
import FailureDispatch.Proofs.Submission.Turns

/-!
# Where dispatched batches come from

A batch is dispatched only after it was taken, taken only after it was accepted, and
accepted only if somebody submitted it.  Whoever submits has a draft, and what he submits
is what the draft forms.  So every batch that is given to handlers was formed from a draft
of some step.

The invariant looks at the two places where a batch can stand before it is taken: the
journal, once it was accepted, and the call that still submits it.  Whatever the order of
turns, calls and requests, only a move with which a batch is handed in adds to either of
them from outside (`HandsIn`), and in a run only a step with a draft makes such a move.
-/

namespace FailureDispatch

namespace Step

/-- The draft whose batch the step submits. -/
def draft? : Step → Option Draft
  | trySubmit draft | submit draft | trySubmitDirectly draft | submitDirectly draft => some draft
  | _ => none

end Step

/-- What a call leaves in the queue is what it submitted. -/
theorem Call.mem_delivered {call : Call} {outcome : Outcome} {batch : Batch}
    (member : batch ∈ call.delivered outcome) : ∃ door begun, call = .submit door batch begun := by
  cases outcome with
  | done =>
      cases call with
      | submit door other begun =>
          rw [List.mem_singleton.mp member]
          exact ⟨door, begun, rfl⟩
      | _ => cases member
  | _ => cases member

/-- Whatever is merged stands in one of the parts. -/
theorem Merges.mem_right {α : Type} {left right merged : List α} {item : α}
    (merges : Merges left right merged) (member : item ∈ right) : item ∈ merged := by
  induction merges with
  | nil => exact member
  | left last _ inductionHypothesis => exact List.mem_append_left _ (inductionHypothesis member)
  | right last _ inductionHypothesis =>
      rcases List.mem_append.mp member with earlier | now
      · exact List.mem_append_left _ (inductionHypothesis earlier)
      · exact List.mem_append_right _ now

namespace Deployment

/-- A batch is handed in: somebody tries to submit what his draft forms, or begins a call
that submits the batch and may have to wait. -/
inductive HandsIn (before : Deployment) : Deployment → Batch → Prop where
  | atOnce (door : Door) {draft : Draft} {batch : Batch} (formed : draft.build = .ok batch) :
      HandsIn before (before.submitNow door draft).2 batch
  | waiting (id : Nat) (door : Door) (batch : Batch) (begun : Bool) :
      HandsIn before ((before.addJob id (.submit door batch begun)).wake (.caller id)) batch

/-- Somewhere on the way the batch was handed in. -/
def HandedIn (origin reached : Deployment) (batch : Batch) : Prop :=
  ∃ before after, Reaches true origin before ∧ Move true before after ∧
    HandsIn before after batch ∧ Reaches true after reached

/-- Every batch that was accepted, and every one that a call still submits, is of a kind. -/
structure Stems (kind : Batch → Prop) (deployment : Deployment) : Prop where
  accepted : ∀ batch ∈ deployment.journal.accepted, kind batch
  submitting : ∀ entry ∈ deployment.jobs, ∀ door batch begun,
    entry.2.call = .submit door batch begun → kind batch

namespace Stems

variable {kind : Batch → Prop} {before after : Deployment}

/-- Something that neither accepts a batch nor begins or changes a call. -/
theorem beside (stems : before.Stems kind) (jobs : after.jobs = before.jobs)
    (accepted : after.journal.accepted = before.journal.accepted) : after.Stems kind := by
  constructor
  · rw [accepted]
    exact stems.accepted
  · rw [jobs]
    exact stems.submitting

/-- Something that at most writes down what concerns no batch. -/
theorem plainly (stems : before.Stems kind) (jobs : after.jobs = before.jobs) {trace : Journal}
    (plain : trace.Plain) (journal : after.journal = before.journal ++ trace) :
    after.Stems kind := by
  apply stems.beside jobs
  rw [journal, Journal.accepted_append, plain.accepted_eq, List.append_nil]

theorem mono {wider : Batch → Prop} (stems : before.Stems kind)
    (admits : ∀ batch, kind batch → wider batch) : before.Stems wider :=
  ⟨fun batch member => admits batch (stems.accepted batch member),
    fun entry member door batch begun submits =>
      admits batch (stems.submitting entry member door batch begun submits)⟩

/-! ## Turns -/

theorem caller_turn {queue : SubmissionQueue Actor Batch} {id : Nat} (stems : before.Stems kind)
    (turn : CallerTurn before queue id after) (buffered : before.source = .buffered queue) :
    after.Stems kind := by
  rcases turn.accounts buffered with ⟨trace, accounts, _, ends⟩
  constructor
  · intro batch member
    rw [accounts.journal, Journal.accepted_append] at member
    rcases List.mem_append.mp member with old | new
    · exact stems.accepted batch old
    · rcases ends with ⟨_, none, _⟩ | ⟨job, outcome, present, _, delivered, _, _⟩
      · rw [none] at new
        cases new
      · rw [delivered] at new
        rcases Call.mem_delivered new with ⟨door, begun, submits⟩
        exact stems.submitting _ (mem_of_job? present) door batch begun submits
  · intro entry member door batch begun submits
    rcases turn.jobs entry member with old | ⟨_, _, job, present, follows⟩
    · exact stems.submitting entry old door batch begun submits
    · rcases follows.submission submits with ⟨earlier, submitted⟩
      exact stems.submitting _ (mem_of_job? present) door batch earlier submitted

theorem tick (sound : before.OnCourse) (stems : before.Stems kind) : before.tick.Stems kind := by
  rcases sound.buffered with ⟨queue, buffered⟩
  have turned := tick_turned buffered sound.course
  generalize before.tick = after at turned ⊢
  cases turned with
  | nobody => exact stems
  | @worker _ progress _ _ _ trace gates _ turn =>
      have accepted : (before.journal ++ trace).accepted = before.journal.accepted := by
        rw [Journal.accepted_append, turn.accepted_eq, List.append_nil]
      cases progress <;> exact stems.beside rfl accepted
  | caller _ turn =>
      have kept := stems.caller_turn turn buffered
      exact ⟨kept.accepted, kept.submitting⟩

theorem settle (sound : before.OnCourse) (stems : before.Stems kind) :
    before.settle.OnCourse ∧ before.settle.Stems kind :=
  sound.keeps_settle (fun _ course kept => kept.tick course) stems

/-! ## Steps -/

theorem passTime (sound : before.OnCourse) (stems : before.Stems kind) (remaining : Nat) :
    (Deployment.passTime remaining before).Stems kind := by
  have ticks (deployment : Deployment) (both : deployment.OnCourse ∧ deployment.Stems kind) :
      deployment.tick.OnCourse ∧ deployment.tick.Stems kind :=
    ⟨both.1.tick, both.2.tick both.1⟩
  have around (deployment : Deployment) (now : Nat) (ready : List Actor)
      (both : deployment.OnCourse ∧ deployment.Stems kind) :
      OnCourse { deployment with now, ready } ∧ Stems kind { deployment with now, ready } :=
    ⟨⟨both.1.buffered, both.1.course, both.1.held, both.1.joins⟩, both.2.beside rfl rfl⟩
  exact (passTime_keeps ticks around ⟨sound, stems⟩ remaining).2

/-- A call begins, and if it submits, then a batch of the kind. -/
theorem begin (stems : before.Stems kind) {id : Nat} {call : Call}
    (submits : ∀ door batch begun, call = .submit door batch begun → kind batch) :
    ((before.addJob id call).wake (.caller id)).Stems kind := by
  rw [wake_eq]
  refine ⟨stems.accepted, ?_⟩
  intro entry member
  rcases List.mem_append.mp member with old | new
  · exact stems.submitting entry old
  · rw [List.mem_singleton.mp new]
    exact submits

theorem doom (stems : before.Stems kind) {id : Nat} {job : Job} (known : before.job? id = some job) :
    ((before.setJob id { job with doomed := true }).wake (.caller id)).Stems kind := by
  rw [wake_eq]
  refine ⟨stems.accepted, ?_⟩
  intro entry member
  rcases mem_setJob member with ⟨old, _⟩ | same
  · exact stems.submitting entry old
  · rw [same]
    exact stems.submitting (id, job) (mem_of_job? known)

theorem spawn {id : Nat} (sound : before.OnCourse) (numbered : Numbered id before)
    (stems : before.Stems kind) {call : Call} (new : call.isNew = true)
    (started : call.isJoin = true → before.service.state ≠ .new)
    (submits : ∀ door batch begun, call = .submit door batch begun → kind batch) :
    (before.spawn id call).Stems kind := by
  rcases stems.settle sound with ⟨soundSettled, settled⟩
  have move : Move true before.settle _ :=
    (begins_settled sound numbered new (fun _ => rfl) started).1
  exact ((settled.begin submits).settle (soundSettled.move move)).2

theorem submitNow (stems : before.Stems kind) (door : Door) {draft : Draft}
    (forms : ∀ batch, draft.build = .ok batch → kind batch) :
    (before.submitNow door draft).2.Stems kind := by
  unfold Deployment.submitNow
  cases before.source with
  | scripted queue => exact stems
  | buffered queue =>
      cases formed : draft.build with
      | error error => exact stems
      | ok batch =>
          dsimp only
          rcases queue.trySubmit batch with ⟨error | accepted, woken, next⟩
          · simp only [adopt_eq, note]
            exact stems.beside rfl (by simp [Journal.accepted, Occurrence.accepted?])
          · simp only [adopt_eq, note]
            refine ⟨?_, stems.submitting⟩
            intro other member
            rw [Journal.accepted_append] at member
            rcases List.mem_append.mp member with old | new
            · exact stems.accepted other old
            · rw [List.mem_singleton.mp new]
              exact forms batch formed

theorem letGo (stems : before.Stems kind) : Stems kind { before with holder := .nobody } :=
  stems.beside rfl rfl

section Spawning

variable {id : Nat} (sound : before.OnCourse) (numbered : Numbered id before)
  (stems : before.Stems kind)
include sound numbered stems

theorem spawnSubmission (door : Door) {draft : Draft}
    (forms : ∀ batch, draft.build = .ok batch → kind batch) :
    (before.spawnSubmission id door draft).2.Stems kind := by
  unfold Deployment.spawnSubmission
  cases before.source with
  | scripted queue => exact stems
  | buffered queue =>
      cases formed : draft.build with
      | error error => exact stems
      | ok batch =>
          refine stems.spawn sound numbered rfl ?_ ?_
          · intro joins
            cases joins
          · intro door other begun same
            cases same
            exact forms batch formed

theorem spawnOnQueue {call : Call} (new : call.isNew = true) (consumes : call.place?.isSome = true) :
    (before.spawnOnQueue id call).2.Stems kind := by
  unfold Deployment.spawnOnQueue
  cases before.source with
  | scripted queue => exact stems
  | buffered queue =>
      apply stems.spawn sound numbered new
      · intro joins
        rcases Option.isSome_iff_exists.mp consumes with ⟨place, waits⟩
        rw [Call.isJoin_of_place? waits] at joins
        cases joins
      · intro door batch begun same
        rw [same] at consumes
        cases consumes

theorem spawnJoin (stopFirst : Bool) : (before.spawnJoin id stopFirst).2.Stems kind := by
  have handed (held : before.holder ≠ .nobody) (door : Door) (stopFirst : Bool) :
      (Deployment.spawn { before with holder := .nobody } id (.join door stopFirst)).Stems kind := by
    have act : Act before { before with holder := .nobody } := .handOver .nobody held
    exact stems.letGo.spawn (sound.act act) (numbered.act sound act) rfl
      (fun _ => sound.held held) nofun
  unfold Deployment.spawnJoin
  split
  · exact stems
  · next holder => exact handed (by rw [holder]; exact nofun) .service stopFirst
  · next holder =>
    split
    · exact handed (by rw [holder]; exact nofun) .runtime true
    · exact stems

theorem spawnAwait {call : Call} (awaits : call = .awaitRunning ∨ call = .awaitTerminated) :
    (before.spawn id call).Stems kind := by
  rcases awaits with rfl | rfl
  · exact stems.spawn sound numbered rfl nofun nofun
  · exact stems.spawn sound numbered rfl nofun nofun

end Spawning

theorem requestStop (stems : before.Stems kind) : before.requestStop.Stems kind := by
  rcases requestStop_eq before with ⟨_, _, trace, plain, same⟩
  rw [same]
  exact stems.plainly rfl plain rfl

theorem dropHolder (stems : before.Stems kind) : before.dropHolder.Stems kind := by
  unfold Deployment.dropHolder
  split
  · exact stems
  · exact stems.letGo.requestStop
  · exact stems.letGo.requestStop

theorem start (stems : before.Stems kind) : before.start.2.Stems kind := by
  cases can : before.service.state.canBecome .starting with
  | true =>
      simp only [Deployment.start, enter_of_canBecome can, setWorker, wake_eq]
      exact stems.plainly rfl (.cons rfl .nil) rfl
  | false =>
      simp only [Deployment.start, enter_of_cannot can]
      exact stems

/-- Only the batch of the step's own draft is added. -/
theorem take {id : Nat} (sound : before.OnCourse) (numbered : Numbered id before)
    (stems : before.Stems kind) (step : Step)
    (forms : ∀ draft batch, step.draft? = some draft → draft.build = .ok batch → kind batch) :
    (before.take id step).2.Stems kind := by
  cases step with
  | settle => exact (stems.settle sound).2
  | advance duration =>
      rcases stems.settle sound with ⟨soundSettled, settled⟩
      exact settled.passTime soundSettled duration
  | release gate count =>
      simp only [Deployment.take, wakeAll_eq]
      exact stems.beside rfl rfl
  | cancel token =>
      simp only [Deployment.take, wakeAll_eq]
      split
      · exact stems
      · exact stems.beside rfl rfl
  | abort other =>
      simp only [Deployment.take]
      split
      · exact stems
      · next job known =>
        have move : Move true before _ := .abort known
        exact ((stems.doom known).settle (sound.move move)).2
  | trySubmit draft => exact stems.submitNow before.door fun batch => forms draft batch rfl
  | trySubmitDirectly draft => exact stems.submitNow .service fun batch => forms draft batch rfl
  | submit draft =>
      exact stems.spawnSubmission sound numbered before.door fun batch => forms draft batch rfl
  | submitDirectly draft =>
      exact stems.spawnSubmission sound numbered .service fun batch => forms draft batch rfl
  | consume token => exact stems.spawnOnQueue sound numbered rfl rfl
  | consumeWithin wait => exact stems.spawnOnQueue sound numbered rfl rfl
  | close =>
      simp only [Deployment.take]
      split
      · exact stems
      · simp only [adopt_eq]
        exact stems.beside rfl rfl
  | logStats tag =>
      simp only [Deployment.take]
      split
      · exact stems
      · rw [logStats_eq]
        exact stems.plainly rfl (plain_figures before tag) rfl
  | start =>
      have same : (before.take id .start).2 = before.start.2 := by
        simp only [Deployment.take]
        split <;> next started => rw [started]
      rw [same]
      exact stems.start
  | stop =>
      simp only [Deployment.take]
      split
      · exact stems.requestStop
      · exact stems
      · exact stems
  | drop => exact stems.dropHolder
  | join => exact stems.spawnJoin sound numbered false
  | shutdown => exact stems.spawnJoin sound numbered true
  | awaitRunning => exact stems.spawnAwait sound numbered (.inl rfl)
  | awaitTerminated => exact stems.spawnAwait sound numbered (.inr rfl)
  | viewHandle | viewRuntime =>
      simp only [Deployment.take]
      split <;> exact stems
  | watch name => exact stems.beside rfl rfl
  | pollWatch name =>
      simp only [Deployment.take]
      split
      · exact stems
      · exact stems.beside rfl rfl

/-- The batches of a run are formed from the drafts of its steps. -/
theorem run {id : Nat} (sound : before.OnCourse) (numbered : Numbered id before)
    (stems : before.Stems kind) (steps : List (Option Step))
    (forms : ∀ step draft batch, some step ∈ steps → step.draft? = some draft →
      draft.build = .ok batch → kind batch) : (before.run id steps).2.Stems kind := by
  induction steps generalizing id before with
  | nil => exact stems
  | cons step rest inductionHypothesis =>
      have later (step : Step) (draft : Draft) (batch : Batch) (member : some step ∈ rest) :=
        forms step draft batch (List.mem_cons_of_mem _ member)
      cases step with
      | none => exact inductionHypothesis sound (numbered.mono (Nat.le_succ id)) stems later
      | some step =>
          have reached : Reaches true before (before.take id step).2 ∧ Numbered (id + 1) _ :=
            (take_taken id step).reaches sound numbered fun _ => rfl
          exact inductionHypothesis (sound.reaches reached.1) reached.2
            (stems.take sound numbered step fun draft batch =>
              forms step draft batch List.mem_cons_self) later

/-! ## Moves -/

/-- Only what is handed in is added. -/
theorem move (sound : before.OnCourse) (stems : before.Stems kind) (move : Move true before after)
    (forms : ∀ batch, HandsIn before after batch → kind batch) : after.Stems kind := by
  rcases sound.buffered with ⟨queue, buffered⟩
  cases move with
  | turn => exact stems.tick sound
  | begins _ _ =>
      apply stems.begin
      intro door batch begun submits
      subst submits
      exact forms batch (.waiting _ door batch begun)
  | abort known => exact stems.doom known
  | act act =>
      cases act with
      | submitNow door draft =>
          exact stems.submitNow door fun batch formed => forms batch (.atOnce door formed)
      | clock _ _ _ | release _ _ | cancel _ =>
          rw [wakeAll_eq]
          exact stems.beside rfl rfl
      | close _ =>
          rw [adopt_eq]
          exact stems.beside rfl rfl
      | logStats tag =>
          rw [logStats_eq]
          exact stems.plainly rfl (plain_figures before tag) rfl
      | start => exact stems.start
      | stop _ => exact stems.requestStop
      | drop => exact stems.dropHolder
      | handOver _ _ | watch _ => exact stems.beside rfl rfl
      | announce settings _ =>
          rw [announce_eq buffered]
          exact stems.plainly rfl (.cons rfl .nil) rfl

/-- Whatever was accepted or is being submitted was handed in on the way. -/
theorem reaches {origin reached : Deployment} (sound : origin.OnCourse)
    (none : origin.Stems fun _ => False) (reaches : Reaches true origin reached) :
    reached.Stems (HandedIn origin reached) := by
  induction reaches with
  | refl => exact none.mono fun _ => False.elim
  | @tail before after earlier move inductionHypothesis =>
      have known : before.Stems (HandedIn origin after) :=
        inductionHypothesis.mono fun batch ⟨first, second, reached, step, handed, later⟩ =>
          ⟨first, second, reached, step, handed, later.tail move⟩
      exact known.move (sound.reaches earlier) move fun batch handed =>
        ⟨before, after, earlier, move, handed, .refl⟩

end Stems

/-! ## Dispatch -/

/-- What is reached without other consumers is reached where they may exist. -/
theorem Reaches.admit {origin reached : Deployment} (reaches : Reaches false origin reached)
    (others : Bool) : Reaches others origin reached := by
  refine Relation.ReflTransGen.mono ?_ _ _ reaches
  intro before after move
  cases move with
  | turn => exact .turn
  | begins fresh may =>
      exact .begins fresh ⟨may.isNew, fun consumes => absurd (may.consumes consumes) nofun, may.joins⟩
  | abort known => exact .abort known
  | act act => exact .act act

/-- A service over an in-memory queue as its users get it: one that nobody has started, or
one that belongs to a runtime. -/
inductive OverQueue : Deployment → Prop where
  | unstarted {origin} (unstarted : origin.Unstarted) : OverQueue origin
  | assembled {settings registry acknowledger origin}
      (made : assemble settings registry acknowledger = .ok origin) : OverQueue origin

theorem Unstarted.stems {origin : Deployment} (unstarted : origin.Unstarted)
    (kind : Batch → Prop) : origin.Stems kind := by
  constructor
  · rw [unstarted.journal.accepted_eq]
    exact nofun
  · rw [unstarted.jobs]
    exact nofun

/-- Nobody has submitted anything yet, and whatever is taken will have been accepted. -/
theorem OverQueue.begins {origin : Deployment} (overQueue : origin.OverQueue) :
    (origin.OnCourse ∧ Numbered 0 origin) ∧ (∀ kind, origin.Stems kind) ∧
      ∃ earliest : Deployment, earliest.Unstarted ∧ Reaches true earliest origin := by
  cases overQueue with
  | unstarted unstarted =>
      exact ⟨⟨unstarted.onCourse, unstarted.numbered⟩, unstarted.stems, origin, unstarted, .refl⟩
  | @assembled settings registry acknowledger _ made =>
      rcases eq_of_assemble made with ⟨waits, same⟩
      have unstarted := unstarted_prepared settings registry acknowledger
      rcases unstarted.announced waits settings with ⟨_, reaches, _⟩
      rw [← same] at reaches
      refine ⟨onCourse_of_assemble made, ?_, _, unstarted, reaches.admit true⟩
      intro kind
      have started := unstarted.onCourse.act .start
      rcases (unstarted.stems kind).start.settle started with ⟨settled, stems⟩
      rcases settled.buffered with ⟨queue, buffered⟩
      rw [same, announce_eq buffered]
      exact stems.plainly rfl (.cons rfl .nil) rfl

/-- What is dispatched was accepted before. -/
theorem OverQueue.accepted {origin reached : Deployment} (overQueue : origin.OverQueue)
    (reaches : Reaches true origin reached) {batch : Batch}
    (begun : batch ∈ reached.journal.begun) : batch ∈ reached.journal.accepted := by
  rcases overQueue.begins with ⟨_, _, earliest, unstarted, earlier⟩
  have taken := (reaches_attributes unstarted (earlier.trans reaches)).merges.mem_right begun
  rcases reaches_conserves unstarted (earlier.trans reaches) with ⟨queue, _, conserved⟩
  rw [← conserved.batches]
  exact List.mem_append_left _ taken

/-- Every batch whose dispatch has begun was handed in by somebody. -/
theorem OverQueue.handedIn {origin reached : Deployment} (overQueue : origin.OverQueue)
    (reaches : Reaches true origin reached) {batch : Batch}
    (begun : batch ∈ reached.journal.begun) : HandedIn origin reached batch := by
  rcases overQueue.begins with ⟨⟨sound, _⟩, stems, _⟩
  exact (Stems.reaches sound (stems _) reaches).accepted batch (overQueue.accepted reaches begun)

/-- Every batch whose dispatch has begun was formed from a draft that some step submitted. -/
theorem OverQueue.formed {origin : Deployment} (overQueue : origin.OverQueue)
    (steps : List (Option Step)) {batch : Batch}
    (begun : batch ∈ (origin.run 0 steps).2.journal.begun) :
    ∃ step draft, some step ∈ steps ∧ step.draft? = some draft ∧ draft.build = .ok batch := by
  rcases overQueue.begins with ⟨⟨sound, numbered⟩, stems, _⟩
  have reaches : Reaches true origin (origin.run 0 steps).2 :=
    reaches_run sound numbered steps fun _ _ _ => rfl
  have formed := Stems.run sound numbered (stems fun batch => ∃ step draft,
    some step ∈ steps ∧ step.draft? = some draft ∧ draft.build = .ok batch) steps
    fun step draft batch member offers forms => ⟨step, draft, member, offers, forms⟩
  exact formed.accepted batch (overQueue.accepted reaches begun)

end Deployment
end FailureDispatch

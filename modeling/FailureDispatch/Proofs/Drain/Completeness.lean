import FailureDispatch.Proofs.Drain.Following

/-!
# A runtime shuts down completely

A runtime is assembled from settings that have been checked, so its drain has
time to wait.  Whatever happens to it then, the call that shuts it down does
not return before every batch that was accepted has been dispatched, and it
returns the count of the drain: nothing that a handler or the acknowledger
does can make it fail.
-/

namespace FailureDispatch

/-- Settings that have been checked leave the drain time to wait. -/
theorem Settings.shutdownAwait_pos {settings : Settings} {checked : Unit}
    (valid : settings.validate = .ok checked) : 0 < settings.shutdownAwait := by
  apply Nat.pos_of_ne_zero
  intro zero
  unfold validate at valid
  rw [if_pos zero] at valid
  split at valid <;> cases valid

namespace Deployment

/-- The end of a service that leaves nothing undone: its queue is closed and
empty, no submission is under way, and what has been dispatched, each batch to its
end, is what was accepted. -/
structure Finished (staff : Staff) (deployment : Deployment) : Prop where
  terminated : deployment.service.state = .terminated
  emptied : ∃ queue, deployment.source = .buffered queue ∧ queue.isOpen = false ∧
    queue.buffer = []
  quiet : ∀ entry ∈ deployment.jobs, entry.2.call.isSubmission = false
  begun : deployment.journal.begun = deployment.journal.accepted
  dispatches : deployment.journal.dispatches =
    (staff.serveAll deployment.journal.accepted).trace

/-! ## Assembly -/

section Assembly

variable {before : Deployment}

/-- A service that has been started belongs to whoever has its handle. -/
theorem Unstarted.start_eq (unstarted : before.Unstarted) :
    ∃ ready version journal, before.start = (.ok (), { before with
      ready
      service := { before.service with state := .starting, version, worker := .fresh }
      holder := .handle
      journal }) := by
  have can : before.service.state.canBecome .starting = true := by
    rw [unstarted.state]
    rfl
  simp only [start, enter_of_canBecome can, setWorker, wake_eq]
  exact ⟨_, _, _, rfl⟩

/-- Somebody has the handle when the service has settled. -/
theorem Unstarted.held_settled (unstarted : before.Unstarted) :
    before.start.2.settle.holder ≠ .nobody := by
  rcases unstarted.start_eq with ⟨_, _, _, started⟩
  rw [holder_settle, started]
  intro impossible
  cases impossible

theorem Unstarted.unasked (unstarted : before.Unstarted) : before.Unasked := by
  refine ⟨unstarted.untold, ?_⟩
  intro entry member
  rw [unstarted.jobs] at member
  cases member

theorem Unstarted.supervised (unstarted : before.Unstarted)
    (waits : 0 < before.service.drainWait) : ∃ queue, before.Supervised queue := by
  rcases unstarted.undisturbed with ⟨queue, undisturbed⟩
  refine ⟨queue, undisturbed, ⟨waits, ?_, fun _ => unstarted.unasked, ?_, ?_, ?_⟩,
    reaches_declares unstarted .refl⟩
  · intro count deadline place here
    rw [unstarted.worker] at here
    cases here
  · intro entry member
    rw [unstarted.jobs] at member
    cases member
  · exact fun _ => Or.inr unstarted.unasked.nobody
  · intro ended member
    rw [unstarted.outcomes] at member
    cases member

/-- A service that is started, settled and given to a runtime is hosted. -/
theorem Unstarted.announced (unstarted : before.Unstarted) (waits : 0 < before.service.drainWait)
    (settings : Settings) :
    (before.start.2.settle.announce settings).Hosted ∧
      Reaches false before (before.start.2.settle.announce settings) ∧
      Numbered 0 (before.start.2.settle.announce settings) := by
  have act : Act before before.start.2 := .start
  have sound := unstarted.onCourse.act act
  have numbered := (unstarted.numbered.act unstarted.onCourse act).settle sound
  rcases unstarted.supervised waits with ⟨queue, supervised⟩
  rcases unstarted.start_eq with ⟨ready, version, journal, same⟩
  have begun : before.start.2.service.state = .starting ∧
      before.start.2.service.stopRequested = false := by
    rw [same]
    exact ⟨rfl, unstarted.untold⟩
  rcases begun with ⟨starting, untold⟩
  have startedUp : ∃ next, before.start.2.Supervised next := by
    apply supervised.act act
    · exact fun _ => unstarted.unasked.nobody
    · intro count deadline place here
      rw [unstarted.worker] at here
      cases here
    · exact fun _ => ⟨unstarted.unasked, untold⟩
  rcases startedUp with ⟨started, supervisedStarted⟩
  rcases supervisedStarted.settle with ⟨settled, supervisedSettled⟩
  have easy := supervisedSettled.atEase (settled_settle _)
  have stateSettled : before.start.2.settle.service.state ≠ .new := by
    apply started_settle sound
    rw [starting]
    intro impossible
    cases impossible
  have held := unstarted.held_settled
  have announces : Act before.start.2.settle (before.start.2.settle.announce settings) :=
    .announce settings held
  have announced := announce_eq supervisedSettled.undisturbed.buffered settings
  refine ⟨?_, ?_, numbered.2.act numbered.1 announces⟩
  · apply easy.hosted supervisedSettled stateSettled announces
    · rw [announced]
    · rw [announced]
      intro impossible
      cases impossible
    · rw [announced]
      exact fun _ => ⟨held, rfl⟩
  · exact ((Relation.ReflTransGen.single (Move.act act)).trans (reaches_settle false _)).tail
      (.act announces)

/-- A service over an empty queue, before it is started. -/
def prepared (settings : Settings) (registry : HandlerRegistry) (acknowledger : Script) :
    Deployment where
  source := .buffered (.empty settings.queueCapacity)
  service :=
    { handlers := registry.handlers
      fallback := registry.fallback
      acknowledger
      drainWait := settings.shutdownAwait }
  journal := registry.handlers.flatMap HandlerRegistry.registrationTrace

theorem unstarted_prepared (settings : Settings) (registry : HandlerRegistry)
    (acknowledger : Script) : (prepared settings registry acknowledger).Unstarted := by
  refine ⟨⟨settings.queueCapacity, rfl⟩, rfl, rfl, rfl, rfl, rfl, rfl, ?_⟩
  intro entry member
  rcases List.mem_flatMap.mp member with ⟨handler, _, noted⟩
  rw [List.mem_singleton.mp noted]
  rfl

/-- Whatever is assembled has been prepared, started, settled and announced. -/
theorem eq_of_assemble {settings : Settings} {registry : HandlerRegistry} {acknowledger : Script}
    {origin : Deployment} (assembled : assemble settings registry acknowledger = .ok origin) :
    0 < settings.shutdownAwait ∧
      origin = (prepared settings registry acknowledger).start.2.settle.announce settings := by
  unfold assemble at assembled
  split at assembled
  · cases assembled
  · next valid =>
    refine ⟨Settings.shutdownAwait_pos valid, ?_⟩
    split at assembled
    · cases assembled
    · next queue made =>
      have empty : .empty settings.queueCapacity = queue := by
        unfold SubmissionQueue.empty? at made
        split at made
        · exact Option.some.inj made
        · cases made
      subst empty
      have starts : ∃ started,
          (prepared settings registry acknowledger).start = (.ok (), started) := by
        rcases (unstarted_prepared settings registry acknowledger).start_eq with ⟨_, _, _, same⟩
        exact ⟨_, same⟩
      rcases starts with ⟨started, same⟩
      unfold prepared at same ⊢
      simp only [same] at assembled ⊢
      split at assembled
      · cases assembled
      · exact (Except.ok.inj assembled).symm

end Assembly

/-! ## Runs -/

/-- A run in which nobody else consumes keeps a service hosted.  The number of a
step that gives the service to a call stays with that call. -/
theorem Hosted.run {before : Deployment} {id number : Nat} (hosted : before.Hosted)
    (numbered : Numbered id before) (asked : Asked number before) (steps : List (Option Step))
    (alone : ∀ step, some step ∈ steps → step.consumes = false)
    (joins : ∀ offset step, steps[offset]? = some (some step) → id + offset = number →
      step.isJoin = true) :
    (before.run id steps).2.Hosted ∧ Asked number (before.run id steps).2 := by
  induction steps generalizing id before with
  | nil => exact ⟨hosted, asked⟩
  | cons step rest inductionHypothesis =>
      have aloneLater (step' : Step) (member : some step' ∈ rest) : step'.consumes = false :=
        alone step' (List.mem_cons_of_mem _ member)
      have joinsLater (offset : Nat) (step' : Step) (there : rest[offset]? = some (some step'))
          (same : id + 1 + offset = number) : step'.isJoin = true := by
        apply joins (offset + 1) step' there
        rw [← same, Nat.add_assoc, Nat.add_comm 1]
      cases step with
      | none =>
          exact inductionHypothesis hosted (numbered.mono (Nat.le_succ id)) asked aloneLater
            joinsLater
      | some step =>
          rcases hosted.supervised with ⟨queue, supervised⟩
          have sound := supervised.undisturbed.sound
          have single := alone step List.mem_cons_self
          have taken : Taken before id step (before.take id step).2 := take_taken id step
          have numberedThere := (taken.reaches sound numbered (fun _ => rfl)).2
          have askedThere := taken.asked asked sound numbered (joins 0 step rfl)
          exact inductionHypothesis (taken.hosted hosted numbered single) numberedThere askedThere
            aloneLater joinsLater

/-- A submission that waits for a slot somewhere in a run is followed to the end of
the run. -/
theorem pursued_run {before : Deployment} {queue : SubmissionQueue Actor Batch} {id : Nat}
    (undisturbed : before.Undisturbed queue) (numbered : Numbered id before)
    (earlier later : List (Option Step))
    (alone : ∀ step, some step ∈ earlier ++ later → step.consumes = false) {number : Nat}
    {door : Door} {batch : Batch} {doomed : Bool}
    (waits : (number, ⟨.submit door batch true, doomed⟩) ∈ (before.run id earlier).2.jobs) :
    Pursued number batch (before.run id (earlier ++ later)).2 := by
  have admitted (steps : List (Option Step)) (part : ∀ step ∈ steps, step ∈ earlier ++ later)
      (step : Step) (member : some step ∈ steps) (consumes : step.consumes = true) :
      false = true := (alone step (part _ member)).symm.trans consumes
  have first := reaches_run_numbered undisturbed.sound numbered earlier
    (admitted earlier fun _ => List.mem_append_left later)
  rcases undisturbed.reaches first.1 with ⟨reached, there⟩
  have second := reaches_run_numbered there.sound first.2 later
    (admitted later fun _ => List.mem_append_right earlier)
  have pursued : Pursued number batch (before.run id earlier).2 := Or.inl ⟨door, doomed, waits⟩
  rw [run_append]
  exact pursued.reaches there second.1

/-- Once a call has learned how the drain of a hosted service went, the service
is finished. -/
theorem Hosted.finished {origin ended : Deployment} (hosted : ended.Hosted)
    (unstarted : origin.Unstarted) (reaches : Reaches false origin ended) {id count : Nat}
    (returned : (id, .drained count) ∈ ended.outcomes) :
    ended.Finished origin.service.staff := by
  rcases hosted with ⟨⟨queue, undisturbed, overseen, declares⟩, _, _, easy⟩
  have done := declares.outcomes _ returned count rfl
  rcases overseen.told _ returned count rfl with ⟨hushed, shut⟩
  have state := undisturbed.sound.course.at_home .terminated (by rw [done]; rfl)
  have dispatched : ended.journal.begun = ended.journal.accepted := by
    rcases reaches_conserves unstarted reaches with ⟨_, buffered, conserved⟩
    have batches := conserved.batches
    rw [undisturbed.buffered] at buffered
    cases buffered
    rw [hushed.empty, List.append_nil] at batches
    rw [reaches_begun_eq_taken unstarted reaches, batches]
  refine ⟨state.1, ⟨queue, undisturbed.buffered, shut, hushed.empty⟩, ?_, dispatched, ?_⟩
  · intro entry member
    have waits := undisturbed.claimed.not_waitsForSlot hushed.unclaimed entry member
    exact Call.not_isSubmission waits (easy.begun entry member)
  · have free : ended.service.worker.isFree = true := by
      rw [done]
      rfl
    rw [← dispatched]
    exact (Standing.bounds (reaches_inOrder unstarted reaches)).2.2 free

/-- Where each step is followed until nobody can act, nobody comes between the worker and the
call that shuts the runtime down.  When the call returns, it returns the count of the drain
and leaves nothing undone, whatever the handlers and the acknowledger do.  A submission
that waited for a slot at any moment, also when the stop was requested or during the drain,
has had its batch accepted unless it was aborted. -/
theorem finished_of_run {settings : Settings} {registry : HandlerRegistry}
    {acknowledger : Script} {origin : Deployment}
    (assembled : assemble settings registry acknowledger = .ok origin)
    (steps : List (Option Step)) (alone : ∀ step, some step ∈ steps → step.consumes = false)
    {id : Nat} {outcome : Outcome} (shutsDown : steps[id]? = some (some .shutdown))
    (returned : (id, outcome) ∈ (origin.run 0 steps).2.outcomes) (whole : outcome ≠ .aborted) :
    (∃ count, outcome = .drained count) ∧
      (origin.run 0 steps).2.Finished ⟨registry.handlers, registry.fallback, acknowledger⟩ ∧
      ∀ earlier later, steps = earlier ++ later → ∀ number door batch doomed,
        (number, ⟨.submit door batch true, doomed⟩) ∈ (origin.run 0 earlier).2.jobs →
          (number, .aborted) ∈ (origin.run 0 steps).2.outcomes ∨
            batch ∈ (origin.run 0 steps).2.journal.accepted := by
  rcases eq_of_assemble assembled with ⟨waits, same⟩
  have unstarted := unstarted_prepared settings registry acknowledger
  rcases unstarted.announced waits settings with ⟨hostedOrigin, reachesOrigin, numbered⟩
  rw [← same] at hostedOrigin reachesOrigin numbered
  rcases hostedOrigin.supervised with ⟨empty, supervised⟩
  have undisturbed := supervised.undisturbed
  have reaches := reachesOrigin.trans (reaches_run undisturbed.sound numbered steps
    fun step member consumes => (alone step member).symm.trans consumes)
  have joins (offset : Nat) (step : Step) (there : steps[offset]? = some (some step))
      (same : 0 + offset = id) : step.isJoin = true := by
    rw [Nat.zero_add] at same
    rw [same, shutsDown] at there
    cases there
    rfl
  have unused : Asked id origin := .of_numbered numbered (Nat.zero_le id)
  rcases hostedOrigin.run numbered unused steps alone joins with ⟨hosted, asked⟩
  rcases asked.ends _ returned rfl with aborted | ⟨count, drained⟩
  · exact absurd aborted whole
  · rw [show outcome = .drained count from drained] at returned
    have finished := hosted.finished unstarted reaches returned
    refine ⟨⟨count, drained⟩, finished, ?_⟩
    intro earlier later split number door batch doomed waits
    have pursued : Pursued number batch (origin.run 0 steps).2 := by
      rw [split]
      exact pursued_run undisturbed numbered earlier later (split ▸ alone) waits
    rcases pursued with ⟨_, _, member⟩ | ended
    · have impossible := finished.quiet _ member
      cases impossible
    · exact ended

/-- A runtime with one slow handler and room for one batch. -/
def slowRuntime : Deployment :=
  ((assemble { shutdownAwait := 50, queueCapacity := 1 } { handlers := gated.service.handlers }
    ⟨[]⟩).toOption).getD narrow

theorem assembled_slowRuntime : assemble { shutdownAwait := 50, queueCapacity := 1 }
    { handlers := gated.service.handlers } ⟨[]⟩ = .ok slowRuntime := by rfl

end Deployment
end FailureDispatch

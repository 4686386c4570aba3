import FailureDispatch.Proofs.Life.Assembly
import FailureDispatch.Proofs.Life.Observers
import Mathlib.Data.List.Chain

/-!
# Those who subscribe to the state

A subscriber is not woken.  He looks when he likes, finds the present state, and is told
whether another one has been entered since he looked last.  The version of the state
counts the states that have been entered, so it tells exactly that.

`Reads` relates what a subscriber reads to the states that are entered: every reading
that is marked skips to the last of the states entered meanwhile, and every other
reading repeats the one before it.

He may look at any moment, between any two turns (`LooksOn`).  The steps of a run are
particular moments.
-/

namespace FailureDispatch

/-- What a subscriber is told: whether another state has been entered, and the state. -/
abbrev Reading := Bool × ServiceState

/-- Whoever saw this value last, after which these states have been entered, reads this. -/
inductive Reads : ServiceState → List ServiceState → List Reading → Prop where
  | rests (value : ServiceState) (entered : List ServiceState) : Reads value entered []
  | again {value entered rest} (later : Reads value entered rest) :
      Reads value entered ((false, value) :: rest)
  | skips {value state skipped entered rest} (later : Reads state entered rest) :
      Reads value (skipped ++ state :: entered) ((true, state) :: rest)

namespace Reads

variable {value : ServiceState} {entered : List ServiceState} {readings : List Reading}

/-- The marked readings are some of the states that were entered, in their order. -/
theorem sublist (reads : Reads value entered readings) :
    ((readings.filter (·.1)).map (·.2)).Sublist entered := by
  induction reads with
  | rests value entered => exact List.nil_sublist entered
  | again _ inductionHypothesis => exact inductionHypothesis
  | @skips value state skipped entered rest _ inductionHypothesis =>
      exact (inductionHypothesis.cons_cons state).trans (List.sublist_append_right skipped _)

/-- A reading that is not marked repeats the one before it. -/
theorem repeats (reads : Reads value entered readings) (marked : Bool) :
    ((marked, value) :: readings).IsChain
      fun earlier later => later.1 = false → later.2 = earlier.2 := by
  induction reads generalizing marked with
  | rests value entered => exact .singleton _
  | again _ inductionHypothesis => exact .cons_cons (fun _ => rfl) (inductionHypothesis false)
  | skips _ inductionHypothesis => exact .cons_cons nofun (inductionHypothesis true)

end Reads

/-- The subscriber whom a step serves. -/
def Step.subscriber? : Step → Option String
  | watch name | pollWatch name => some name
  | _ => none

/-- What the subscriber reads at a step. -/
def Report.reading? (name : String) : Option Step × Report → Option Reading
  | (some (.pollWatch other), report) =>
      if other = name then
        match report.reply with
        | some (.watch changed state) => some (changed, state)
        | _ => none
      else none
  | _ => none

/-- What the subscriber reads in a run. -/
def readings (name : String) (steps : List (Option Step)) (reports : List Report) :
    List Reading :=
  (steps.zip reports).filterMap (Report.reading? name)

section Readings

variable {name : String} {rest : List (Option Step)} {reports : List Report}

theorem readings_looked {report : Report} {changed : Bool} {state : ServiceState}
    (told : report.reply = some (.watch changed state)) :
    readings name (some (.pollWatch name) :: rest) (report :: reports) =
      (changed, state) :: readings name rest reports := by
  simp [readings, Report.reading?, told]

theorem readings_apart {step : Step} (apart : step ≠ .pollWatch name) (report : Report) :
    readings name (some step :: rest) (report :: reports) = readings name rest reports := by
  have nothing : Report.reading? name (some step, report) = none := by
    cases step with
    | pollWatch other =>
        have different : other ≠ name := fun same => apart (congrArg Step.pollWatch same)
        simp [Report.reading?, different]
    | _ => rfl
  simp [readings, nothing]

end Readings

/-- The version counts the states that are entered, and the state is the last of them. -/
structure Service.Enters (service later : Service) (entered : List ServiceState) : Prop where
  version : later.version = service.version + entered.length
  state : later.state = entered.getLast?.getD service.state

namespace Service.Enters

variable {first next last : Service} {earlier entered : List ServiceState}

theorem none (service : Service) : Enters service service [] := ⟨rfl, rfl⟩

theorem trans (before : Enters first next earlier) (after : Enters next last entered) :
    Enters first last (earlier ++ entered) where
  version := by
    rw [after.version, before.version, List.length_append, Nat.add_assoc]
  state := by
    rw [after.state, before.state, List.getLast?_append]
    cases entered.getLast? <;> rfl

end Service.Enters

/-- Whoever looks reads the present state, marked if it is not the one he saw last. -/
theorem Reads.looks {glimpsed present : Service} {unseen entered : List ServiceState}
    {rest : List Reading} (enters : glimpsed.Enters present unseen)
    (later : Reads present.state entered rest) :
    Reads glimpsed.state (unseen ++ entered)
      ((glimpsed.version != present.version, present.state) :: rest) := by
  rcases List.eq_nil_or_concat unseen with none | ⟨skipped, last, split⟩
  · subst none
    have same : (glimpsed.version != present.version) = false := by
      rw [enters.version]
      exact bne_self_eq_false glimpsed.version
    have rests : present.state = glimpsed.state := enters.state
    rw [same]
    rw [rests] at later ⊢
    exact .again later
  · subst split
    have changed : (glimpsed.version != present.version) = true := by
      rw [enters.version]
      simp
    have ends : present.state = last := by
      rw [enters.state]
      simp
    rw [changed]
    rw [ends] at later ⊢
    simp only [List.concat_eq_append, List.append_assoc, List.singleton_append]
    exact .skips later

/-- Every deed counts the states that it enters. -/
theorem Deed.enters {service later : Service} {trace : Journal}
    (deed : Deed service later trace) : service.Enters later trace.states := by
  have stays (version : later.version = service.version) (state : later.state = service.state)
      (states : trace.states = []) : service.Enters later trace.states := by
    rw [states]
    exact ⟨version, state⟩
  have moves {next : ServiceState} (version : later.version = service.version + 1)
      (state : later.state = next) (states : trace.states = [next]) :
      service.Enters later trace.states := by
    rw [states]
    exact ⟨version, state⟩
  cases deed with
  | startsLate _ _ | leavesLoop _ _ | waitsOn _ _ | misses _ _ _ | unparks _ _ | finishes _
  | drainWaits _ _ | tornDown _ _ | stopsAgain _ _ => exact stays rfl rfl rfl
  | asks _ _ _ _ aside | asksWithin _ _ _ aside => exact stays rfl rfl aside.states_eq
  | takes _ _ ofDispatch => exact stays rfl rfl ofDispatch.aside.states_eq
  | dispatches _ inner => exact stays rfl rfl inner.ofDispatch.aside.states_eq
  | aside aside => exact stays rfl rfl aside.states_eq
  | startsUp _ _ | buries _ _ | starts _ => exact moves rfl rfl rfl
  | completes _ _ reports | abandons _ _ reports =>
      apply moves rfl rfl
      rw [Journal.states_append, states_drainTrace _ _ _ reports.aside]
      rfl
  | stops _ reports => exact moves rfl rfl (states_stopTrace reports.aside)

namespace Deployment

section Subscribers

variable {deployment origin reached before : Deployment} {id : Nat} {name : String}

theorem Regular.enters (regular : origin.Regular) (evolves : Evolves origin reached) :
    ∃ entered, reached.journal.states = origin.journal.states ++ entered ∧
      origin.service.Enters reached.service entered := by
  have keeps (service later : Service) (journal trace : Journal) (_ : service.Lawful)
      (deed : Deed service later trace)
      (kept : ∃ entered, journal.states = origin.journal.states ++ entered ∧
        origin.service.Enters service entered) :
      ∃ entered, (journal ++ trace).states = origin.journal.states ++ entered ∧
        origin.service.Enters later entered := by
    rcases kept with ⟨entered, states, enters⟩
    refine ⟨entered ++ trace.states, ?_, enters.trans deed.enters⟩
    rw [Journal.states_append, states, List.append_assoc]
  exact regular.keeps evolves keeps ⟨[], (List.append_nil _).symm, .none origin.service⟩

/-! ## Nobody else looks -/

theorem watches_tick (deployment : Deployment) : deployment.tick.watches = deployment.watches := by
  apply tick_keeps fun later => later.watches = deployment.watches
  · exact fun _ _ same => same
  · exact (heralds_advanceWorker deployment).watches
  · exact fun id => (proclaims_advanceCaller deployment id).watches
  · rfl

theorem watches_settle (deployment : Deployment) :
    deployment.settle.watches = deployment.watches := by
  have keeps (later : Deployment) (same : later.watches = deployment.watches) :
      later.tick.watches = deployment.watches :=
    (watches_tick later).trans same
  exact settle_keeps keeps rfl

theorem watches_passTime (remaining : Nat) (deployment : Deployment) :
    (passTime remaining deployment).watches = deployment.watches := by
  have keeps (later : Deployment) (same : later.watches = deployment.watches) :
      later.tick.watches = deployment.watches :=
    (watches_tick later).trans same
  exact passTime_keeps keeps (fun _ _ _ same => same) rfl remaining

theorem watches_spawn (deployment : Deployment) (id : Nat) (call : Call) :
    (deployment.spawn id call).watches = deployment.watches := by
  unfold spawn
  rw [watches_settle, wake_eq]
  exact watches_settle deployment

theorem watches_wakeAll (deployment : Deployment) (actors : List Actor) :
    (deployment.wakeAll actors).watches = deployment.watches := by
  rw [wakeAll_eq]

theorem watches_spawnJoin (deployment : Deployment) (id : Nat) (stopFirst : Bool) :
    (deployment.spawnJoin id stopFirst).2.watches = deployment.watches := by
  unfold spawnJoin
  split
  · rfl
  · exact watches_spawn _ id _
  · split
    · exact watches_spawn _ id _
    · rfl

theorem watches_spawnSubmission (deployment : Deployment) (id : Nat) (door : Door)
    (draft : Draft) :
    (deployment.spawnSubmission id door draft).2.watches = deployment.watches := by
  unfold spawnSubmission
  split
  · rfl
  · split
    · rfl
    · exact watches_spawn _ id _

theorem watches_spawnOnQueue (deployment : Deployment) (id : Nat) (call : Call) :
    (deployment.spawnOnQueue id call).2.watches = deployment.watches := by
  unfold spawnOnQueue
  split
  · rfl
  · exact watches_spawn _ id _

/-- A step that serves no subscriber leaves them all alone. -/
theorem watches_take (deployment : Deployment) (id : Nat) {step : Step}
    (apart : step.subscriber? = none) :
    (deployment.take id step).2.watches = deployment.watches := by
  cases step with
  | settle => exact watches_settle deployment
  | advance duration =>
      exact (watches_passTime duration deployment.settle).trans (watches_settle deployment)
  | release gate count => exact watches_wakeAll _ _
  | cancel token =>
      simp only [take]
      split
      · rfl
      · exact watches_wakeAll _ _
  | abort other =>
      simp only [take]
      split
      · rfl
      · rw [watches_settle, wake_eq]
        rfl
  | trySubmit draft => exact (quiet_submitNow deployment.door draft).watches
  | trySubmitDirectly draft => exact (quiet_submitNow .service draft).watches
  | submit draft => exact watches_spawnSubmission deployment id deployment.door draft
  | submitDirectly draft => exact watches_spawnSubmission deployment id .service draft
  | consume token => exact watches_spawnOnQueue deployment id _
  | consumeWithin wait => exact watches_spawnOnQueue deployment id _
  | close =>
      simp only [take]
      split
      · rfl
      · exact (quiet_adopt deployment _ _).watches
  | logStats tag =>
      simp only [take]
      split
      · rfl
      · exact (quiet_logStats deployment tag).watches
  | start =>
      have same := (show Proclaims deployment deployment.start.2 from proclaims_start).watches
      simp only [take]
      split <;> next started =>
        rw [started] at same
        exact same
  | stop =>
      simp only [take]
      split
      · exact (proclaims_requestStop deployment).watches
      · rfl
      · rfl
  | drop =>
      exact (show Proclaims deployment deployment.dropHolder from proclaims_dropHolder).watches
  | join => exact watches_spawnJoin deployment id false
  | shutdown => exact watches_spawnJoin deployment id true
  | awaitRunning => exact watches_spawn deployment id _
  | awaitTerminated => exact watches_spawn deployment id _
  | viewHandle | viewRuntime =>
      simp only [take]
      split <;> rfl
  | watch name | pollWatch name => cases apart

/-- A look leaves the other subscribers alone. -/
theorem lookup_watches {watches : List (String × Nat)} {other : String} (version : Nat)
    (different : name ≠ other) :
    ((other, version) :: watches.filter fun entry => entry.1 != other).lookup name =
      watches.lookup name := by
  rw [List.lookup_cons, beq_false_of_ne different]
  dsimp only
  induction watches with
  | nil => rfl
  | cons entry rest inductionHypothesis =>
      by_cases his : entry.1 = other
      · have apart : (name == entry.1) = false := by
          rw [his]
          exact beq_false_of_ne different
        rw [List.filter_cons_of_neg (by simp [his]), List.lookup_cons, apart]
        exact inductionHypothesis
      · rw [List.filter_cons_of_pos (by simp [his]), List.lookup_cons, List.lookup_cons,
          inductionHypothesis]

theorem lookup_watches_take (deployment : Deployment) (id : Nat) {step : Step}
    (apart : step.subscriber? ≠ some name) :
    (deployment.take id step).2.watches.lookup name = deployment.watches.lookup name := by
  cases step with
  | watch other =>
      exact lookup_watches _ fun same => apart (congrArg some same.symm)
  | pollWatch other =>
      simp only [take]
      split
      · rfl
      · exact lookup_watches _ fun same => apart (congrArg some same.symm)
  | _ => rw [watches_take deployment id rfl]

theorem lookup_watches_run (deployment : Deployment) (id : Nat) (steps : List (Option Step))
    (apart : ∀ step, some step ∈ steps → step.subscriber? ≠ some name) :
    (deployment.run id steps).2.watches.lookup name = deployment.watches.lookup name := by
  induction steps generalizing id deployment with
  | nil => rfl
  | cons step rest inductionHypothesis =>
      have later (step : Step) (member : some step ∈ rest) : step.subscriber? ≠ some name :=
        apart step (List.mem_cons_of_mem _ member)
      cases step with
      | none => exact inductionHypothesis deployment (id + 1) later
      | some step =>
          exact (inductionHypothesis _ (id + 1) later).trans
            (lookup_watches_take deployment id (apart step List.mem_cons_self))

/-! ## A look -/

/-- A subscriber who has seen a version has looked at the present state. -/
def looked (deployment : Deployment) (name : String) : Deployment :=
  { deployment with
    watches := (name, deployment.service.version) ::
      deployment.watches.filter fun entry => entry.1 != name }

/-- A look is one of the things that can happen. -/
theorem evolves_looked (deployment : Deployment) (name : String) :
    Evolves deployment (deployment.looked name) :=
  .single (.act (.watch _))

theorem lookup_looked (deployment : Deployment) (name : String) :
    (deployment.looked name).watches.lookup name = some deployment.service.version :=
  List.lookup_cons_self

theorem take_pollWatch {seen : Nat} (known : deployment.watches.lookup name = some seen)
    (id : Nat) :
    deployment.take id (.pollWatch name) =
      (.watch (seen != deployment.service.version) deployment.service.state,
        deployment.looked name) := by
  simp only [take, known, looked]

/-- Who does not subscribe anew is served only when he looks. -/
theorem apart_of_once {step : Step} {rest : List (Option Step)}
    (once : some (.watch name) ∉ some step :: rest) (looks : step ≠ .pollWatch name) :
    step.subscriber? ≠ some name := by
  intro serves
  cases step with
  | watch other =>
      cases serves
      exact once List.mem_cons_self
  | pollWatch other =>
      cases serves
      exact looks rfl
  | _ => cases serves

/-- Whoever is told something at a look has subscribed, and has seen the present state now. -/
theorem told_pollWatch {number : Nat} {changed : Bool} {state : ServiceState}
    {after : Deployment}
    (told : deployment.take number (.pollWatch name) = (.watch changed state, after)) :
    ∃ seen, deployment.watches.lookup name = some seen ∧
      changed = (seen != deployment.service.version) ∧ state = deployment.service.state ∧
      after = deployment.looked name := by
  cases known : deployment.watches.lookup name with
  | none =>
      simp only [take, known] at told
      cases told
  | some seen =>
      rw [take_pollWatch known] at told
      cases told
      exact ⟨seen, rfl, rfl, rfl, rfl⟩

/-! ## Looking on -/

/-- What a subscriber reads while anything happens around him, if nobody else looks for him. -/
inductive LooksOn (name : String) : Deployment → List Reading → Deployment → Prop where
  | rests {before after : Deployment} (evolves : Evolves before after) :
      LooksOn name before [] after
  | looks {before moment next after : Deployment} {number : Nat} {changed : Bool}
      {state : ServiceState} {read : List Reading} (evolves : Evolves before moment)
      (apart : moment.watches.lookup name = before.watches.lookup name)
      (told : moment.take number (.pollWatch name) = (.watch changed state, next))
      (later : LooksOn name next read after) :
      LooksOn name before ((changed, state) :: read) after

namespace LooksOn

variable {middle after : Deployment} {read : List Reading}

theorem evolves (looksOn : LooksOn name before read after) : Evolves before after := by
  induction looksOn with
  | rests evolves => exact evolves
  | looks evolves _ told _ inductionHypothesis =>
      rcases told_pollWatch told with ⟨_, _, _, _, same⟩
      subst same
      exact (evolves.trans (evolves_looked _ name)).trans inductionHypothesis

/-- Something may happen before a subscriber begins to look. -/
theorem begins (evolves : Evolves before middle)
    (apart : middle.watches.lookup name = before.watches.lookup name)
    (looksOn : LooksOn name middle read after) : LooksOn name before read after := by
  cases looksOn with
  | rests later => exact .rests (evolves.trans later)
  | looks between still told later =>
      exact .looks (evolves.trans between) (still.trans apart) told later

/-- What a subscriber reads, if he has seen a service which has entered some states since. -/
theorem reads (looksOn : LooksOn name before read after) (regular : before.Regular)
    {glimpsed : Service} (known : before.watches.lookup name = some glimpsed.version)
    {unseen : List ServiceState} (enters : glimpsed.Enters before.service unseen) :
    ∃ entered, after.journal.states = before.journal.states ++ entered ∧
      Reads glimpsed.state (unseen ++ entered) read := by
  induction looksOn generalizing glimpsed unseen with
  | rests evolves =>
      rcases regular.enters evolves with ⟨fresh, states, _⟩
      exact ⟨fresh, states, .rests glimpsed.state _⟩
  | @looks before moment next after number changed state read evolves apart told _
      inductionHypothesis =>
      rcases regular.enters evolves with ⟨fresh, states, moves⟩
      rcases told_pollWatch told with ⟨seen, seenNow, marked, present, same⟩
      subst marked present same
      have version : seen = glimpsed.version :=
        Option.some.inj (seenNow.symm.trans (apart.trans known))
      subst version
      have there := regular.persists (evolves.trans (evolves_looked moment name))
      -- The present service is the one he has seen from here on.
      rcases inductionHypothesis there (lookup_looked moment name) (.none moment.service) with
        ⟨entered, path, reads⟩
      replace path : after.journal.states = moment.journal.states ++ entered := path
      refine ⟨fresh ++ entered, ?_, ?_⟩
      · rw [path, states, List.append_assoc]
      · rw [← List.append_assoc]
        exact reads.looks (enters.trans moves)

end LooksOn

/-- In a run in which he does not subscribe anew, a subscriber looks on. -/
theorem looksOn_run (regular : before.Regular) {seen : Nat}
    (known : before.watches.lookup name = some seen) (id : Nat) (steps : List (Option Step))
    (once : some (.watch name) ∉ steps) :
    LooksOn name before (readings name steps (before.run id steps).1)
      (before.run id steps).2 := by
  induction steps generalizing id before seen with
  | nil => exact .rests .refl
  | cons step rest inductionHypothesis =>
      have later : some (.watch name) ∉ rest := fun member =>
        once (List.mem_cons_of_mem _ member)
      cases step with
      | none => exact inductionHypothesis regular known (id + 1) later
      | some step =>
          have evolves := (take_taken id step).evolves regular
          have there := regular.persists evolves
          by_cases looks : step = .pollWatch name
          · subst looks
            rw [take_pollWatch known] at there
            have goesOn := inductionHypothesis there (lookup_looked before name) (id + 1) later
            simp only [run, take_pollWatch known]
            rw [readings_looked rfl]
            exact .looks .refl rfl (take_pollWatch known id) goesOn
          · have apart := lookup_watches_take before id (apart_of_once once looks)
            have goesOn := inductionHypothesis there (apart.trans known) (id + 1) later
            simp only [run]
            rw [readings_apart looks]
            exact goesOn.begins evolves apart

end Subscribers

/-! ## Beginnings -/

section Beginnings

variable {origin reached : Deployment}

theorem Delivered.regular (delivered : origin.Delivered) : origin.Regular :=
  delivered.begins.1.regular

theorem Delivered.watchful (delivered : origin.Delivered) : origin.Watchful := by
  have nobody : origin.jobs = [] := by
    cases delivered with
    | untouched untouched => exact untouched.jobs
    | assembled made =>
        rcases eq_of_assemble made with ⟨_, same⟩
        rw [settle_start_prepared] at same
        subst same
        rfl
  intro id job known
  unfold job? at known
  rw [nobody] at known
  cases known

theorem Delivered.lived (delivered : origin.Delivered) (evolves : Evolves origin reached) :
    reached.service.Lived reached.history := by
  cases delivered with
  | untouched untouched => exact untouched.lived evolves
  | @assembled settings registry acknowledger origin made =>
      rcases eq_of_assemble made with ⟨waits, same⟩
      rcases (unstarted_prepared settings registry acknowledger).announced waits settings with
        ⟨_, reaches, _⟩
      rw [← same] at reaches
      exact (untouched_prepared settings registry acknowledger).lived
        ((evolves_of_reaches reaches).trans evolves)

/-- Every history ends with the state that it leads to. -/
theorem getLast?_of_mem_histories {state : ServiceState} :
    ∀ history ∈ state.histories, history.getLast? = some state := by
  cases state <;> decide

end Beginnings

/-! ## What can be relied on -/

/-- Of the calls that waited for a state, those are still under way which the present state
does not answer. -/
structure LeftWaiting (middle reached : Deployment) : Prop where
  running : ∀ id job, middle.job? id = some job → job.call = .awaitRunning →
    (id, .aborted) ∉ reached.outcomes →
      ((∃ doomed, reached.job? id = some ⟨.awaitRunning, doomed⟩) ↔
        reached.service.state = .new ∨ reached.service.state = .starting)
  terminated : ∀ id job, middle.job? id = some job → job.call = .awaitTerminated →
    (id, .aborted) ∉ reached.outcomes →
      ((∃ doomed, reached.job? id = some ⟨.awaitTerminated, doomed⟩) ↔
        reached.service.state.isTerminal = false)

/-- A call that waits for a state ends with what the state is at that moment. -/
structure AnsweredTruly (before after : Deployment) : Prop where
  running : ∀ id doomed, before.job? id = some ⟨.awaitRunning, doomed⟩ → after.job? id = none →
    (doomed = true ∧ after.outcomes = before.outcomes ++ [(id, .aborted)]) ∨
      (before.service.state = .running ∧ after.outcomes = before.outcomes ++ [(id, .done)]) ∨
        ∃ actual, before.service.state = actual ∧
          (actual = .stopping ∨ actual = .terminated ∨ actual = .failed) ∧
          after.outcomes =
            before.outcomes ++ [(id, .failed (.unexpectedState .running actual))]
  terminated : ∀ id doomed, before.job? id = some ⟨.awaitTerminated, doomed⟩ →
    after.job? id = none →
      (doomed = true ∧ after.outcomes = before.outcomes ++ [(id, .aborted)]) ∨
        ∃ last, before.service.state = last ∧ last.isTerminal = true ∧
          after.outcomes = before.outcomes ++ [(id, .state last)] ∧
          ∀ later, Evolves after later → later.service.state = last

/-- What a subscriber reads from his subscription on: the first value and those that are
marked are some of the states of the one path, in their order, every other reading repeats
the one before it, and the path ends with the present state. -/
structure ReadsPath (opened : Deployment) (read : List Reading) (reached : Deployment) :
    Prop where
  values : (opened.service.state :: (read.filter (·.1)).map (·.2)).Sublist reached.history
  repeats : ((true, opened.service.state) :: read).IsChain
    fun earlier later => later.1 = false → later.2 = earlier.2
  path : reached.history ∈ reached.service.state.histories
  present : reached.history.getLast? = some reached.service.state

section Reliance

variable {origin before after middle reached : Deployment}

theorem leftWaiting (watchful : middle.Watchful) (regular : middle.Regular)
    (evolves : Evolves middle reached) (settled : reached.Settled) :
    LeftWaiting middle reached where
  running := by
    intro id job known asks kept
    have waiting := pending_iff_unanswered watchful regular evolves settled known
      (by rw [asks]; rfl) kept
    rw [asks] at waiting
    rw [waiting]
    cases reached.service.state <;> simp [Call.answer?]
  terminated := by
    intro id job known asks kept
    have waiting := pending_iff_unanswered watchful regular evolves settled known
      (by rw [asks]; rfl) kept
    rw [asks] at waiting
    rw [waiting]
    cases reached.service.state <;> simp [Call.answer?, ServiceState.isTerminal]

theorem answeredTruly (regular : before.Regular) (event : Event before after) :
    AnsweredTruly before after where
  running := by
    intro id doomed known gone
    rcases follows_of_observes regular event known rfl with
      ⟨still, waiting⟩ | ⟨_, _, outcome, outcomes, due⟩
    · rw [gone] at waiting
      cases waiting
    · cases doomed with
      | true => exact Or.inl ⟨rfl, by rw [outcomes, show outcome = .aborted from due]⟩
      | false =>
          refine Or.inr ?_
          replace due : Call.answer? before.service.state .awaitRunning = some outcome := due
          cases state : before.service.state <;> rw [state] at due <;> cases due <;>
            simp [outcomes]
  terminated := by
    intro id doomed known gone
    rcases follows_of_observes regular event known rfl with
      ⟨still, waiting⟩ | ⟨_, same, outcome, outcomes, due⟩
    · rw [gone] at waiting
      cases waiting
    · cases doomed with
      | true => exact Or.inl ⟨rfl, by rw [outcomes, show outcome = .aborted from due]⟩
      | false =>
          replace due : Call.answer? before.service.state .awaitTerminated = some outcome := due
          refine Or.inr ⟨before.service.state, rfl, ?_⟩
          cases ended : before.service.state.isTerminal with
          | false =>
              simp only [Call.answer?, ended] at due
              cases due
          | true =>
              simp only [Call.answer?, ended] at due
              cases due
              refine ⟨rfl, outcomes, fun later goesOn => ?_⟩
              have there := (regular.passes event).regular regular
              have rest := there.atRest goesOn (by rw [same]; exact ended)
              exact rest.state.trans same

theorem readsPath (regular : before.Regular)
    (lived : ∀ later, Evolves before later → later.service.Lived later.history) {name : String}
    {read : List Reading} (looksOn : LooksOn name (before.looked name) read reached) :
    ReadsPath (before.looked name) read reached := by
  have looks := evolves_looked before name
  have path := (lived _ (looks.trans looksOn.evolves)).path
  have opened : (before.looked name).history.getLast? = some before.service.state :=
    getLast?_of_mem_histories _ (lived _ looks).path
  rcases looksOn.reads (regular.persists looks) (lookup_looked before name)
    (.none before.service) with ⟨entered, states, reads⟩
  refine ⟨?_, reads.repeats true, path, getLast?_of_mem_histories _ path⟩
  -- The history goes on from the state that the subscriber found first.
  rcases List.getLast?_eq_some_iff.mp opened with ⟨past, split⟩
  have history : reached.history = past ++ before.service.state :: entered := by
    unfold history at split ⊢
    rw [states, ← List.cons_append, split, List.append_assoc, List.singleton_append]
  rw [history]
  exact (reads.sublist.cons_cons _).trans (List.sublist_append_right past _)

/-- A subscriber who looks, and looks again when anything has happened in between, is told
whether a state has been entered meanwhile. -/
theorem marked_iff_entered (regular : before.Regular) {name : String}
    (evolves : Evolves (before.looked name) reached)
    (apart : reached.watches.lookup name = (before.looked name).watches.lookup name)
    (last : Nat) :
    (reached.take last (.pollWatch name)).1 =
      .watch (reached.journal.states != before.journal.states) reached.service.state := by
  have looks := evolves_looked before name
  rw [take_pollWatch (apart.trans (lookup_looked before name))]
  rcases (regular.persists looks).enters evolves with ⟨entered, states, enters⟩
  have version : reached.service.version = before.service.version + entered.length :=
    enters.version
  replace states : reached.journal.states = before.journal.states ++ entered := states
  have same : (before.service.version != before.service.version + entered.length) =
      (before.journal.states ++ entered != before.journal.states) := by
    cases entered with
    | nil => simp
    | cons first rest =>
        have counts : (before.service.version !=
            before.service.version + (first :: rest).length) = true := bne_iff_ne.mpr (by simp)
        have grows : (before.journal.states ++ first :: rest != before.journal.states) = true :=
          bne_iff_ne.mpr (by simp)
        rw [counts, grows]
  rw [version, states, same]

/-- Who subscribes, or looks again, has looked. -/
theorem take_look {moment : Deployment} {look : Step} {name : String} (number : Nat)
    (looks : look = .watch name ∨
      (look = .pollWatch name ∧ moment.watches.lookup name ≠ none)) :
    (moment.take number look).2 = moment.looked name := by
  rcases looks with same | ⟨same, subscribed⟩
  · rw [same]
    rfl
  · rcases Option.ne_none_iff_exists'.mp subscribed with ⟨seen, known⟩
    rw [same, take_pollWatch known]

theorem eq_of_enter_error {moment after : Deployment} {next : ServiceState} {error : FailureError}
    (refused : moment.enter next = (.error error, after)) :
    error = .illegalTransition moment.service.state next ∧ after = moment := by
  cases can : moment.service.state.canBecome next with
  | true =>
      rw [enter_of_canBecome can] at refused
      cases refused
  | false =>
      rw [enter_of_cannot can] at refused
      cases refused
      exact ⟨rfl, rfl⟩

end Reliance

/-- Whatever happens to a service, and over whatever queue: in a settled deployment those
who wait for a state are exactly those whom the present state does not answer; each is
answered with the state at his turn, and the last state is the one that remains; whoever
subscribes and looks on, at whatever moments, reads a part of the one path, and is told of a
change exactly if there has been one since his last look; and a refused transition names the
present state and changes nothing. -/
theorem state_observed {origin : Deployment} (delivered : origin.Delivered) :
    (∀ middle reached, Evolves origin middle → Evolves middle reached → reached.Settled →
      LeftWaiting middle reached) ∧
    (∀ before after, Evolves origin before → Event before after → AnsweredTruly before after) ∧
    (∀ moment, Evolves origin moment → ∀ number name,
      (∀ read reached, LooksOn name (moment.take number (.watch name)).2 read reached →
        ReadsPath (moment.take number (.watch name)).2 read reached) ∧
      ∀ id steps, some (.watch name) ∉ steps →
        LooksOn name (moment.take number (.watch name)).2
          (readings name steps ((moment.take number (.watch name)).2.run id steps).1)
          ((moment.take number (.watch name)).2.run id steps).2) ∧
    (∀ moment look number name, Evolves origin moment →
      look = .watch name ∨ (look = .pollWatch name ∧ moment.watches.lookup name ≠ none) →
      (∀ reached, Evolves (moment.take number look).2 reached →
        reached.watches.lookup name = (moment.take number look).2.watches.lookup name →
        ∀ last, (reached.take last (.pollWatch name)).1 =
          .watch (reached.journal.states != moment.journal.states) reached.service.state) ∧
      ∀ id between last, (∀ step, some step ∈ between → step.subscriber? ≠ some name) →
        (((moment.take number look).2.run id between).2.take last (.pollWatch name)).1 =
          .watch (((moment.take number look).2.run id between).2.journal.states !=
              moment.journal.states)
            ((moment.take number look).2.run id between).2.service.state) ∧
    ∀ moment, Evolves origin moment → ∀ next error after,
      moment.enter next = (.error error, after) →
        error = .illegalTransition moment.service.state next ∧ after = moment := by
  have regular := delivered.regular
  refine ⟨?_, ?_, ?_, ?_, ?_⟩
  · intro middle reached first second settled
    exact leftWaiting (delivered.watchful.evolves regular first) (regular.persists first) second
      settled
  · exact fun before after evolves event => answeredTruly (regular.persists evolves) event
  · intro moment evolves number name
    have there := regular.persists evolves
    constructor
    · intro read reached looksOn
      exact readsPath there (fun later goesOn => delivered.lived (evolves.trans goesOn)) looksOn
    · intro id steps once
      exact looksOn_run (there.persists (evolves_looked moment name)) (lookup_looked moment name)
        id steps once
  · intro moment look number name evolves looks
    have there := regular.persists evolves
    rw [take_look number looks]
    constructor
    · exact fun reached goesOn apart last => marked_iff_entered there goesOn apart last
    · intro id between last apart
      have opened := there.persists (evolves_looked moment name)
      exact marked_iff_entered there (evolves_run opened id between)
        (lookup_watches_run _ id between apart) last
  · exact fun moment _ next error after refused => eq_of_enter_error refused

/-- Somebody subscribes and two wait before the service is started; it is stopped before it
runs. -/
def watchedFromTheStart : List (Option Step) :=
  [some (.watch "s"), some .awaitRunning, some .awaitTerminated, some .start, some .stop,
    some .settle]

/-- The subscriber looks twice, and once more when the service has ended. -/
def lookingOn : List (Option Step) :=
  [some (.pollWatch "s"), some (.pollWatch "s"), some (.advance defaultDrainWait),
    some (.pollWatch "s")]

/-- Whoever waits for the service to run learns that it is stopping, and whoever waits for
its end is still waiting; the subscriber reads two of the states, and is told that there
have been others. -/
theorem state_observed_watchedFromTheStart :
    narrow.Delivered ∧
      (narrow.run 0 watchedFromTheStart).2.Settled ∧
      LeftWaiting (narrow.run 0 (watchedFromTheStart.take 3)).2
        (narrow.run 0 watchedFromTheStart).2 ∧
      (narrow.run 0 watchedFromTheStart).2.outcomes =
        [(1, .failed (.unexpectedState .running .stopping))] ∧
      (narrow.run 0 watchedFromTheStart).2.pending = [2] ∧
      ReadsPath (narrow.take 0 (.watch "s")).2
        (readings "s" (watchedFromTheStart.drop 1 ++ lookingOn)
          ((narrow.take 0 (.watch "s")).2.run 1 (watchedFromTheStart.drop 1 ++ lookingOn)).1)
        ((narrow.take 0 (.watch "s")).2.run 1 (watchedFromTheStart.drop 1 ++ lookingOn)).2 ∧
      readings "s" (watchedFromTheStart.drop 1 ++ lookingOn)
          ((narrow.take 0 (.watch "s")).2.run 1 (watchedFromTheStart.drop 1 ++ lookingOn)).1 =
        [(true, .stopping), (false, .stopping), (true, .terminated)] := by
  have delivered : narrow.Delivered := .untouched ⟨rfl, rfl, rfl, rfl, rfl, .nil⟩
  have observed := state_observed delivered
  have settled : (narrow.run 0 watchedFromTheStart).2.Settled := by decide +kernel
  have early := evolves_run delivered.regular 0 (watchedFromTheStart.take 3)
  have later := evolves_run (delivered.regular.persists early) 3 (watchedFromTheStart.drop 3)
  rcases observed.2.2.1 narrow .refl 0 "s" with ⟨readsOn, run⟩
  have looksOn := run 1 (watchedFromTheStart.drop 1 ++ lookingOn) (by decide +kernel)
  refine ⟨delivered, settled, observed.1 _ _ early later settled, ?_, ?_,
    readsOn _ _ looksOn, ?_⟩ <;> decide +kernel

end Deployment
end FailureDispatch

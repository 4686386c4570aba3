import FailureDispatch.Proofs.Fairness.Happening
import FailureDispatch.Proofs.Fairness.Roles

/-!
# Happenings are steps of the crowd

What happens to a deployment is a step of the crowd at its queue.  Turns are
what somebody does there, or idling; a request may close the queue or submit a
batch; and whatever else happens wakes some for reasons of their own.
-/

namespace FailureDispatch
namespace Deployment

section Turns

variable {before after : Deployment} {queue next : SubmissionQueue Actor Batch}

/-- Whatever wakes some for reasons of their own and leaves all roles alone. -/
theorem step_of_stirs {woken : List Actor} (role : after.role = before.role)
    (ready : after.ready = lineUpAll before.ready woken)
    (calm : ∀ actor ∈ woken, before.role actor ≠ .submits true) :
    (before.crowd queue).Step (after.crowd queue) := by
  rw [crowd, crowd, role, ready]
  exact .stirs calm

/-- Whoever can act turns to the queue. -/
theorem step_of_approach {who : Actor} (present : who ∈ before.ready)
    (apart : before.role who = .apart)
    (role : after.role = Function.update before.role who (.consumes .line))
    (ready : after.ready = before.ready) : (before.crowd queue).Step (after.crowd queue) := by
  rw [crowd, crowd, role, ready]
  exact .approaches present apart

theorem step_of_comes {who : Actor} {role : Role} (fresh : before.role who = .apart)
    (new : role = .apart ∨ role = .submits false ∨ role = .consumes .line)
    (comes : after.role = Function.update before.role who role)
    (ready : after.ready = lineUp before.ready who) :
    (before.crowd queue).Step (after.crowd queue) := by
  rw [crowd, crowd, comes, ready]
  exact .comes fresh new

theorem step_of_dooms (who : Actor)
    (role : after.role = Function.update before.role who (before.role who).doomed)
    (ready : after.ready = lineUp before.ready who) :
    (before.crowd queue).Step (after.crowd queue) := by
  rw [crowd, crowd, role, ready]
  exact .dooms who

/-- The turn of whoever is first in line. -/
theorem step_of_turn {who : Actor} {rest early woken late : List Actor} {earlier later : Role}
    {progress : Progress} (line : before.ready = who :: rest) (here : before.role who = earlier)
    (acts : Acts queue who earlier woken next later)
    (calm : ∀ actor ∈ early ++ late, before.role actor ≠ .submits true)
    (stays : progress = .goesOn → later = .apart)
    (role : after.role = Function.update before.role who later)
    (ready : after.ready = progress.left (lineUpAll before.ready (early ++ woken ++ late))) :
    (before.crowd queue).Step (after.crowd next) := by
  rw [crowd, crowd, role, ready]
  exact .turn line here acts calm stays

theorem role_afterTurn {woken : List Actor} {service : Service}
    {gates : List (String × Permits Actor)} {trace : Journal} (progress : Progress) :
    ((before.worked woken next service gates trace).afterTurn progress).role =
      Function.update before.role .worker service.worker.role := by
  funext actor
  cases progress <;> cases actor <;> rfl

theorem ready_afterTurn {woken : List Actor} {service : Service}
    {gates : List (String × Permits Actor)} {trace : Journal} (progress : Progress) :
    ((before.worked woken next service gates trace).afterTurn progress).ready =
      progress.left (lineUpAll before.ready woken) := by
  cases progress <;> rfl

/-- A turn of the worker is a step of the crowd. -/
theorem WorkerTurn.step {progress : Progress} {rest woken : List Actor} {service : Service}
    {trace : Journal} (turn : WorkerTurn before queue progress woken next service trace)
    (distinct : (before.jobs.map Prod.fst).Nodup) (line : before.ready = .worker :: rest)
    (gates : List (String × Permits Actor)) :
    (before.crowd queue).Step
      (((before.worked woken next service gates trace).afterTurn progress).crowd next) := by
  -- What the worker does at the queue, with others woken for reasons of their own.
  have acts {earlier later : Role} {first late : List Actor}
      (here : before.service.worker.role = earlier) (there : service.worker.role = later)
      (acts : Acts queue .worker earlier first next later) (wakes : woken = first ++ late)
      (calm : ∀ actor ∈ late, before.role actor ≠ .submits true)
      (stays : progress = .goesOn → later = .apart) :
      (before.crowd queue).Step
        (((before.worked woken next service gates trace).afterTurn progress).crowd next) := by
    have none : ∀ actor ∈ [] ++ late, before.role actor ≠ .submits true := calm
    refine step_of_turn line here acts none stays ?_ ?_
    · rw [role_afterTurn, there]
    · rw [ready_afterTurn, wakes]
      rfl
  have idles {late : List Actor} (here : before.service.worker.role = .apart)
      (there : service.worker.role = .apart) (same : next = queue) (wakes : woken = late)
      (calm : ∀ actor ∈ late, before.role actor ≠ .submits true) :
      (before.crowd queue).Step
        (((before.worked woken next service gates trace).afterTurn progress).crowd next) := by
    subst same
    have wakes : woken = [] ++ late := wakes
    exact acts here there .idles wakes calm fun _ => rfl
  have observers := calm_observers distinct
  have head : Actor.worker ∈ before.ready := by
    rw [line]
    exact List.mem_cons_self
  cases turn with
  | rests still =>
      have here : before.service.worker.role = .apart := by
        rcases still with same | ⟨_, same⟩ | ⟨same, _⟩ <;> (rw [same]; rfl)
      exact idles here here rfl rfl (calm_nobody before)
  | startsUp here early => exact idles (by rw [here]; rfl) rfl rfl rfl observers
  | startsLate here late => exact idles (by rw [here]; rfl) rfl rfl rfl (calm_nobody before)
  | turnsToQueue here running untold =>
      have apart : before.role .worker = .apart := by
        rw [role, here]
        rfl
      exact step_of_approach head apart (role_afterTurn .goesOn) rfl
  | leavesLoop here stopping => exact idles (by rw [here]; rfl) rfl rfl rfl (calm_nobody before)
  | interrupted here told =>
      exact acts (by rw [here]; rfl) rfl (acts_of_depart queue .worker _) (List.append_nil _).symm
        (calm_nobody before) fun _ => rfl
  | shutOut seeks looked =>
      exact acts seeks.role_eq rfl (acts_of_exhausted looked) (List.append_nil _).symm
        (calm_nobody before) fun _ => rfl
  | unparks here told => exact idles (by rw [here]; rfl) rfl rfl rfl (calm_nobody before)
  | waits seeks looked =>
      exact acts seeks.role_eq rfl (acts_of_waiting looked) (List.append_nil _).symm
        (calm_nobody before) Progress.leaves_of_rests
  | drainWaits here early looked =>
      exact acts (by rw [here]; rfl) rfl (acts_of_waiting looked) (List.append_nil _).symm
        (calm_nobody before) Progress.leaves_of_rests
  | takes seeks looked opens _ _ =>
      exact acts seeks.role_eq opens.role_eq (acts_of_item looked) (List.append_nil _).symm
        (calm_nobody before) fun _ => rfl
  | dispatches here _ _ _ => exact idles (by rw [here]; rfl) rfl rfl rfl (calm_nobody before)
  | @finishes phase _ here _ =>
      exact idles (by rw [here]; rfl) (by cases phase <;> rfl) rfl rfl
        (calm_nobody before)
  | turnsToDrain here =>
      have apart : before.role .worker = .apart := by
        rw [role, here]
        rfl
      exact step_of_approach head apart (role_afterTurn .goesOn) rfl
  | completes here gives =>
      refine acts (by rw [here]; rfl) rfl (acts_of_gives gives) rfl ?_ fun _ => rfl
      intro actor member
      rcases List.mem_append.mp member with observer | joiner
      · exact observers actor observer
      · exact calm_joiners distinct actor joiner

/-- The turn of a caller whose call goes on. -/
theorem step_of_caller {id : Nat} {rest woken : List Actor} {earlier later : Role}
    {left : Deployment} (line : before.ready = .caller id :: rest)
    (here : before.role (.caller id) = earlier) (early : List Actor)
    (acts : Acts queue (.caller id) earlier woken next later)
    (calm : ∀ actor ∈ early, before.role actor ≠ .submits true)
    (role : left.role = Function.update before.role (.caller id) later)
    (ready : left.ready = lineUpAll before.ready (early ++ woken)) :
    (before.crowd queue).Step (left.stepBack.crowd next) := by
  have calm : ∀ actor ∈ early ++ [], before.role actor ≠ .submits true := by
    rw [List.append_nil]
    exact calm
  refine step_of_turn line here acts calm Progress.leaves_of_rests role ?_
  rw [List.append_nil, ← ready]
  rfl

/-- The turn of a caller whose call ends. -/
theorem step_of_end {id : Nat} {rest woken : List Actor} {earlier : Role} {outcome : Outcome}
    {left : Deployment} (line : before.ready = .caller id :: rest)
    (here : before.role (.caller id) = earlier) (early : List Actor)
    (acts : Acts queue (.caller id) earlier woken next .apart)
    (calm : ∀ actor ∈ early, before.role actor ≠ .submits true)
    (role : left.role = before.role)
    (ready : left.ready = lineUpAll before.ready (early ++ woken)) :
    (before.crowd queue).Step ((left.finish id outcome).stepBack.crowd next) := by
  refine step_of_caller line here early acts calm ?_ ready
  rw [role_finish, role]

/-- The turn of a caller who goes away as he came. -/
theorem step_of_idle {id : Nat} {rest : List Actor} (line : before.ready = .caller id :: rest)
    (here : before.role (.caller id) = .apart) :
    (before.crowd queue).Step (before.stepBack.crowd queue) := by
  refine step_of_caller line here [] .idles nofun ?_ rfl
  rw [← here]
  exact (Function.update_eq_self _ _).symm

/-- Those whom a request to stop concerns do not wait for slots. -/
theorem calm_requestStop (distinct : (before.jobs.map Prod.fst).Nodup) :
    ∃ woken, before.requestStop.ready = lineUpAll before.ready woken ∧
      ∀ actor ∈ woken, before.role actor ≠ .submits true := by
  rcases requestStop_wakes before with ⟨woken, _, _, _, among, same⟩
  refine ⟨woken, by rw [same], ?_⟩
  intro actor member
  rcases among actor member with worker | observer
  · rw [worker]
    exact calm_worker before
  · exact calm_observers distinct actor observer

theorem calm_toldBy (distinct : (before.jobs.map Prod.fst).Nodup) (stopFirst : Bool) :
    ∃ woken, (before.toldBy stopFirst).ready = lineUpAll before.ready woken ∧
      ∀ actor ∈ woken, before.role actor ≠ .submits true := by
  cases stopFirst with
  | true => exact calm_requestStop distinct
  | false => exact ⟨[], rfl, nofun⟩

theorem role_toldBy (deployment : Deployment) (stopFirst : Bool) :
    (deployment.toldBy stopFirst).role = deployment.role := by
  cases stopFirst with
  | true => exact role_requestStop deployment
  | false => rfl

theorem source_toldBy (deployment : Deployment) (stopFirst : Bool) :
    (deployment.toldBy stopFirst).source = deployment.source := by
  rcases toldBy_eq deployment stopFirst with ⟨_, _, _, _, _, same⟩
  rw [same]

theorem job?_toldBy (deployment : Deployment) (stopFirst : Bool) (id : Nat) :
    (deployment.toldBy stopFirst).job? id = deployment.job? id := by
  rcases toldBy_eq deployment stopFirst with ⟨_, _, _, _, _, same⟩
  rw [same]
  rfl

theorem acts_of_closesBy {door : Door} {woken : List Actor}
    (closes : ClosesBy queue door woken next) (who : Actor) :
    Acts queue who .apart woken next .apart := by
  rcases closes with ⟨_, rfl, rfl⟩ | ⟨_, same⟩
  · exact .idles
  · have roused : woken = queue.close.1 := congrArg Prod.fst same
    have closed : next = queue.close.2 := congrArg Prod.snd same
    rw [roused, closed]
    exact .closes

/-- A turn of a caller is a step of the crowd. -/
theorem CallerTurn.step {id : Nat} {rest : List Actor} (turn : CallerTurn before queue id after)
    (buffered : before.source = .buffered queue) (distinct : (before.jobs.map Prod.fst).Nodup)
    (line : before.ready = .caller id :: rest) :
    ∃ next, after.stepBack.source = .buffered next ∧
      (before.crowd queue).Step (after.stepBack.crowd next) := by
  cases turn with
  | absent gone => exact ⟨queue, buffered, step_of_idle line (role_of_absent gone)⟩
  | @lingers call job patient =>
      have apart : call.role = .apart := by
        rcases patient with observes | ⟨awaits, _⟩
        · cases call <;> first | rfl | cases observes
        · cases call <;> first | rfl | cases awaits
      exact ⟨queue, buffered, step_of_idle line ((role_of_job? job).trans apart)⟩
  | accepted job tried =>
      rw [adopt_eq]
      exact ⟨_, rfl, step_of_end line (role_of_job? job) [] (acts_of_attempt tried) nofun
        (role_congr rfl rfl) rfl⟩
  | refused job tried failed =>
      rw [adopt_eq]
      exact ⟨_, rfl, step_of_end line (role_of_job? job) [] (acts_of_attempt tried) nofun
        (role_congr rfl rfl) rfl⟩
  | withdraws job =>
      rw [adopt_eq]
      exact ⟨_, rfl, step_of_end line (role_of_job? job) [] .withdraws nofun
        (role_congr rfl rfl) rfl⟩
  | catches job consumes looked =>
      have here := (role_of_job? job).trans (Job.role_of_place? consumes false)
      rw [adopt_eq]
      exact ⟨_, rfl, step_of_end line here [] (acts_of_item looked) nofun (role_congr rfl rfl) rfl⟩
  | misses job consumes looked failed =>
      have here := (role_of_job? job).trans (Job.role_of_place? consumes false)
      rw [adopt_eq]
      exact ⟨_, rfl, step_of_end line here [] (acts_of_exhausted looked) nofun
        (role_congr rfl rfl) rfl⟩
  | @departs call doomed place outcome job consumes failed =>
      have here := (role_of_job? job).trans (Job.role_of_place? consumes doomed)
      rw [adopt_eq]
      exact ⟨_, rfl, step_of_end line here [] (acts_of_depart queue _ place) nofun
        (role_congr rfl rfl) rfl⟩
  | timesOut job consumes looked =>
      have here := (role_of_job? job).trans (Job.role_of_place? consumes false)
      rw [adopt_eq, adopt_eq]
      exact ⟨_, rfl, step_of_end line here [] (acts_of_timeout looked) nofun
        (role_congr rfl rfl) (lineUpAll_lineUpAll _ _ _)⟩
  | queues job tried =>
      rw [adopt_eq]
      refine ⟨_, rfl, step_of_caller line (role_of_job? job) [] (acts_of_attempt tried) nofun ?_ rfl⟩
      exact role_setJob job _
  | @stays call place reached woken next job consumes looked =>
      have here := (role_of_job? job).trans (Job.role_of_place? consumes false)
      rw [adopt_eq]
      refine ⟨_, rfl, step_of_caller line here [] (acts_of_waiting looked) nofun ?_ rfl⟩
      rw [← Call.role_waitingAt consumes reached]
      exact role_setJob job _
  | @asks door stopFirst job going =>
      rcases calm_toldBy distinct stopFirst with ⟨woken, ready, calm⟩
      have known := (job?_toldBy before stopFirst id).trans job
      refine ⟨queue, (source_toldBy before stopFirst).trans buffered,
        step_of_caller line (role_of_job? job) woken .idles calm ?_ ?_⟩
      · rw [role_setJob known, role_toldBy]
        rfl
      · rw [List.append_nil]
        exact ready
  | @joins door stopFirst count job ended =>
      rcases calm_toldBy distinct stopFirst with ⟨woken, ready, calm⟩
      have here : before.role (.caller id) = .apart := role_of_job? job
      have known := (job?_toldBy before stopFirst id).trans job
      have kept : ((before.toldBy stopFirst).setJob id { call := .joining door }).role =
          before.role := by
        rw [role_setJob known, role_toldBy]
        exact (congrArg (Function.update _ _) here.symm).trans (Function.update_eq_self _ _)
      have source : ((before.toldBy stopFirst).setJob id { call := .joining door }).source =
          .buffered queue := (source_toldBy before stopFirst).trans buffered
      rcases report_eq source id door count with ⟨roused, next, _, _, closes, same⟩
      rw [same]
      refine ⟨next, rfl, step_of_end line here woken (acts_of_closesBy closes _) calm
        ((role_congr rfl rfl).trans kept) ?_⟩
      rw [← lineUpAll_lineUpAll, ← ready]
      rfl
  | @learns door count job ended =>
      rcases report_eq buffered id door count with ⟨roused, next, _, _, closes, same⟩
      rw [same]
      exact ⟨next, rfl, step_of_end line (role_of_job? job) [] (acts_of_closesBy closes _) nofun
        (role_congr rfl rfl) rfl⟩
  | letsGo job =>
      rcases calm_requestStop distinct with ⟨woken, ready, calm⟩
      refine ⟨queue, (source_toldBy before true).trans buffered,
        step_of_end line (role_of_job? job) woken .idles calm (role_requestStop before) ?_⟩
      rw [List.append_nil]
      exact ready
  | @givesUp call job free =>
      have apart : (Job.mk call true).role = .apart := by
        cases call with
        | submit _ _ begun => cases begun <;> first | rfl | cases free
        | _ => first | rfl | cases free
      exact ⟨queue, buffered, step_of_end line ((role_of_job? job).trans apart) [] .idles nofun rfl
        rfl⟩
  | @sees call outcome job observes seen =>
      have apart : call.role = .apart := by
        cases call <;> first | rfl | cases observes
      exact ⟨queue, buffered, step_of_end line ((role_of_job? job).trans apart) [] .idles nofun rfl
        rfl⟩

end Turns

/-! ## Requests and the clock -/

section Requests

variable {before after : Deployment} {queue : SubmissionQueue Actor Batch}

/-- A step of the crowd that leads to the queue of the given deployment. -/
def Follows (before : Deployment) (queue : SubmissionQueue Actor Batch) (after : Deployment) :
    Prop :=
  ∃ next, after.source = .buffered next ∧ (before.crowd queue).Step (after.crowd next)

/-- Nothing happens at the queue, whether or not somebody is woken. -/
theorem follows_of_stirs {woken : List Actor} (buffered : before.source = .buffered queue)
    (source : after.source = before.source) (role : after.role = before.role)
    (ready : after.ready = lineUpAll before.ready woken)
    (calm : ∀ actor ∈ woken, before.role actor ≠ .submits true) : Follows before queue after :=
  ⟨queue, source.trans buffered, step_of_stirs role ready calm⟩

theorem follows_of_calm (buffered : before.source = .buffered queue)
    (source : after.source = before.source) (role : after.role = before.role)
    (ready : after.ready = before.ready) : Follows before queue after := by
  have line : after.ready = lineUpAll before.ready [] := ready
  exact follows_of_stirs buffered source role line nofun

theorem follows_requestStop (buffered : before.source = .buffered queue)
    (distinct : (before.jobs.map Prod.fst).Nodup) : Follows before queue before.requestStop := by
  rcases calm_requestStop distinct with ⟨woken, ready, calm⟩
  exact follows_of_stirs buffered (source_toldBy before true) (role_requestStop before) ready calm

theorem follows_start (composed : before.Composed) (buffered : before.source = .buffered queue) :
    Follows before queue before.start.2 := by
  cases can : before.service.state.canBecome .starting with
  | false =>
      simp only [start, enter_of_cannot can]
      exact follows_of_calm buffered rfl rfl rfl
  | true =>
      have new : before.service.state = .new := by
        cases state : before.service.state <;> rw [state] at can <;>
          first | rfl | exact absurd can (by decide)
      have idle := (composed.sound.course.idle_of_new new).1
      simp only [start, enter_of_canBecome can, setWorker, wake_eq]
      refine follows_of_stirs buffered rfl ?_ (lineUpAll_lineUpAll _ _ [.worker]) ?_
      · funext actor
        cases actor with
        | worker =>
            simp only [role, idle]
            rfl
        | caller id => rfl
      · intro actor member
        rcases List.mem_append.mp member with observer | worker
        · exact calm_observers composed.distinct actor observer
        · rw [List.mem_singleton.mp worker]
          exact calm_worker before

theorem follows_submitNow (buffered : before.source = .buffered queue) (door : Door)
    (draft : Draft) : Follows before queue (before.submitNow door draft).2 := by
  simp only [submitNow, buffered]
  split
  · exact follows_of_calm buffered rfl rfl rfl
  · next batch built =>
    have step : (before.crowd queue).Step _ := .offers batch
    split
    all_goals
      next tried =>
      rw [crowd, tried] at step
      rw [adopt_eq]
      exact ⟨_, rfl, step⟩

/-- A request is a step of the crowd. -/
theorem Request.follows (request : Request before after) (composed : before.Composed)
    (buffered : before.source = .buffered queue) : Follows before queue after := by
  cases request with
  | release gate count =>
      rw [wakeAll_eq]
      refine follows_of_stirs buffered rfl (role_congr rfl rfl) rfl ?_
      intro actor member
      rw [composed.gated.gate gate actor (List.mem_of_mem_take member)]
      exact calm_worker before
  | cancel token =>
      rw [wakeAll_eq]
      refine follows_of_stirs buffered rfl (role_congr rfl rfl) rfl ?_
      apply calm_callersWith composed.distinct
      intro call uses
      cases call with
      | consume other place => exact nofun
      | _ => cases uses
  | submitNow door draft => exact follows_submitNow buffered door draft
  | close source =>
      cases buffered.symm.trans source
      rw [adopt_eq]
      have step : (before.crowd queue).Step _ := .closes
      exact ⟨_, rfl, step⟩
  | logStats tag =>
      rw [logStats_eq]
      exact follows_of_calm buffered rfl (role_congr rfl rfl) rfl
  | start => exact follows_start composed buffered
  | stop held => exact follows_requestStop buffered composed.distinct
  | drop =>
      unfold dropHolder
      split
      · exact follows_of_calm buffered rfl rfl rfl
      all_goals
        have dropped : ({ before with holder := .nobody } : Deployment).source = .buffered queue :=
          buffered
        exact follows_requestStop dropped composed.distinct
  | watch watches => exact follows_of_calm buffered rfl (role_congr rfl rfl) rfl

/-- The clock rings for the worker and for those who wait for so long only. -/
theorem calm_dueAt (distinct : (before.jobs.map Prod.fst).Nodup) (time : Nat) :
    ∀ actor ∈ before.dueAt time, before.role actor ≠ .submits true := by
  intro actor member
  rcases List.mem_map.mp member with ⟨alarm, among, same⟩
  rcases List.mem_append.mp (List.mem_filter.mp among).1 with worker | waiting
  · rcases List.mem_map.mp worker with ⟨_, _, alarmed⟩
    rw [← same, ← alarmed]
    exact calm_worker before
  · rcases List.mem_filterMap.mp waiting with ⟨entry, present, alarmed⟩
    rcases Option.map_eq_some_iff.mp alarmed with ⟨deadline, waits, named⟩
    have here := role_of_job? (job?_of_mem distinct present)
    have who : Actor.caller entry.1 = actor := (congrArg Prod.fst named).trans same
    rw [← who, here]
    exact Job.calm_of_alarm? waits

/-- Whatever happens to a deployment is a step of its crowd. -/
theorem Happening.follows (happening : Happening before after) (composed : before.Composed)
    (buffered : before.source = .buffered queue) : Follows before queue after := by
  have course := composed.sound.course
  cases happening with
  | turn =>
      unfold tick
      split
      · exact follows_of_calm buffered rfl rfl rfl
      · next rest line =>
        rcases advanceWorker_turn buffered course with
          ⟨progress, woken, next, service, gates, trace, same, turn, _⟩
        have step := turn.step composed.distinct line gates
        rw [same]
        cases progress with
        | goesOn => exact ⟨next, rfl, step⟩
        | rests => exact ⟨next, rfl, step⟩
      · next id rest line =>
        have turn : CallerTurn before queue id (before.advanceCaller id) :=
          advanceCaller_turn buffered course
        exact turn.step buffered composed.distinct line
  | @begins id call fresh may =>
      have gone : before.job? id = none := by
        apply List.lookup_eq_none_iff.mpr
        intro entry member
        exact bne_iff_ne.mpr (Ne.symm (fresh entry member))
      have new : call.role = .apart ∨ call.role = .submits false ∨ call.role = .consumes .line := by
        have isNew := may.isNew
        cases call with
        | submit door batch begun =>
            cases begun with
            | false => exact Or.inr (Or.inl rfl)
            | true => cases isNew
        | consume token place | consumeWithin deadline place =>
            cases place with
            | line => exact Or.inr (Or.inr rfl)
            | seat => cases isNew
        | _ => exact Or.inl rfl
      rw [wake_eq]
      refine ⟨queue, buffered, step_of_comes (role_of_absent gone) new ?_ rfl⟩
      exact (role_congr rfl rfl).trans (role_addJob gone call)
  | @aborts id job known =>
      rw [wake_eq]
      refine ⟨queue, buffered, step_of_dooms (.caller id) ?_ rfl⟩
      rw [role_of_job? known, ← Job.role_doomed]
      exact (role_congr rfl rfl).trans (role_setJob known _)
  | rings time later =>
      rw [ring, wakeAll_eq]
      exact follows_of_stirs buffered rfl (role_congr rfl rfl) rfl
        (calm_dueAt composed.distinct time)
  | passes time later => exact follows_of_calm buffered rfl (role_congr rfl rfl) rfl
  | requests request => exact request.follows composed buffered
  | handsOver holder held => exact follows_of_calm buffered rfl (role_congr rfl rfl) rfl
  | announces settings held =>
      rw [announce_eq buffered]
      exact follows_of_calm buffered rfl (role_congr rfl rfl) rfl

end Requests

end Deployment
end FailureDispatch

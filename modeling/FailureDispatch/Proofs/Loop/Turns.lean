import FailureDispatch.Proofs.Loop.Rounds

/-!
# What a turn in the main loop comes to

`Goes` says, for a worker in the main loop whom nobody has told to stop, where a turn
leaves him, what becomes of his queue, and which results the turn brings.  What he
writes is not repeated here (`Living`); this is what decides how a history goes on.
-/

namespace FailureDispatch

/-- Whether it is for others to act: for somebody to start or to stop the service, or for
the queue to answer. -/
def Worker.rests : Worker → Bool
  | .idle | .parked | .fetching (.queued _) | .fetching .forStop => true
  | _ => false

namespace Deployment

/-- What the main loop makes of an answer of a scripted queue. -/
inductive Heeds (backlog : Nat) : QueueAnswer → Worker → List Result → Prop where
  | taken {batch worker}
      (busy : worker = .looping ∨ ∃ dispatch, worker = .dispatching .main dispatch) :
      Heeds backlog (.batch batch) worker [.batch batch]
  | missed (error : FailureError) :
      Heeds backlog (.error error) (.afterMiss error) [.error error backlog]
  | nothing : Heeds backlog .nothing (.fetching .forStop) []

/-- What becomes of the worker and of the queue, and which results the turn brings. -/
inductive Goes (before : Deployment) : Worker → Source → List Result → Prop where
  | rests (quiet : before.service.worker.rests = true) :
      Goes before before.service.worker before.source []
  | startsUp (here : before.service.worker = .fresh) : Goes before .looping before.source []
  | calls {queue} (here : before.service.worker = .looping)
      (buffered : before.source = .buffered queue) :
      Goes before (.fetching (.queued .line)) before.source []
  | calledOut {queue} (here : before.service.worker = .looping)
      (scripted : before.source = .scripted queue) (out : queue.waits = []) :
      Goes before (.fetching .forStop) before.source []
  | awaits {queue reply rest time} (here : before.service.worker = .looping)
      (scripted : before.source = .scripted queue) (next : queue.waits = reply :: rest) :
      Goes before (.fetching (.delayed time reply.answer))
        (.scripted { queue with waits := rest }) []
  | answeredAtOnce {queue reply rest worker results} (here : before.service.worker = .looping)
      (scripted : before.source = .scripted queue) (next : queue.waits = reply :: rest)
      (answers : Heeds (rest.length + queue.drains.length) reply.answer worker results) :
      Goes before worker (.scripted { queue with waits := rest }) results
  | answered {time answer worker results}
      (here : before.service.worker = .fetching (.delayed time answer))
      (due : time ≤ before.now) (answers : Heeds before.backlog answer worker results) :
      Goes before worker before.source results
  | waits {time answer} (here : before.service.worker = .fetching (.delayed time answer))
      (early : before.now < time) : Goes before before.service.worker before.source []
  | seeks {place worker results} {queue next : SubmissionQueue Actor Batch}
      (here : before.service.worker = .fetching (.queued place))
      (buffered : before.source = .buffered queue) : Goes before worker (.buffered next) results
  | dispatches {dispatch later} (here : before.service.worker = .dispatching .main dispatch)
      (most : later.toil ≤ dispatch.toil)
      (less : before.WaitIsOver → later.toil < dispatch.toil) :
      Goes before (.dispatching .main later) before.source []
  | completes {dispatch} (here : before.service.worker = .dispatching .main dispatch) :
      Goes before .looping before.source []

section Turns

variable {origin before middle after : Deployment} {results : List Result}

/-- What has been written before without a result brings none. -/
theorem heard_of_silent {trace rest : Journal} (journal : middle.journal = before.journal ++ trace)
    (silent : ∀ backlog, trace.results backlog = [])
    (continued : after.journal = middle.journal ++ rest) :
    heard before after = heard middle after := by
  have whole : after.journal = before.journal ++ (trace ++ rest) := by
    rw [continued, journal, List.append_assoc]
  rw [heard_eq whole, heard_eq continued, Journal.results_append, silent, List.nil_append]

/-- A turn in which nothing of the queue is written brings no result. -/
theorem heard_of_trace {trace : Journal} (journal : after.journal = before.journal ++ trace)
    (silent : ∀ backlog, trace.results backlog = []) : heard before after = [] := by
  rw [heard_eq journal, silent]

/-- A scripted queue answers. -/
theorem answerMain_answers {answer : QueueAnswer} (calm : answer.isPanic = false) :
    (∃ trace, (middle.answerMain answer).journal = middle.journal ++ trace) ∧
      (middle.answerMain answer).source = middle.source ∧
      Heeds middle.backlog answer (middle.answerMain answer).service.worker
        (heard middle (middle.answerMain answer)) := by
  cases answer with
  | panic text => cases calm
  | nothing =>
      have same : (middle.answerMain .nothing).journal = middle.journal ++ [] :=
        (List.append_nil _).symm
      refine ⟨⟨_, same⟩, rfl, ?_⟩
      rw [heard_of_trace same fun _ => rfl]
      exact .nothing
  | batch batch =>
      rcases takeInHand_eq middle .main batch with ⟨staff, worker, trace, same, busy, brings⟩
      have journal : (middle.takeInHand .main batch).journal = middle.journal ++ trace := by rw [same]
      refine ⟨⟨trace, journal⟩, ?_, ?_⟩
      · show (middle.takeInHand .main batch).source = _
        rw [same]
      · show Heeds _ _ (middle.takeInHand .main batch).service.worker _
        rw [answerMain, heard_eq journal, brings, same]
        exact .taken busy
  | error error =>
      have journal : (middle.missed error).journal = middle.journal ++
          [.contact (.fails error), .logged (.ofMiss middle.backlog error)] := by rw [missed_eq]
      have source : (middle.missed error).source = middle.source := by rw [missed_eq]
      have backlog : (middle.missed error).backlog = middle.backlog := by rw [missed_eq]; rfl
      refine ⟨⟨_, journal⟩, source, ?_⟩
      show Heeds _ _ (middle.missed error).service.worker _
      rw [answerMain, heard_eq journal, backlog, missed_eq]
      exact .missed error

/-- The worker turns to his queue. -/
theorem beginFetch_goes (here : before.service.worker = .looping) (calm : before.Panicless) :
    (∃ trace, before.beginFetch.2.journal = before.journal ++ trace) ∧
      Goes before before.beginFetch.2.service.worker before.beginFetch.2.source
        (heard before before.beginFetch.2) := by
  unfold beginFetch
  cases source : before.source with
  | buffered queue =>
      have journal : ((before.note (.contact .waits)).setWorker (.fetching (.queued .line))).journal =
          before.journal ++ [.contact .waits] := rfl
      refine ⟨⟨_, journal⟩, ?_⟩
      rw [heard_of_trace journal fun _ => rfl]
      exact .calls here source
  | scripted queue =>
      have twice : ((before.note (.contact .waits)).note .fetched).journal =
          before.journal ++ [.contact .waits, .fetched] := by
        simp only [note, List.append_assoc, List.cons_append, List.nil_append]
      dsimp only
      cases waits : queue.waits with
      | nil =>
          refine ⟨⟨_, twice⟩, ?_⟩
          have silent : heard before (((before.note (.contact .waits)).note .fetched).setWorker
              (.fetching .forStop)) = [] := heard_of_trace twice fun _ => rfl
          rw [silent]
          exact .calledOut here source waits
      | cons reply rest =>
          dsimp only
          generalize called : ({ (before.note (.contact .waits)).note .fetched with
            source := .scripted { queue with waits := rest } } : Deployment) = popped
          have journal : popped.journal = before.journal ++ [.contact .waits, .fetched] := by
            rw [← called]
            exact twice
          have left : popped.source = .scripted { queue with waits := rest } := by rw [← called]
          have backlog : popped.backlog = rest.length + queue.drains.length := by rw [← called]; rfl
          split
          · have peaceful := calm.waits queue source reply (by rw [waits]; exact List.mem_cons_self)
            rcases @answerMain_answers popped _ peaceful with
              ⟨⟨trace, continued⟩, same, answers⟩
            refine ⟨⟨_, by rw [continued, journal, List.append_assoc]⟩, ?_⟩
            dsimp only
            rw [heard_of_silent journal (fun _ => rfl) continued, same, left]
            rw [backlog] at answers
            exact .answeredAtOnce here source waits answers
          · refine ⟨⟨_, journal⟩, ?_⟩
            have silent : heard before (popped.setWorker (.fetching
                (.delayed (popped.now + reply.delay) reply.answer))) = [] :=
              heard_of_trace journal fun _ => rfl
            have awaits : Goes before (.fetching (.delayed (popped.now + reply.delay) reply.answer))
                popped.source [] := by
              rw [left]
              exact .awaits here source waits
            rw [← silent] at awaits
            subst called
            exact awaits

/-- The worker looks for the result of his call. -/
theorem advanceFetch_goes {fetch : Fetch} (here : before.service.worker = .fetching fetch)
    (untold : before.service.stopRequested = false) (calm : before.Panicless) :
    Goes before (before.advanceFetch fetch).2.service.worker (before.advanceFetch fetch).2.source
      (heard before (before.advanceFetch fetch).2) := by
  have still : heard before before = [] := heard_of_trace (List.append_nil _).symm fun _ => rfl
  unfold advanceFetch
  cases fetch with
  | queued place =>
      cases source : before.source with
      | scripted queue =>
          rw [still]
          exact .rests (by rw [here]; rfl)
      | buffered queue =>
          simp only [untold, Bool.false_eq_true, if_false]
          rcases queue.seek .worker place with ⟨batch | _ | reached, woken, next⟩
          · rcases takeInHand_eq (before.adopt woken next) .main batch with
              ⟨staff, worker, trace, same, _⟩
            have left : ((before.adopt woken next).takeInHand .main batch).source =
                .buffered next := by rw [same, adopt_eq]
            dsimp only
            rw [left]
            exact .seeks here source
          · have left : ((before.adopt woken next).missed .queueClosed).source = .buffered next := by
              rw [missed_eq, adopt_eq]
            dsimp only
            rw [left]
            exact .seeks here source
          · dsimp only
            rw [adopt_eq]
            exact .seeks here source
  | delayed time answer =>
      dsimp only
      split
      · next due =>
        rcases @answerMain_answers before _ (calm.fetching time answer here) with
          ⟨_, same, answers⟩
        rw [same]
        exact .answered here due answers
      · next early =>
        dsimp only
        rw [still]
        exact .waits here (Nat.lt_of_not_le early)
  | forStop =>
      simp only [untold, Bool.false_eq_true, if_false]
      rw [still]
      exact .rests (by rw [here]; rfl)

/-- A turn of the worker, in whatever place of a round he is. -/
theorem Living.goes (living : Living origin results before) (calm : before.Panicless) :
    Goes before before.advanceWorker.2.service.worker before.advanceWorker.2.source
      (heard before before.advanceWorker.2) := by
  have still : heard before before = [] := heard_of_trace (List.append_nil _).symm fun _ => rfl
  unfold advanceWorker
  cases living with
  | idle _ here =>
      have quiet : before.service.worker.rests = true := by
        rw [here]
        rfl
      simp only [here, still]
      rw [← here]
      exact .rests quiet
  | fresh stands here =>
      rcases startUp_eq stands.state with ⟨ready, version, same⟩
      have silent : heard before before.startUp = [] :=
        heard_of_trace (by rw [same]) fun _ => rfl
      rw [here, silent]
      dsimp only
      rw [same]
      exact .startsUp here
  | looping stands unclosed here =>
      simp only [here, stands.state, stands.untold, and_self, if_true]
      exact (beginFetch_goes here calm).2
  | fetching stands unclosed here =>
      rw [here]
      exact advanceFetch_goes here stands.untold calm
  | @dispatching results taken batch dispatch _ stands unclosed stays underway =>
      rw [underway.worker]
      rcases advanceDispatch_frame underway.worker with ⟨trace, ofDispatch, journal, _, _, source⟩
      dsimp only
      rw [heard_of_trace journal ofDispatch.results_eq, source]
      rcases underway.advances with ⟨later, goesOn⟩ | ended
      · have less := toil_advanceDispatch underway.worker goesOn.worker
        rw [goesOn.worker]
        exact .dispatches underway.worker less.1 less.2
      · rw [ended.worker]
        exact .completes underway.worker
  | parked stands unclosed here =>
      simp only [here, stands.untold, Bool.false_eq_true, if_false, still]
      rw [← here]
      exact .rests (by rw [here]; rfl)

end Turns

end Deployment
end FailureDispatch

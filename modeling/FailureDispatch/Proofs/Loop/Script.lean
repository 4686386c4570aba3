import FailureDispatch.Proofs.Loop.Turns

/-!
# The main loop over a queue whose answers are known

A scripted queue that nobody rewrites has the results of the main loop in store.
`ScriptedQueue.forecast` lists them, up to the first that says the queue is closed, and
says what is left of the script then.  The loop gets the results in that order, none
twice, none left out, and it leaves alone whatever comes after (`Reads.move`).
-/

namespace FailureDispatch

/-- What an answer comes to for the main loop: the results from it on and the replies
that are left in the end.  Given is the same for the replies behind it. -/
def QueueAnswer.forecast (drains : Nat) (rest : List QueueReply)
    (behind : List Result × List QueueReply) : QueueAnswer → List Result × List QueueReply
  | .batch given => (.batch given :: behind.1, behind.2)
  | .error .queueClosed => ([.error .queueClosed (rest.length + drains)], rest)
  | .error other => (.error other (rest.length + drains) :: behind.1, behind.2)
  | .panic _ | .nothing => ([], rest)

/-- The same for replies. -/
def forecast (drains : Nat) : List QueueReply → List Result × List QueueReply
  | [] => ([], [])
  | reply :: rest => reply.answer.forecast drains rest (forecast drains rest)

/-- The results that a scripted queue has for a loop that nobody tells to stop, and the
replies that it never gets. -/
def ScriptedQueue.forecast (queue : ScriptedQueue) : List Result × List QueueReply :=
  FailureDispatch.forecast queue.drains.length queue.waits

/-- What is still to come, if so much of the script is left. -/
def Worker.forecast (left : ScriptedQueue) : Worker → List Result × List QueueReply
  | .fetching (.delayed _ answer) =>
      answer.forecast left.drains.length left.waits left.forecast
  | .fetching _ | .parked => ([], left.waits)
  | _ => left.forecast

namespace Deployment

/-- The results that have come and those that are still to come are those of the
script. -/
def Reads (queue : ScriptedQueue) (results : List Result) (reached : Deployment) : Prop :=
  ∃ left, reached.source = .scripted left ∧ left.drains = queue.drains ∧
    queue.forecast = (results ++ (reached.service.worker.forecast left).1,
      (reached.service.worker.forecast left).2)

section Script

variable {origin before after : Deployment} {queue : ScriptedQueue} {results : List Result}

/-- An answer brings what it promises. -/
theorem Heeds.forecast {left : ScriptedQueue} {answer : QueueAnswer} {worker : Worker}
    {brought : List Result}
    (heeds : Heeds (left.waits.length + left.drains.length) answer worker brought) :
    answer.forecast left.drains.length left.waits left.forecast =
      (brought ++ (worker.forecast left).1, (worker.forecast left).2) := by
  cases heeds with
  | taken busy => rcases busy with rfl | ⟨dispatch, rfl⟩ <;> rfl
  | missed error => cases error <;> rfl
  | nothing => rfl

/-- A turn of the worker brings the next of what is still to come, or leaves it. -/
theorem Reads.goes (reads : Reads queue results before) {worker : Worker} {source : Source}
    {brought : List Result} (goes : Goes before worker source brought) :
    ∃ left, source = .scripted left ∧ left.drains = queue.drains ∧
      queue.forecast = ((results ++ brought) ++ (worker.forecast left).1,
        (worker.forecast left).2) := by
  rcases reads with ⟨left, scripted, drains, whole⟩
  cases goes with
  | rests _ | waits _ _ => exact ⟨left, scripted, drains, by rw [List.append_nil, whole]⟩
  | startsUp here | dispatches here _ _ | completes here =>
      rw [here] at whole
      exact ⟨left, scripted, drains, by rw [List.append_nil, whole]; rfl⟩
  | calls _ buffered | seeks _ buffered =>
      rw [buffered] at scripted
      cases scripted
  | calledOut here same out =>
      rw [same] at scripted
      cases scripted
      rw [here] at whole
      refine ⟨left, same, drains, ?_⟩
      rw [List.append_nil, whole]
      simp only [Worker.forecast, ScriptedQueue.forecast, FailureDispatch.forecast, out]
  | awaits here same next =>
      rw [same] at scripted
      cases scripted
      rw [here] at whole
      refine ⟨_, rfl, drains, ?_⟩
      rw [List.append_nil, whole]
      simp only [Worker.forecast, ScriptedQueue.forecast, FailureDispatch.forecast, next]
  | @answeredAtOnce _ reply rest worker brought here same next heeds =>
      rw [same] at scripted
      cases scripted
      rw [here] at whole
      refine ⟨_, rfl, drains, ?_⟩
      have promised := @Heeds.forecast { left with waits := rest } _ _ _ heeds
      rw [whole]
      simp only [Worker.forecast, ScriptedQueue.forecast, FailureDispatch.forecast, next] at promised ⊢
      rw [promised, List.append_assoc]
  | @answered time answer worker brought here _ heeds =>
      have backlog : before.backlog = left.waits.length + left.drains.length := by
        simp only [Deployment.backlog, scripted]
      rw [backlog] at heeds
      rw [here] at whole
      refine ⟨left, scripted, drains, ?_⟩
      rw [whole, Worker.forecast, heeds.forecast, List.append_assoc]

/-- Every move brings the next of what is still to come, or leaves it. -/
theorem Reads.move (reads : Reads queue results before) (living : Living origin results before)
    {others : Bool} (move : Move others before after) (calm : before.Panicless) :
    Reads queue (results ++ heard before after) after := by
  cases move.befalls with
  | worker line =>
      rw [tick_of_worker line]
      cases before.advanceWorker.1 with
      | goesOn => exact reads.goes (living.goes calm)
      | rests => exact reads.goes (living.goes calm)
  | starts new =>
      rcases reads with ⟨left, scripted, drains, whole⟩
      rcases start_eq new with ⟨ready, version, same⟩
      rw [(living.of_new new).2.1] at whole
      rw [(living.starts new).2, List.append_nil, same]
      exact ⟨left, scripted, drains, whole⟩
  | elsewhere elsewhere =>
      rcases reads with ⟨left, scripted, drains, whole⟩
      rw [elsewhere.heard_eq, List.append_nil]
      refine ⟨left, ?_, drains, by rw [elsewhere.worker]; exact whole⟩
      have becomes := elsewhere.source
      rw [scripted] at becomes
      generalize became : after.source = source at becomes
      cases becomes
      rfl

/-- A worker who waits for no answer has had all that the script has for him. -/
theorem Reads.complete (reads : Reads queue results before)
    (rests : before.service.worker.rests = true) (begun : before.service.worker ≠ .idle) :
    results = queue.forecast.1 ∧
      before.source = .scripted { queue with waits := queue.forecast.2 } := by
  rcases reads with ⟨left, scripted, drains, whole⟩
  have nothing : before.service.worker.forecast left = ([], left.waits) := by
    cases here : before.service.worker with
    | idle => exact absurd here begun
    | parked => rfl
    | fetching fetch =>
        cases fetch with
        | delayed _ _ =>
            rw [here] at rests
            cases rests
        | _ => rfl
    | _ =>
        rw [here] at rests
        cases rests
  rw [nothing, List.append_nil] at whole
  refine ⟨by rw [whole], ?_⟩
  rw [scripted, whole, ← drains]

end Script

end Deployment
end FailureDispatch

import FailureDispatch.Proofs.Clearing.Rounds

/-!
# What a scripted queue has in store for a drain

A scripted queue that nobody rewrites answers the limited calls of a drain from its list,
one reply for each call, and with nothing once the list is used up.
`ScriptedQueue.promise` is the sequence of these results.  A drain gets them in their order
and takes one reply for each, so after its last result all that comes behind it is still
in the list (`Hands`).
-/

namespace FailureDispatch

/-- The result that an answer of a scripted queue is to a drain.  A panic is no result. -/
def QueueAnswer.yield? : QueueAnswer → Option Yield
  | .batch given => some (.batch given)
  | .error reason => some (.ending (.error reason))
  | .nothing => some (.ending .nothing)
  | .panic _ => none

/-- What a scripted queue answers to the limited calls, one after the other. -/
def ScriptedQueue.promise (queue : ScriptedQueue) (place : ℕ) : Yield :=
  (queue.drains[place]?.bind fun reply => reply.answer.yield?).getD (.ending .nothing)

namespace Deployment

/-- What is left of the script when so many results have come. -/
inductive Hands (queue : ScriptedQueue) (given : ℕ) (reached : Deployment) : Prop where
  | free (left : reached.source = .scripted { queue with drains := queue.drains.drop given })
      (free : reached.service.worker.awaitsDrain = false)
  | awaits {count deadline time reply}
      (left : reached.source = .scripted { queue with drains := queue.drains.drop (given + 1) })
      (next : queue.drains[given]? = some reply)
      (here : reached.service.worker = .drainFetching count deadline (.delayed time reply.answer))

/-- No result is given, or the next one. -/
def GivesNext (queue : ScriptedQueue) (given : ℕ) (before after : Deployment) : Prop :=
  ∃ trace, after.journal = before.journal ++ trace ∧
    ((trace.yields = [] ∧ Hands queue given after) ∨
      (trace.yields = [queue.promise given] ∧ Hands queue (given + 1) after))

section Script

variable {left before middle after : Deployment} {batches : List Batch} {queue : ScriptedQueue}
  {given : ℕ}

theorem GivesNext.precededBy {trace : Journal} (journal : middle.journal = before.journal ++ trace)
    (silent : trace.yields = []) (gives : GivesNext queue given middle after) :
    GivesNext queue given before after := by
  rcases gives with ⟨rest, continued, next⟩
  refine ⟨trace ++ rest, by rw [continued, journal, List.append_assoc], ?_⟩
  rw [Journal.yields_append, silent, List.nil_append]
  exact next

theorem GivesNext.afterTurn (gives : GivesNext queue given before after) (progress : Progress) :
    GivesNext queue given before (after.afterTurn progress) := by
  cases progress with
  | goesOn => exact gives
  | rests =>
      have same {number : ℕ} (hands : Hands queue number after) :
          Hands queue number (after.afterTurn .rests) := by
        cases hands with
        | free left free => exact .free left free
        | awaits left next here => exact .awaits left next here
      rcases gives with ⟨trace, journal, ⟨silent, hands⟩ | ⟨gave, hands⟩⟩
      · exact ⟨trace, journal, Or.inl ⟨silent, same hands⟩⟩
      · exact ⟨trace, journal, Or.inr ⟨gave, same hands⟩⟩

/-- Nothing is written in which a result shows. -/
theorem Hands.silently (hands : Hands queue given after) {trace : Journal}
    (journal : after.journal = before.journal ++ trace) (silent : trace.yields = []) :
    GivesNext queue given before after := ⟨trace, journal, Or.inl ⟨silent, hands⟩⟩

/-- The end of a drain gives its last result. -/
theorem gives_conclude (stopping : middle.service.state = .stopping) (count : ℕ) {ending : DrainEnd}
    (next : queue.promise given = .ending ending)
    (left : middle.source = .scripted { queue with drains := queue.drains.drop (given + 1) }) :
    GivesNext queue given middle (middle.conclude count ending) := by
  rcases conclude_eq stopping count ending with ⟨ready, version, figures, shows, same⟩
  rw [same]
  refine ⟨_, rfl, Or.inr ⟨?_, .free left ?_⟩⟩
  · rw [ending.yields_closing count shows, next]
  · cases ending <;> rfl

/-- The script answers, and what it answers is the next result. -/
theorem gives_answerDrain (stopping : middle.service.state = .stopping) (count : ℕ)
    {reply : QueueReply} (next : queue.drains[given]? = some reply)
    (left : middle.source = .scripted { queue with drains := queue.drains.drop (given + 1) })
    (calm : reply.answer.isPanic = false) :
    GivesNext queue given middle (middle.answerDrain count reply.answer) := by
  have promised : queue.promise given = reply.answer.yield?.getD (.ending .nothing) := by
    rw [ScriptedQueue.promise, next]
    rfl
  cases answer : reply.answer with
  | panic text =>
      rw [answer] at calm
      cases calm
  | error error => exact gives_conclude stopping count (by rw [promised, answer]; rfl) left
  | nothing => exact gives_conclude stopping count (by rw [promised, answer]; rfl) left
  | batch batch =>
      rcases beginDispatch_opens (middle.noteAll [.contact (.gives batch), .taken batch])
        (.drain count) batch with ⟨stretch, worker, same, opens, ofDispatch, _⟩
      show GivesNext queue given middle (middle.takeInHand (.drain count) batch)
      rw [takeInHand, same]
      refine ⟨[.contact (.gives batch), .taken batch] ++ stretch.trace, List.append_assoc .., ?_⟩
      refine Or.inr ⟨?_, .free left ?_⟩
      · rw [Journal.yields_append, ofDispatch.yields_eq, promised, answer]
        rfl
      · cases opens <;> rfl

/-- A turn of the worker of a drain gives no result, or the next one. -/
theorem Hands.turns (hands : Hands queue given before) (clearing : Clearing left batches before)
    (regular : before.Regular) (calm : before.CalmInDrain) :
    GivesNext queue given before before.advanceWorker.2 := by
  have stopping := clearing.stopping regular
  cases clearing with
  | head _ here =>
      cases hands with
      | awaits _ _ there =>
          rw [here] at there
          cases there
      | free script _ =>
          have turn : before.advanceWorker = before.beginDrainFetch batches.length := by
            rw [advanceWorker, here]
          rw [turn, beginDrainFetch, script]
          dsimp only
          generalize calling : (before.note (.contact (.waitsWithin before.service.drainWait))).note
            (.fetchedWithin before.service.drainWait) = asked
          have journal : asked.journal = before.journal ++
              [.contact (.waitsWithin before.service.drainWait),
                .fetchedWithin before.service.drainWait] := by
            rw [← calling]
            simp only [note, List.append_assoc, List.cons_append, List.nil_append]
          have service : asked.service = before.service := by
            rw [← calling]
            rfl
          have source : asked.source =
              .scripted { queue with drains := queue.drains.drop given } := by
            rw [← calling]
            exact script
          cases next : queue.drains[given]? with
          | none =>
              have beyond := List.getElem?_eq_none_iff.mp next
              have out : queue.drains.drop given = [] := List.drop_eq_nil_of_le beyond
              have later : queue.drains.drop (given + 1) = [] :=
                List.drop_eq_nil_of_le (Nat.le_succ_of_le beyond)
              have last : queue.promise given = .ending .nothing := by
                rw [ScriptedQueue.promise, next]
                rfl
              simp only [out]
              have ends : GivesNext queue given asked (asked.conclude batches.length .nothing) :=
                gives_conclude (by rw [service, stopping]) _ last (by rw [source, out, later])
              exact ends.precededBy journal rfl
          | some reply =>
              have stored : queue.drains.drop given = reply :: queue.drains.drop (given + 1) := by
                rcases List.getElem?_eq_some_iff.mp next with ⟨within, same⟩
                rw [List.drop_eq_getElem_cons within, same]
              have peaceful : reply.answer.isPanic = false :=
                calm.drains _ script reply (by rw [stored]; exact List.mem_cons_self)
              simp only [stored]
              split
              · have answered := @gives_answerDrain { asked with
                    source := .scripted { queue with drains := queue.drains.drop (given + 1) } }
                  queue given ((congrArg Service.state service).trans stopping) batches.length
                  reply next rfl peaceful
                exact answered.precededBy journal rfl
              · exact Hands.silently (.awaits rfl next rfl) journal rfl
  | @waits _ deadline fetch _ _ here =>
      cases hands with
      | free _ free =>
          rw [here] at free
          cases free
      | @awaits count _ time reply script next there =>
          rw [here] at there
          cases there
          have turn : before.advanceWorker =
              before.advanceDrainFetch batches.length deadline (.delayed time reply.answer) := by
            rw [advanceWorker, here]
          rw [turn, advanceDrainFetch]
          split
          · exact gives_answerDrain stopping _ next script (calm.fetching _ _ _ _ here)
          · exact Hands.silently (.awaits script next here) (List.append_nil _).symm rfl
  | @dispatching earlier taken batch dispatch _ _ _ underway =>
      cases hands with
      | awaits _ _ there =>
          rw [underway.worker] at there
          cases there
      | free script _ =>
          have turn : before.advanceWorker =
              before.advanceDispatch (.drain earlier.length) dispatch := by
            rw [advanceWorker, underway.worker]
          rcases advanceDispatch_frame underway.worker with
            ⟨trace, ofDispatch, journal, _, _, source⟩
          rw [turn]
          refine Hands.silently (.free (source.trans script) ?_) journal ofDispatch.yields_eq
          rcases underway.advances with ⟨later, goesOn⟩ | ended
          · rw [goesOn.worker]
            rfl
          · rw [ended.worker]
            rfl

/-- What does not concern the worker leaves the script as it is. -/
theorem Hands.elsewhere (hands : Hands queue given before) (elsewhere : Elsewhere before after) :
    GivesNext queue given before after := by
  rcases elsewhere.journal with ⟨trace, others, journal⟩
  have kept {script : ScriptedQueue} (left : before.source = .scripted script) :
      after.source = .scripted script := by
    have becomes := elsewhere.source
    rw [left] at becomes
    generalize became : after.source = source at becomes
    cases becomes
    rfl
  refine Hands.silently ?_ journal others.yields_eq
  cases hands with
  | free left free => exact .free (kept left) (by rw [elsewhere.worker, free])
  | awaits left next here => exact .awaits (kept left) next (elsewhere.worker.trans here)

/-- Every move in a drain gives no result, or the next one. -/
theorem Hands.move (hands : Hands queue given before) (clearing : Clearing left batches before)
    (regular : before.Regular) {others : Bool} (move : Move others before after)
    (calm : before.CalmInDrain) : GivesNext queue given before after := by
  cases move.befalls with
  | worker line =>
      rw [tick_of_worker line]
      exact (hands.turns clearing regular calm).afterTurn _
  | starts new =>
      rw [clearing.stopping regular] at new
      cases new
  | elsewhere elsewhere => exact hands.elsewhere elsewhere

/-- A drain that is over leaves the script as it is. -/
theorem Hands.after_end {ending : DrainEnd} (hands : Hands queue given before)
    (cleared : Cleared left batches ending before) {others : Bool}
    (move : Move others before after) : GivesNext queue given before after := by
  cases move.befalls with
  | worker line =>
      rw [tick_of_worker line, cleared.rests]
      have same : GivesNext queue given before before :=
        hands.silently (List.append_nil _).symm rfl
      exact same.afterTurn .rests
  | starts new =>
      have ended := cleared.state
      rw [new] at ended
      cases ending <;> cases ended
  | elsewhere elsewhere => exact hands.elsewhere elsewhere

end Script

end Deployment
end FailureDispatch

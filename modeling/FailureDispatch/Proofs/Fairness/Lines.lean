import FailureDispatch.Proofs.Fairness.Waiting

/-!
# Nobody is overtaken

A history of a line says who has come to it and who has been served there, both
one after another.  It is kept beside the deployment: whoever is in the line
after something has happened and was not before has come, and whoever has left
it while something was accepted, or taken, has been served.

Since a line goes on in turn, those who have been served, followed by those who
still wait, have come in just this order.  Others have come in between and given
up.
-/

namespace FailureDispatch

/-- What the history of a line gains is in order if the line goes on in turn. -/
theorem InTurn.keeps_order {came served line next : List Actor} {grows : Prop} [Decidable grows]
    (inTurn : InTurn line grows next) (once : line.Nodup)
    (inOrder : (served ++ line).Sublist came) :
    ((served ++ if grows then line.filter (· ∉ next) else []) ++ next).Sublist
      (came ++ next.filter (· ∉ line)) := by
  have none {actors others : List Actor} (among : actors ⊆ others) :
      actors.filter (· ∉ others) = [] := by
    apply List.filter_eq_nil_iff.mpr
    intro actor member
    simpa using among member
  cases inTurn with
  | stays kept same =>
      rw [none kept.subset, List.append_nil]
      by_cases something : grows
      · have same := same something
        subst same
        rw [if_pos something, none fun _ => id, List.append_nil]
        exact inOrder
      · rw [if_neg something, List.append_nil]
        exact ((List.Sublist.refl served).append kept).trans inOrder
  | @comes who new last nothing =>
      have arrival : next.filter (· ∉ line) = [who] := by
        rw [last, List.filter_append, none fun _ => id, List.nil_append]
        exact List.filter_cons_of_pos (by simpa using new)
      rw [if_neg nothing, List.append_nil, arrival, last, ← List.append_assoc]
      exact inOrder.append (List.Sublist.refl [who])
  | @serves who first something =>
      subst first
      have gone : (who :: next).filter (· ∉ next) = [who] := by
        rw [List.filter_cons_of_pos (by simpa using (List.nodup_cons.mp once).1), none fun _ => id]
      rw [if_pos something, gone, none (List.subset_cons_self who next), List.append_nil,
        List.append_assoc]
      exact inOrder

namespace Deployment

/-! ## Lines and their histories -/

/-- The submissions that wait for a slot. -/
def submissionLine (deployment : Deployment) : List Actor :=
  match deployment.source with
  | .buffered queue => (deployment.crowd queue).submitters
  | .scripted _ => []

/-- Who sits in front of the buffer. -/
def sitter? (deployment : Deployment) : Option Actor :=
  (.worker :: deployment.jobs.map fun entry => .caller entry.1).find? fun actor =>
    deployment.role actor = .consumes .seat

/-- The consumers that wait: one sits in front of the buffer, the others wait for the seat. -/
def consumptionLine (deployment : Deployment) : List Actor :=
  match deployment.source with
  | .buffered queue => queue.turn.attendance deployment.sitter?
  | .scripted _ => []

/-- The number of the batches that have been accepted. -/
def submissions (deployment : Deployment) : Nat :=
  match deployment.source with
  | .buffered queue => queue.submitted
  | .scripted _ => 0

/-- The number of the batches that have been taken. -/
def consumptions (deployment : Deployment) : Nat :=
  match deployment.source with
  | .buffered queue => queue.consumed
  | .scripted _ => 0

/-- Those who have come to a line and those who have been served there.  Somebody is served when
he leaves the line while something is counted. -/
inductive History (line : Deployment → List Actor) (count : Deployment → Nat)
    (origin : Deployment) : List Actor → List Actor → Deployment → Prop where
  | begins : History line count origin (line origin) [] origin
  | goesOn {came served : List Actor} {before after : Deployment}
      (history : History line count origin came served before)
      (happening : Happening before after) :
      History line count origin (came ++ (line after).filter (· ∉ line before))
        (served ++ if count before < count after then (line before).filter (· ∉ line after) else [])
        after

section Histories

variable {line : Deployment → List Actor} {count : Deployment → Nat}
  {origin before after reached : Deployment} {queue : SubmissionQueue Actor Batch}
  {sitter : Option Actor} {came served : List Actor}

theorem History.happens (history : History line count origin came served reached) :
    Happens origin reached := by
  induction history with
  | begins => exact .refl
  | goesOn _ happening inductionHypothesis => exact inductionHypothesis.tail happening

/-- Whatever happens has a history. -/
theorem exists_history (line : Deployment → List Actor) (count : Deployment → Nat)
    (happens : Happens origin reached) :
    ∃ came served, History line count origin came served reached := by
  induction happens with
  | refl => exact ⟨_, _, .begins⟩
  | tail _ happening inductionHypothesis =>
      rcases inductionHypothesis with ⟨_, _, history⟩
      exact ⟨_, _, history.goesOn happening⟩

/-- A line that goes on in turn whatever happens is served in order. -/
theorem History.inOrder (history : History line count origin came served reached)
    (civil : origin.Civil queue sitter)
    (once : ∀ {deployment queue sitter}, deployment.Civil queue sitter → (line deployment).Nodup)
    (turns : ∀ {before after queue sitter}, before.Civil queue sitter → Happening before after →
      InTurn (line before) (count before < count after) (line after)) :
    (served ++ line reached).Sublist came := by
  induction history with
  | begins => exact List.Sublist.refl _
  | goesOn history happening inductionHypothesis =>
      rcases civil.happens history.happens with ⟨_, _, there⟩
      exact (turns there happening).keeps_order (once there) inductionHypothesis

/-! ## The lines at a queue -/

theorem Civil.submissionLine_eq (civil : before.Civil queue sitter) :
    before.submissionLine = (before.crowd queue).submitters := by
  rw [submissionLine, civil.buffered]

/-- Only the worker and those whose calls are under way are about something. -/
theorem mem_of_role {actor : Actor} (about : before.role actor ≠ .apart) :
    actor ∈ Actor.worker :: before.jobs.map fun entry => .caller entry.1 := by
  cases actor with
  | worker => exact List.mem_cons_self
  | caller id =>
      cases known : before.job? id with
      | none => exact absurd (role_of_absent known) about
      | some job =>
          exact List.mem_cons_of_mem _ (List.mem_map.mpr ⟨(id, job), mem_of_job? known, rfl⟩)

theorem Civil.sitter?_eq (civil : before.Civil queue sitter) : before.sitter? = sitter := by
  have sits (actor : Actor) : before.role actor = .consumes .seat ↔ sitter = some actor :=
    civil.occupied.sits actor
  cases found : before.sitter? with
  | some actor =>
      unfold sitter? at found
      have here := List.find?_some found
      exact ((sits actor).mp (of_decide_eq_true here)).symm
  | none =>
      cases sitting : sitter with
      | none => rfl
      | some actor =>
          have here := (sits actor).mpr sitting
          have about : before.role actor ≠ .apart := by
            rw [here]
            exact nofun
          have unseen := List.find?_eq_none.mp found actor (mem_of_role about)
          exact absurd (decide_eq_true here) unseen

theorem Civil.consumptionLine_eq (civil : before.Civil queue sitter) :
    before.consumptionLine = queue.turn.attendance sitter := by
  rw [consumptionLine, civil.buffered, civil.sitter?_eq]

theorem Civil.mem_submissionLine (civil : before.Civil queue sitter) (actor : Actor) :
    actor ∈ before.submissionLine ↔ before.role actor = .submits true := by
  rw [civil.submissionLine_eq, Crowd.submitters, mem_waiting, Permits.mem_order]
  refine and_iff_right_of_imp fun waits => (civil.reserved.claims actor).mpr ?_
  rw [show (before.crowd queue).role actor = .submits true from waits]
  rfl

/-- Whoever consumes has come to the line, or is about to. -/
theorem Civil.attends (civil : before.Civil queue sitter) {actor : Actor}
    {place : SubmissionQueue.Place} (waits : before.role actor = .consumes place) :
    actor ∈ before.consumptionLine ∨ actor ∈ before.ready := by
  rw [civil.consumptionLine_eq, Permits.attendance, List.mem_append, Permits.mem_order]
  cases place with
  | seat => exact Or.inl (Or.inl (Option.mem_toList.mpr ((civil.occupied.sits actor).mp waits)))
  | line =>
      rcases civil.occupied.attends actor waits with claims | present
      · exact Or.inl (Or.inr claims)
      · exact Or.inr present

theorem Civil.nodup_submissionLine (civil : before.Civil queue sitter) :
    before.submissionLine.Nodup := by
  have roomy : queue.Roomy := civil.reserved.roomy
  rw [civil.submissionLine_eq]
  exact roomy.orderly.nodup_order.filter _

theorem Civil.nodup_consumptionLine (civil : before.Civil queue sitter) :
    before.consumptionLine.Nodup := by
  rw [civil.consumptionLine_eq]
  exact civil.occupied.seating.nodup

theorem Civil.submissions_inTurn (civil : before.Civil queue sitter)
    (happening : Happening before after) :
    InTurn before.submissionLine (before.submissions < after.submissions) after.submissionLine := by
  rcases civil.happening happening with ⟨next, sitter', there, inTurn, _⟩
  rw [civil.submissionLine_eq, there.submissionLine_eq, submissions, submissions, civil.buffered,
    there.buffered]
  exact inTurn

theorem Civil.consumptions_inTurn (civil : before.Civil queue sitter)
    (happening : Happening before after) :
    InTurn before.consumptionLine (before.consumptions < after.consumptions)
      after.consumptionLine := by
  rcases civil.happening happening with ⟨next, sitter', there, _, inTurn⟩
  rw [civil.consumptionLine_eq, there.consumptionLine_eq, consumptions, consumptions,
    civil.buffered, there.buffered]
  exact inTurn

end Histories

/-! ## Fairness -/

/-- Nobody waits in vain at the queue of a deployment, and nobody has been overtaken since. -/
structure Fair (origin reached : Deployment) (queue : SubmissionQueue Actor Batch) : Prop where
  /-- When nobody can act, no submission waits while the buffer has room. -/
  full : reached.Settled → ∀ actor begun, reached.role actor = .submits begun →
    ¬ queue.buffer.length < queue.capacity
  /-- When nobody can act, a consumer waits only for what may still be submitted. -/
  starved : reached.Settled → ∀ actor place, reached.role actor = .consumes place →
    queue.buffer = [] ∧ queue.isOpen = true
  /-- At any time, also while somebody has a slot and has not had a turn since, submitting without
  waiting leaves a slot for everybody who waits for one. -/
  reserved : ∀ batch, (queue.trySubmit batch).1 = .ok () ↔ queue.isOpen = true ∧
    queue.buffer.length + (reached.callersWith Call.waitsForSlot).length < queue.capacity
  /-- Where it succeeds, whoever waits has been granted a slot and keeps it. -/
  kept : ∀ batch, (queue.trySubmit batch).1 = .ok () →
    (queue.trySubmit batch).2.2.slots.granted = queue.slots.granted ∧
      ∀ actor ∈ reached.callersWith Call.waitsForSlot, actor ∈ queue.slots.granted
  /-- It is refused while a submission sleeps. -/
  refused : ∀ actor ∈ reached.callersWith Call.waitsForSlot, actor ∉ reached.ready →
    ∀ batch, (queue.trySubmit batch).1 ≠ .ok ()
  submissions : ∀ actor, actor ∈ reached.submissionLine ↔ reached.role actor = .submits true
  /-- Submissions that wait are accepted in the order in which they began to. -/
  accepted : ∀ came served,
    History submissionLine Deployment.submissions origin came served reached →
      (served ++ reached.submissionLine).Sublist came
  /-- Whoever consumes stands in line, or is about to have a turn. -/
  consumptions : ∀ actor place, reached.role actor = .consumes place →
    actor ∈ reached.consumptionLine ∨ actor ∈ reached.ready
  /-- Consumers that wait are served in the order in which they came. -/
  served : ∀ came served,
    History consumptionLine Deployment.consumptions origin came served reached →
      (served ++ reached.consumptionLine).Sublist came

/-- Whatever happens at a queue from the beginning on, with any submitters and consumers and the
worker among them, nobody waits in vain and nobody is overtaken.  Submitting without waiting
never takes a slot that somebody waits for.  After each step of a run all granted slots have
been picked up.  Submitting without waiting is refused then as long as a submission waits,
and also after one thing more has happened: after somebody has taken a batch, and before the
submission that has been woken by it has had its turn. -/
theorem fair_of_happens {origin : Deployment} (opened : origin.Opened) :
    (∀ reached, Happens origin reached →
      ∃ queue, reached.source = .buffered queue ∧ Fair origin reached queue) ∧
    (∀ before after, Happens origin before → before.Collected →
      after = before ∨ Happening before after → after.callersWith Call.waitsForSlot ≠ [] →
      ∃ queue, after.source = .buffered queue ∧ ∀ batch, (queue.trySubmit batch).1 ≠ .ok ()) ∧
    ∀ steps, (origin.run 0 steps).2.Collected := by
  rcases opened.begins with ⟨⟨_, _, civilOrigin⟩, numbered, quiet⟩
  refine ⟨?_, ?_, ?_⟩
  · intro reached happens
    rcases civilOrigin.happens happens with ⟨queue, sitter, civil⟩
    refine ⟨queue, civil.buffered, ?_, ?_, civil.trySubmit_iff, civil.trySubmit_keeps, ?_, ?_, ?_,
      ?_, ?_⟩
    · intro settled actor begun waits room
      rw [civil.full settled waits] at room
      exact Nat.lt_irrefl _ room
    · exact fun settled actor place waits => civil.starved settled waits
    · exact fun actor waits sleeps batch =>
        civil.trySubmit_refused ((civil.mem_claimants actor).mpr waits) sleeps batch
    · exact civil.mem_submissionLine
    · exact fun came served history =>
        history.inOrder civilOrigin Civil.nodup_submissionLine Civil.submissions_inTurn
    · exact fun actor place waits => civil.attends waits
    · exact fun came served history =>
        history.inOrder civilOrigin Civil.nodup_consumptionLine Civil.consumptions_inTurn
  · intro before after happens collected further waiting
    rcases civilOrigin.happens happens with ⟨queue, sitter, civil⟩
    rcases further with same | happening
    · subst same
      exact ⟨queue, civil.buffered, civil.trySubmit_collected collected waiting⟩
    · exact civil.trySubmit_next collected happening waiting
  · exact fun steps => collected_run civilOrigin numbered (quiet.collected civilOrigin) steps

/-- A consumer comes to the queue. -/
def comes (deployment : Deployment) (id : Nat) : Deployment :=
  (deployment.addJob id (.consume "stop" .line)).wake (.caller id)

theorem happening_comes {deployment : Deployment} {id : Nat}
    (fresh : ∀ entry ∈ deployment.jobs, entry.1 ≠ id) :
    Happening deployment (deployment.comes id) :=
  .begins fresh ⟨rfl, fun _ => rfl, fun joins => nomatch joins⟩

/-- The only slot is taken, and two submissions wait for it. -/
def crowded : Deployment :=
  (narrow.run 0 [some (.trySubmit .single), some (.submitDirectly .single),
    some (.submitDirectly .single)]).2

/-- A consumer has just taken the batch. -/
def relieved : Deployment := (crowded.comes 3).tick

theorem happens_relieved : Happens narrow relieved := by
  have crowds : Happens narrow crowded :=
    happens_run unstarted_narrow.onCourse unstarted_narrow.numbered _
  have comes : Happening crowded (crowded.comes 3) := happening_comes (by decide +kernel)
  exact (crowds.tail comes).tail .turn

/-- The slot belongs to the first submission, which has not had a turn yet. -/
def relievedQueue : SubmissionQueue Actor Batch where
  capacity := 1
  slots := ⟨0, [.caller 2], [.caller 1]⟩
  turn := ⟨1, [], []⟩
  submitted := 1
  consumed := 1

/-- Nobody gets past the two, who are going to be accepted in the order in which they came. -/
theorem fair_of_happens_relieved :
    relieved.source = .buffered relievedQueue ∧ relieved.ready = [.caller 1] ∧
      (∀ batch, (relievedQueue.trySubmit batch).1 ≠ .ok ()) ∧
      ∃ came served, History submissionLine submissions narrow came served relieved ∧
        (served ++ [Actor.caller 1, Actor.caller 2]).Sublist came := by
  have made : ofQueue 1 = .ok narrow := rfl
  have happens := happens_relieved
  have source : relieved.source = .buffered relievedQueue := by decide +kernel
  have next : relieved.ready = [.caller 1] := by decide +kernel
  have line : relieved.submissionLine = [.caller 1, .caller 2] := by decide +kernel
  have waiting : relieved.callersWith Call.waitsForSlot = [.caller 1, .caller 2] := by
    decide +kernel
  rcases (fair_of_happens (.vacant (vacant_ofQueue made))).1 relieved happens with
    ⟨queue, buffered, fair⟩
  cases source.symm.trans buffered
  rcases exists_history submissionLine submissions happens with ⟨came, served, history⟩
  refine ⟨source, next, ?_, came, served, history, line ▸ fair.accepted came served history⟩
  intro batch passes
  have room := ((fair.reserved batch).mp passes).2
  rw [waiting] at room
  exact absurd room (by decide)

/-! ## Two slots at once -/

/-- A queue with room for two batches. -/
def wide : Deployment := { source := .buffered (.empty 2) }

/-- Both slots are taken, and a submission waits. -/
def packed : Deployment :=
  (wide.run 0 [some (.trySubmit .single), some (.trySubmit .single),
    some (.submitDirectly .single)]).2

/-- Two consumers have come and taken a batch each, and the submission has not had a turn since. -/
def twiceRelieved : Deployment := ((packed.comes 3).comes 4).tick.tick

/-- One slot is the submission's and the other is free, so that somebody who does not wait gets
past it. -/
theorem passed_while_waiting :
    ofQueue 2 = .ok wide ∧ Happens wide twiceRelieved ∧
      twiceRelieved.callersWith Call.waitsForSlot = [.caller 2] ∧
      (twiceRelieved.submitNow .service .single).1 = .ok ∧
      (twiceRelieved.submitNow .service .single).2.callersWith Call.waitsForSlot =
        [.caller 2] := by
  have made : ofQueue 2 = .ok wide := rfl
  have unstarted := unstarted_ofQueue made
  have fills : Happens wide packed := happens_run unstarted.onCourse unstarted.numbered _
  have first : Happening packed (packed.comes 3) := happening_comes (by decide +kernel)
  have second : Happening (packed.comes 3) ((packed.comes 3).comes 4) :=
    happening_comes (by decide +kernel)
  have happens : Happens wide twiceRelieved :=
    (((fills.tail first).tail second).tail .turn).tail .turn
  exact ⟨made, happens, by decide +kernel, by rfl, by decide +kernel⟩

end Deployment
end FailureDispatch

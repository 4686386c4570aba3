import FailureDispatch.Proofs.Drain.Hosting
import FailureDispatch.Proofs.Ledger.Conservation

/-!
# Calls that are followed to their ends

Two kinds of calls are followed through a run.  A call that was given the
service learns how the drain went, unless it is aborted (`Asked`).  A submission
that waits for a slot is never refused: its batch is accepted in the end, unless
it is aborted (`Pursued`).
-/

namespace FailureDispatch
namespace Deployment

/-- Whatever has the number was given the service, and has ended only by learning
how the drain went or by being aborted. -/
structure Asked (number : Nat) (deployment : Deployment) : Prop where
  calls : ∀ entry ∈ deployment.jobs, entry.1 = number → entry.2.call.isJoin = true
  ends : ∀ ended ∈ deployment.outcomes, ended.1 = number →
    ended.2 = .aborted ∨ ∃ count, ended.2 = .drained count

/-- The batch has been accepted, or the call with the number still waits for a
slot for it, or has been aborted. -/
def Pursued (number : Nat) (batch : Batch) (deployment : Deployment) : Prop :=
  (∃ door doomed, (number, ⟨.submit door batch true, doomed⟩) ∈ deployment.jobs) ∨
    (number, .aborted) ∈ deployment.outcomes ∨ batch ∈ deployment.journal.accepted

section Following

variable {before after : Deployment} {number id : Nat} {queue : SubmissionQueue Actor Batch}

/-! ## Calls that were given the service -/

namespace Asked

/-- Nothing is said of a number that nobody has had. -/
theorem of_numbered {bound : Nat} (numbered : Numbered bound before) (unused : bound ≤ number) :
    Asked number before := by
  constructor
  · intro entry member same
    exact absurd (same ▸ numbered.1 entry member) (Nat.not_lt_of_le unused)
  · intro ended member same
    exact absurd (same ▸ numbered.2 ended member) (Nat.not_lt_of_le unused)

theorem caller_turn (asked : Asked number before) (turn : CallerTurn before queue id after)
    (buffered : before.source = .buffered queue) : Asked number after := by
  have joins {job : Job} (present : before.job? id = some job) (same : id = number) :
      job.call.isJoin = true := asked.calls _ (mem_of_job? present) same
  constructor
  · intro entry member same
    rcases turn.jobs entry member with old | ⟨caller, _, job, present, follows⟩
    · exact asked.calls entry old same
    · rw [follows.isJoin_eq]
      exact joins present (caller.symm.trans same)
  · intro ended member same
    rcases turn.outcomes buffered with unchanged | ⟨job, outcome, present, endsWith, unchanged⟩
    · rw [unchanged] at member
      exact asked.ends ended member same
    · rw [unchanged] at member
      rcases List.mem_append.mp member with old | new
      · exact asked.ends ended old same
      · rw [List.mem_singleton.mp new] at same ⊢
        cases endsWith with
        | apart single _ =>
            rw [joins present same] at single
            cases single
        | aborted => exact Or.inl rfl
        | drained _ _ _ => exact Or.inr ⟨_, rfl⟩

theorem tick (asked : Asked number before) (sound : before.OnCourse) :
    Asked number before.tick := by
  rcases sound.buffered with ⟨queue, buffered⟩
  have turned := tick_turned buffered sound.course
  generalize before.tick = after at turned ⊢
  cases turned with
  | nobody _ => exact asked
  | @worker _ progress _ _ _ _ _ _ _ => cases progress <;> exact ⟨asked.calls, asked.ends⟩
  | caller _ turn =>
      have kept := asked.caller_turn turn buffered
      exact ⟨kept.calls, kept.ends⟩

theorem settle (asked : Asked number before) (sound : before.OnCourse) :
    Asked number before.settle :=
  (sound.keeps_settle (fun _ course kept => kept.tick course) asked).2

theorem act (asked : Asked number before) (sound : before.OnCourse) (act : Act before after) :
    Asked number after := by
  rcases sound.buffered with ⟨queue, buffered⟩
  have outside := act.outside buffered
  constructor
  · rw [outside.jobs]
    exact asked.calls
  · rw [outside.outcomes]
    exact asked.ends

theorem passTime (asked : Asked number before) (sound : before.OnCourse) (remaining : Nat) :
    Asked number (Deployment.passTime remaining before) :=
  sound.keeps_passTime (fun _ course kept => kept.tick course)
    (fun _ _ course act kept => kept.act course act) asked remaining

/-- The number may go to a call that is given the service. -/
theorem spawn (asked : Asked number before) (sound : before.OnCourse) {call : Call}
    (begins : Move true before.settle ((before.settle.addJob id call).wake (.caller id)))
    (joins : id = number → call.isJoin = true) : Asked number (before.spawn id call) := by
  have soundThere := (sound.reaches (reaches_settle true before)).move begins
  have kept := asked.settle sound
  rw [Deployment.spawn]
  rw [wake_eq] at soundThere ⊢
  apply settle _ soundThere
  refine ⟨?_, kept.ends⟩
  intro entry member same
  rcases List.mem_append.mp member with old | new
  · exact kept.calls entry old same
  · rw [List.mem_singleton.mp new] at same ⊢
    exact joins same

end Asked

theorem Taken.asked {step : Step} (taken : Taken before id step after)
    (asked : Asked number before) (sound : before.OnCourse) (numbered : Numbered id before)
    (joins : id = number → step.isJoin = true) : Asked number after := by
  cases taken with
  | acts atOnce _ => exact asked.act sound atOnce.act
  | settles => exact asked.settle sound
  | advances duration =>
      exact (asked.settle sound).passTime (sound.reaches (reaches_settle true before)) duration
  | @aborts other job _ known =>
      have move : Move true before _ := .abort known
      have soundThere := sound.move move
      apply Asked.settle _ soundThere
      rw [wake_eq]
      refine ⟨?_, asked.ends⟩
      intro entry member same
      rcases mem_setJob member with ⟨old, _⟩ | aborted
      · exact asked.calls entry old same
      · rw [aborted] at same ⊢
        have joined := asked.calls _ (mem_of_job? known) same
        exact joined
  | @begins call new wants consumes single =>
      have owned (wants : call.isJoin = true) : before.service.state ≠ .new := by
        rw [single] at wants
        cases wants
      have begins := begins_settled sound numbered new (fun _ => rfl) owned
      exact asked.spawn sound begins.1 fun same => wants.trans (joins same)
  | @joins door stopFirst held _ =>
      have owned := Holder.ne_nobody held
      have handed : Act before { before with holder := .nobody } := .handOver .nobody owned
      have fresh : (Call.join door stopFirst).isNew = true := rfl
      have begins := begins_settled (sound.act handed) (numbered.act sound handed) fresh
        (fun _ => rfl) (fun _ => sound.held owned)
      exact (asked.act sound handed).spawn (sound.act handed) begins.1 fun _ => rfl

/-! ## Submissions that wait for a slot -/

/-- The calls of others go on as they were at the turn of a caller. -/
theorem Proceeds.others (proceeds : Proceeds before queue id after) {entry : Nat × Job}
    (member : entry ∈ before.jobs) (other : entry.1 ≠ id) : entry ∈ after.jobs := by
  cases proceeds with
  | stays _ => exact member
  | ends _ jobs _ _ _ _ _ =>
      rw [jobs, List.mem_filter]
      exact ⟨member, bne_iff_ne.mpr other⟩
  | queues _ jobs _ _ _ _ | asks _ _ jobs _ _ =>
      rw [jobs]
      exact mem_setJob_of_ne member other _

/-- Whoever has a turn adds to the outcomes and to the journal. -/
theorem Pursued.ended (turn : CallerTurn before queue id after)
    (buffered : before.source = .buffered queue) {batch : Batch}
    (ended : (number, .aborted) ∈ before.outcomes ∨ batch ∈ before.journal.accepted) :
    Pursued number batch after := by
  refine Or.inr ?_
  rcases ended with aborted | accepted
  · refine Or.inl ?_
    rcases turn.outcomes buffered with same | ⟨_, _, _, _, same⟩
    · rw [same]
      exact aborted
    · rw [same]
      exact List.mem_append_left _ aborted
  · refine Or.inr ?_
    rcases turn.accounts buffered with ⟨trace, accounts, _, _⟩
    rw [accounts.journal, Journal.accepted_append]
    exact List.mem_append_left _ accepted

/-- A submission that waits for a slot obtains one or gives up at its turn, or
waits on. -/
theorem Pursued.own_turn (turn : CallerTurn before queue number after) {door : Door}
    {batch : Batch} {doomed : Bool}
    (present : before.job? number = some ⟨.submit door batch true, doomed⟩) :
    Pursued number batch after := by
  cases turn with
  | absent gone =>
      rw [present] at gone
      cases gone
  | lingers job patient =>
      rw [present] at job
      cases job
      rcases patient with observes | ⟨awaits, _⟩
      · cases observes
      · cases awaits
  | accepted job _ =>
      rw [present] at job
      cases job
      refine Or.inr (Or.inr ?_)
      simp only [adopt_eq, note, finish, Journal.accepted_append]
      exact List.mem_append_right _ List.mem_cons_self
  | refused job tried _ =>
      rw [present] at job
      cases job
      cases not_refused_of_begun tried
  | queues job _ =>
      rw [present] at job
      cases job
      refine Or.inl ⟨door, false, ?_⟩
      rw [adopt_eq]
      exact List.mem_map.mpr ⟨_, mem_of_job? present, if_pos rfl⟩
  | withdraws _ =>
      refine Or.inr (Or.inl ?_)
      simp only [adopt_eq, finish]
      exact List.mem_append_right _ List.mem_cons_self
  | catches job consumes _ | misses job consumes _ _ | stays job consumes _
  | departs job consumes _ | timesOut job consumes _ =>
      rw [present] at job
      cases job
      cases consumes
  | asks job _ | joins job _ | learns job _ | letsGo job =>
      rw [present] at job
      cases job
  | givesUp job free =>
      rw [present] at job
      cases job
      cases free
  | sees job observes _ =>
      rw [present] at job
      cases job
      cases observes

theorem Pursued.caller_turn {batch : Batch} (pursued : Pursued number batch before)
    (undisturbed : before.Undisturbed queue) (turn : CallerTurn before queue id after) :
    Pursued number batch after := by
  have buffered := undisturbed.buffered
  rcases pursued with ⟨door, doomed, member⟩ | ended
  · by_cases same : number = id
    · subst same
      exact Pursued.own_turn turn (job?_of_mem undisturbed.claimed.distinct member)
    · have proceeds := undisturbed.claimed.proceeds undisturbed.sole turn buffered
      exact Or.inl ⟨door, doomed, proceeds.others member same⟩
  · exact Pursued.ended turn buffered ended

/-- A submission that waits for a slot is never refused. -/
theorem Pursued.move {batch : Batch} (pursued : Pursued number batch before)
    (undisturbed : before.Undisturbed queue) (move : Move false before after) :
    Pursued number batch after := by
  have buffered := undisturbed.buffered
  cases move with
  | turn =>
      have turned := tick_turned buffered undisturbed.sound.course
      generalize before.tick = after at turned ⊢
      cases turned with
      | nobody _ => exact pursued
      | @worker _ progress _ _ _ trace _ _ _ =>
          rcases pursued with waits | aborted | accepted
          · cases progress <;> exact Or.inl waits
          · cases progress <;> exact Or.inr (Or.inl aborted)
          · have kept : batch ∈ (before.journal ++ trace).accepted := by
              rw [Journal.accepted_append]
              exact List.mem_append_left _ accepted
            cases progress <;> exact Or.inr (Or.inr kept)
      | caller _ turn =>
          have kept := pursued.caller_turn undisturbed turn
          exact kept
  | begins _ _ =>
      rw [wake_eq]
      rcases pursued with ⟨door, doomed, member⟩ | ended
      · exact Or.inl ⟨door, doomed, List.mem_append_left _ member⟩
      · exact Or.inr ended
  | @abort id job known =>
      rw [wake_eq]
      rcases pursued with ⟨door, doomed, member⟩ | ended
      · by_cases same : number = id
        · subst same
          have found := job?_of_mem undisturbed.claimed.distinct member
          rw [known] at found
          cases found
          exact Or.inl ⟨door, true, List.mem_map.mpr ⟨_, member, if_pos rfl⟩⟩
        · exact Or.inl ⟨door, doomed, mem_setJob_of_ne member same _⟩
      · exact Or.inr ended
  | act act =>
      have outside := act.outside buffered
      rcases outside.accounts buffered with ⟨trace, accounts, _, _⟩
      rcases pursued with ⟨door, doomed, member⟩ | aborted | accepted
      · refine Or.inl ⟨door, doomed, ?_⟩
        rw [outside.jobs]
        exact member
      · refine Or.inr (Or.inl ?_)
        rw [outside.outcomes]
        exact aborted
      · refine Or.inr (Or.inr ?_)
        rw [accounts.journal, Journal.accepted_append]
        exact List.mem_append_left _ accepted

theorem Pursued.reaches {batch : Batch} (pursued : Pursued number batch before)
    (undisturbed : before.Undisturbed queue) (reaches : Reaches false before after) :
    Pursued number batch after := by
  induction reaches with
  | refl => exact pursued
  | tail earlier move inductionHypothesis =>
      rcases undisturbed.reaches earlier with ⟨_, there⟩
      exact inductionHypothesis.move there move

end Following

end Deployment
end FailureDispatch

import FailureDispatch.Proofs.Fairness.Crowd
import FailureDispatch.Proofs.Queue.Seat

/-!
# Who has the seat in front of the buffer

A consumer is in one of three positions: he sits in front of the buffer, he has
a claim on the seat, or he can act and has not yet asked.  At most one sits
there, and if nobody does, the seat is free or granted to somebody who can act.

The sitter sleeps only before an empty buffer to which something may still
arrive.  Whatever puts an end to that wakes him, and whoever leaves the seat
wakes the next in line.  So nobody waits in vain: the wake-ups chain from one
consumer to the next.
-/

namespace FailureDispatch

open SubmissionQueue (Gets)

namespace Crowd

/-- Who sits in front of the buffer, and how the others wait for the seat. -/
structure Occupied (crowd : Crowd) (sitter : Option Actor) : Prop where
  seating : crowd.queue.turn.Seating sitter
  sits : ∀ actor, crowd.role actor = .consumes .seat ↔ sitter = some actor
  stands : ∀ actor ∈ crowd.queue.turn.claimants, crowd.role actor = .consumes .line
  attends : ∀ actor, crowd.role actor = .consumes .line →
    actor ∈ crowd.queue.turn.claimants ∨ actor ∈ crowd.ready
  granted : ∀ actor ∈ crowd.queue.turn.granted, actor ∈ crowd.ready
  asleep : ∀ actor, crowd.queue.sleeper = some actor →
    sitter = some actor ∧ crowd.queue.buffer = [] ∧ crowd.queue.mayReceive = true
  awake : ∀ actor, sitter = some actor →
    crowd.queue.sleeper = some actor ∨ actor ∈ crowd.ready

/-- What those who submit can do to the consumers: nothing, or rouse the one in the seat. -/
inductive Rouses (queue : SubmissionQueue Actor Batch) (woken : List Actor)
    (next : SubmissionQueue Actor Batch) : Prop where
  | kept (turn : next.turn = queue.turn) (sleeper : next.sleeper = queue.sleeper)
      (buffer : next.buffer = queue.buffer)
      (receives : queue.mayReceive = true → next.mayReceive = true)
  | roused (turn : next.turn = queue.turn) (sleeper : next.sleeper = none)
      (wakes : ∀ actor, queue.sleeper = some actor → actor ∈ woken)

section Submitters

variable {queue : SubmissionQueue Actor Batch}

theorem rouses_refl : Rouses queue [] queue := .kept rfl rfl rfl id

theorem rouses_push (slots : Permits Actor) (batch : Batch) :
    Rouses queue (SubmissionQueue.push { queue with slots } batch).1
      (SubmissionQueue.push { queue with slots } batch).2 :=
  .roused rfl rfl fun _ sleeps => Option.mem_toList.mpr sleeps

/-- The sitter is left asleep only if something may still arrive. -/
theorem rouses_rouseIfExhausted (isOpen : Bool) (slots : Permits Actor) :
    Rouses queue (SubmissionQueue.rouseIfExhausted { queue with isOpen, slots }).1
      (SubmissionQueue.rouseIfExhausted { queue with isOpen, slots }).2 := by
  unfold SubmissionQueue.rouseIfExhausted
  split
  · next more => exact .kept rfl rfl rfl fun _ => more
  · exact .roused rfl rfl fun _ sleeps => Option.mem_toList.mpr sleeps

theorem rouses_close : Rouses queue queue.close.1 queue.close.2 :=
  rouses_rouseIfExhausted false queue.slots

theorem rouses_withdraw (who : Actor) :
    Rouses queue (queue.withdraw who).1 (queue.withdraw who).2 := by
  have rouses : Rouses queue _ _ :=
    rouses_rouseIfExhausted queue.isOpen (queue.slots.leave who).2
  cases rouses with
  | kept turn sleeper buffer receives => exact .kept turn sleeper buffer receives
  | roused turn sleeper wakes =>
      exact .roused turn sleeper fun actor sleeps => List.mem_append_right _ (wakes actor sleeps)

theorem rouses_trySubmit (batch : Batch) :
    Rouses queue (queue.trySubmit batch).2.1 (queue.trySubmit batch).2.2 := by
  unfold SubmissionQueue.trySubmit
  split
  · exact .kept rfl rfl rfl id
  · split
    · exact rouses_push _ batch
    · exact .kept rfl rfl rfl id

/-- Whoever has a claim on a slot may bring something. -/
theorem mayReceive_of_claimant {slots : Permits Actor} {who : Actor}
    (claims : who ∈ slots.claimants) :
    SubmissionQueue.mayReceive { queue with slots } = true := by
  have loud : slots.isQuiet = false := by
    apply Bool.eq_false_iff.mpr
    intro quiet
    rw [SubmissionQueue.isQuiet_iff.mp quiet] at claims
    cases claims
  simp only [SubmissionQueue.mayReceive, loud, Bool.not_false, Bool.or_true]

end Submitters

namespace Occupied

variable {queue next : SubmissionQueue Actor Batch} {role : Actor → Role}
  {ready left woken : List Actor} {who : Actor} {earlier later : Role}
  {sitter sitter' : Option Actor}

/-- What must hold of the seat after one of the crowd has changed. -/
theorem acted (occupied : Occupied ⟨queue, role, ready⟩ sitter)
    (seating : next.turn.Seating sitter')
    (others : ∀ other, other ≠ who →
      (other ∈ next.turn.claimants ↔ other ∈ queue.turn.claimants))
    (alike : ∀ other, other ≠ who → (sitter' = some other ↔ sitter = some other))
    (sits : later = .consumes .seat ↔ sitter' = some who)
    (stands : who ∈ next.turn.claimants → later = .consumes .line)
    (attends : later = .consumes .line → who ∈ next.turn.claimants ∨ who ∈ left)
    (granted : ∀ other ∈ next.turn.granted,
      other ≠ who ∧ (other ∈ queue.turn.granted ∨ other ∈ woken) ∨ other ∈ left)
    (asleep : ∀ actor, next.sleeper = some actor →
      sitter' = some actor ∧ next.buffer = [] ∧ next.mayReceive = true)
    (awake : ∀ actor, sitter' = some actor → next.sleeper = some actor ∨
      (actor ≠ who ∧ (actor ∈ ready ∨ actor ∈ woken)) ∨ actor ∈ left)
    (stand : ∀ other, other ≠ who → other ∈ ready ∨ other ∈ woken → other ∈ left) :
    Occupied ⟨next, Function.update role who later, left⟩ sitter' where
  seating := seating
  sits := by
    intro actor
    by_cases same : actor = who
    · subst same
      simp only [Function.update_self]
      exact sits
    · simp only [Function.update_of_ne same]
      exact (occupied.sits actor).trans (alike actor same).symm
  stands := by
    intro actor claims
    by_cases same : actor = who
    · subst same
      simp only [Function.update_self]
      exact stands claims
    · simp only [Function.update_of_ne same]
      exact occupied.stands actor ((others actor same).mp claims)
  attends := by
    intro actor wants
    by_cases same : actor = who
    · subst same
      simp only [Function.update_self] at wants
      exact attends wants
    · simp only [Function.update_of_ne same] at wants
      rcases occupied.attends actor wants with claims | present
      · exact Or.inl ((others actor same).mpr claims)
      · exact Or.inr (stand actor same (Or.inl present))
  granted := by
    intro actor member
    rcases granted actor member with ⟨different, kept | awoken⟩ | present
    · exact stand actor different (Or.inl (occupied.granted actor kept))
    · exact stand actor different (Or.inr awoken)
    · exact present
  asleep := asleep
  awake := by
    intro actor sitting
    rcases awake actor sitting with sleeps | ⟨different, present⟩ | present
    · exact Or.inl sleeps
    · exact Or.inr (stand actor different present)
    · exact Or.inr present

/-- Whoever consumes nothing neither sits nor stands there. -/
theorem stranger (occupied : Occupied ⟨queue, role, ready⟩ sitter)
    (apart : ∀ place, role who ≠ .consumes place) :
    sitter ≠ some who ∧ who ∉ queue.turn.claimants :=
  ⟨fun sitting => apart _ ((occupied.sits who).mpr sitting),
    fun claims => apart _ (occupied.stands who claims)⟩

/-- Whoever waits in line does not sit. -/
theorem away (occupied : Occupied ⟨queue, role, ready⟩ sitter)
    (here : role who = .consumes .line) : sitter ≠ some who := by
  intro sitting
  have seated : role who = .consumes .seat := (occupied.sits who).mpr sitting
  rw [here] at seated
  cases seated

/-- What becomes of the sleeper when the sitter does not change. -/
theorem roused (occupied : Occupied ⟨queue, role, ready⟩ sitter)
    (rouses : Rouses queue woken next) :
    next.turn = queue.turn ∧
      (∀ actor, next.sleeper = some actor →
        sitter = some actor ∧ next.buffer = [] ∧ next.mayReceive = true) ∧
      ∀ actor, sitter = some actor →
        next.sleeper = some actor ∨ actor ∈ ready ∨ actor ∈ woken := by
  cases rouses with
  | kept turn sleeper buffer receives =>
      refine ⟨turn, ?_, ?_⟩
      · intro actor sleeps
        rw [sleeper] at sleeps
        rcases occupied.asleep actor sleeps with ⟨sitting, empty, more⟩
        exact ⟨sitting, buffer.trans empty, receives more⟩
      · intro actor sitting
        rw [sleeper]
        exact (occupied.awake actor sitting).imp_right Or.inl
  | roused turn sleeper wakes =>
      refine ⟨turn, ?_, ?_⟩
      · intro actor sleeps
        rw [sleeper] at sleeps
        cases sleeps
      · intro actor sitting
        rcases occupied.awake actor sitting with sleeps | present
        · exact Or.inr (Or.inr (wakes actor sleeps))
        · exact Or.inr (Or.inl present)

/-- What somebody does who does not consume. -/
theorem elsewhere (occupied : Occupied ⟨queue, role, ready⟩ sitter)
    (here : role who = earlier) (apart : ∀ place, earlier ≠ .consumes place)
    (stays : ∀ place, later ≠ .consumes place) (rouses : Rouses queue woken next)
    (stand : ∀ other, other ≠ who → other ∈ ready ∨ other ∈ woken → other ∈ left) :
    Occupied ⟨next, Function.update role who later, left⟩ sitter := by
  rcases occupied.stranger (by rw [here]; exact apart) with ⟨away, unclaimed⟩
  rcases occupied.roused rouses with ⟨turn, asleep, awake⟩
  have different {actor : Actor} (sitting : sitter = some actor) : actor ≠ who := by
    intro same
    exact away (same ▸ sitting)
  refine occupied.acted ?_ ?_ (fun _ _ => Iff.rfl) ?_ ?_ ?_ ?_ asleep ?_ stand
  · rw [turn]
    exact occupied.seating
  · intro other _
    rw [turn]
  · exact iff_of_false (stays _) away
  · intro claims
    rw [turn] at claims
    exact absurd claims unclaimed
  · exact fun wants => absurd wants (stays _)
  · intro other member
    rw [turn] at member
    refine Or.inl ⟨?_, Or.inl member⟩
    intro same
    subst same
    exact unclaimed (List.mem_append_right _ member)
  · intro actor sitting
    exact (awake actor sitting).imp_right fun present => Or.inl ⟨different sitting, present⟩

/-- Whoever has got the seat was alone in it, and came first. -/
theorem gets (occupied : Occupied ⟨queue, role, ready⟩ sitter) {place : SubmissionQueue.Place}
    {turn : Permits Actor} (here : role who = .consumes place)
    (gets : Gets queue.turn who place turn) :
    (∀ other, other ≠ who → sitter ≠ some other) ∧ turn.Seating (some who) ∧
      queue.turn.Quits turn who [] ∧
      (queue.turn.attendance sitter = turn.attendance (some who) ∨
        queue.turn.attendance sitter = [] ∧ turn.attendance (some who) = [who]) := by
  cases gets with
  | kept =>
      have sitting := (occupied.sits who).mp here
      subst sitting
      have unclaimed := occupied.seating.apart who rfl
      refine ⟨?_, occupied.seating, ⟨occupied.seating.orderly, ?_, ?_⟩, Or.inl rfl⟩
      · intro other different same
        exact different (Option.some.inj same).symm
      · intro other
        refine (and_iff_left_of_imp fun claims same => ?_).symm
        exact unclaimed (same ▸ claims)
      · intro other member
        refine Or.inl ⟨member, fun same => unclaimed ?_⟩
        exact List.mem_append_right _ (same ▸ member)
  | obtained asked =>
      rcases occupied.seating.obtains asked with ⟨nobody, seating, quits, order⟩
      subst nobody
      exact ⟨nofun, seating, quits, order⟩

/-- What somebody does who leaves the seat. -/
theorem vacates (occupied : Occupied ⟨queue, role, ready⟩ sitter) {place : SubmissionQueue.Place}
    {turn : Permits Actor} (here : role who = .consumes place)
    (gets : Gets queue.turn who place turn) (passes : next.turn = (turn.release 1).2)
    (sleeper : next.sleeper = none) (wakes : ∀ actor ∈ (turn.release 1).1, actor ∈ woken)
    (stand : ∀ other, other ≠ who → other ∈ ready ∨ other ∈ woken → other ∈ left) :
    Occupied ⟨next, Function.update role who .apart, left⟩ none := by
  rcases occupied.gets here gets with ⟨alone, seating, quits, _⟩
  have passed := quits.then_serves (Permits.release_serves seating.orderly)
  rw [← passes] at passed
  refine occupied.acted ?_ ?_ ?_ (iff_of_false nofun nofun) ?_ nofun ?_ ?_ nofun stand
  · rw [passes]
    exact seating.vacates.1
  · intro other different
    exact (passed.claimants other).trans (and_iff_left different)
  · intro other different
    exact iff_of_false nofun (alone other different)
  · intro claims
    exact absurd rfl ((passed.claimants who).mp claims).2
  · intro other member
    rcases passed.granted other member with ⟨kept, different⟩ | awoken
    · exact Or.inl ⟨different, Or.inl kept⟩
    · refine Or.inl ⟨?_, Or.inr (wakes other awoken)⟩
      intro same
      subst same
      exact ((passed.claimants _).mp (List.mem_append_right _ member)).2 rfl
  · intro actor sleeps
    rw [sleeper] at sleeps
    cases sleeps

/-- Whoever leaves the seat leaves the others in their order. -/
theorem sublist_vacated (occupied : Occupied ⟨queue, role, ready⟩ sitter)
    {place : SubmissionQueue.Place} {turn : Permits Actor} (here : role who = .consumes place)
    (gets : Gets queue.turn who place turn) :
    ((turn.release 1).2.attendance none).Sublist (queue.turn.attendance sitter) := by
  rcases occupied.gets here gets with ⟨_, seating, _, same | ⟨_, alone⟩⟩
  · rw [same, seating.vacates.2]
    exact List.sublist_cons_self _ _
  · rw [(List.cons.inj (alone.symm.trans seating.vacates.2)).2.symm]
    exact List.nil_sublist _

/-- Nobody sleeps in front of a buffer that somebody has found filled, or when nothing can
arrive any more. -/
theorem nobody_asleep (occupied : Occupied ⟨queue, role, ready⟩ sitter)
    (vain : queue.buffer ≠ [] ∨ queue.mayReceive = false) : queue.sleeper = none := by
  cases sleeps : queue.sleeper with
  | none => rfl
  | some actor =>
      rcases occupied.asleep actor sleeps with ⟨_, empty, more⟩
      rcases vain with filled | last
      · exact absurd empty filled
      · rw [show queue.mayReceive = true from more] at last
        cases last

/-- Who finds nothing in the buffer falls asleep in the seat. -/
theorem falls_asleep (occupied : Occupied ⟨queue, role, ready⟩ sitter)
    {place : SubmissionQueue.Place} {turn : Permits Actor} (here : role who = .consumes place)
    (gets : Gets queue.turn who place turn) (empty : queue.buffer = [])
    (more : queue.mayReceive = true)
    (stand : ∀ other, other ≠ who → other ∈ ready ∨ other ∈ woken → other ∈ left) :
    Occupied ⟨{ queue with turn, sleeper := some who },
        Function.update role who (.consumes .seat), left⟩ (some who) ∧
      InTurn (queue.turn.attendance sitter) (queue.consumed < queue.consumed)
        (turn.attendance (some who)) := by
  rcases occupied.gets here gets with ⟨alone, seating, quits, order⟩
  constructor
  · refine occupied.acted seating ?_ ?_ (iff_of_true rfl rfl) ?_ nofun ?_ ?_ ?_ stand
    · intro other different
      exact (quits.claimants other).trans (and_iff_left different)
    · intro other different
      exact iff_of_false (fun same => different (Option.some.inj same).symm)
        (alone other different)
    · intro claims
      exact absurd rfl ((quits.claimants who).mp claims).2
    · intro other member
      rcases quits.granted other member with ⟨kept, different⟩ | impossible
      · exact Or.inl ⟨different, Or.inl kept⟩
      · cases impossible
    · exact fun actor sleeps => ⟨sleeps, empty, more⟩
    · exact fun actor sitting => Or.inl sitting
  · rcases order with same | ⟨nobody, first⟩
    · exact .unmoved same.symm
    · rw [nobody]
      exact .comes List.not_mem_nil first (Nat.lt_irrefl _)

/-- Nobody but the sitter is concerned by what somebody else does in the line. -/
theorem awake_beside (occupied : Occupied ⟨queue, role, ready⟩ sitter) (away : sitter ≠ some who) :
    ∀ actor, sitter = some actor → queue.sleeper = some actor ∨
      (actor ≠ who ∧ (actor ∈ ready ∨ actor ∈ woken)) ∨ actor ∈ left := by
  intro actor sitting
  refine (occupied.awake actor sitting).imp_right fun present => Or.inl ⟨?_, Or.inl present⟩
  exact fun same => away (same ▸ sitting)

/-- Who finds the seat taken stands in line for it. -/
theorem lines_up (occupied : Occupied ⟨queue, role, ready⟩ sitter) {turn : Permits Actor}
    (here : role who = .consumes .line) (asked : queue.turn.ask who = (false, turn))
    (stand : ∀ other, other ≠ who → other ∈ ready ∨ other ∈ woken → other ∈ left) :
    Occupied ⟨{ queue with turn }, Function.update role who (.consumes .line), left⟩ sitter ∧
      InTurn (queue.turn.attendance sitter) (queue.consumed < queue.consumed)
        (turn.attendance sitter) := by
  have away := occupied.away here
  rcases occupied.seating.queues asked away with ⟨seating, queues, order⟩
  constructor
  · refine occupied.acted seating ?_ (fun _ _ => Iff.rfl) (iff_of_false nofun away)
      (fun _ => rfl) ?_ ?_ occupied.asleep (occupied.awake_beside away) stand
    · intro other different
      exact (queues.claimants other).trans (or_iff_left different)
    · exact fun _ => Or.inl ((queues.claimants who).mpr (Or.inr rfl))
    · intro other member
      refine Or.inl ⟨?_, Or.inl (queues.granted ▸ member)⟩
      intro same
      subst same
      exact queues.waits member
  · rcases order with same | ⟨last, absent⟩
    · exact .unmoved same
    · exact .comes absent last (Nat.lt_irrefl _)

/-- Another look before giving up may have put somebody in line, and nothing else. -/
theorem looked_once_more (occupied : Occupied ⟨queue, role, ready⟩ sitter) {turn : Permits Actor}
    (here : role who = .consumes .line)
    (looked : turn = queue.turn ∨ queue.turn.ask who = (false, turn)) :
    turn.Seating sitter ∧
      (∀ other, other ≠ who → (other ∈ turn.claimants ↔ other ∈ queue.turn.claimants)) ∧
      turn.granted = queue.turn.granted ∧
      ((turn.attendance sitter).erase who).Sublist (queue.turn.attendance sitter) := by
  rcases looked with same | asked
  · rw [same]
    exact ⟨occupied.seating, fun _ _ => Iff.rfl, rfl, List.erase_sublist⟩
  · rcases occupied.seating.queues asked (occupied.away here) with ⟨seating, queues, order⟩
    refine ⟨seating, fun other different =>
      (queues.claimants other).trans (or_iff_left different), queues.granted, ?_⟩
    rcases order with same | ⟨last, absent⟩
    · rw [same]
      exact List.erase_sublist
    · have same : (turn.attendance sitter).erase who = queue.turn.attendance sitter := by
        rw [last, List.erase_append_right _ absent, List.erase_cons_head, List.append_nil]
      exact same ▸ List.Sublist.refl _

/-- Who gives up waiting for the seat leaves the others in their order. -/
theorem leaves_line (occupied : Occupied ⟨queue, role, ready⟩ sitter) {turn : Permits Actor}
    (here : role who = .consumes .line)
    (looked : turn = queue.turn ∨ queue.turn.ask who = (false, turn))
    (stand : ∀ other, other ≠ who → other ∈ ready ∨ other ∈ (turn.leave who).1 → other ∈ left) :
    Occupied ⟨{ queue with turn := (turn.leave who).2 }, Function.update role who .apart, left⟩
        sitter ∧
      InTurn (queue.turn.attendance sitter) (queue.consumed < queue.consumed)
        ((turn.leave who).2.attendance sitter) := by
  have away := occupied.away here
  rcases occupied.looked_once_more here looked with ⟨seatingThere, claimants, granted, order⟩
  rcases seatingThere.leaves away with ⟨seating, quits, erased⟩
  refine ⟨?_, .unserved (erased ▸ order) (Nat.lt_irrefl _)⟩
  refine occupied.acted seating ?_ (fun _ _ => Iff.rfl) (iff_of_false nofun away)
    ?_ nofun ?_ occupied.asleep (occupied.awake_beside away) stand
  · intro other different
    exact ((quits.claimants other).trans (and_iff_left different)).trans
      (claimants other different)
  · intro claims
    exact absurd rfl ((quits.claimants who).mp claims).2
  · intro other member
    have different : other ≠ who := by
      intro same
      subst same
      exact ((quits.claimants _).mp (List.mem_append_right _ member)).2 rfl
    rcases quits.granted other member with ⟨kept, _⟩ | awoken
    · exact Or.inl ⟨different, Or.inl (granted ▸ kept)⟩
    · exact Or.inl ⟨different, Or.inr awoken⟩

/-- Whatever somebody does, the seat has at most one sitter and nobody waits in vain, and
those who have come for the seat are served in order. -/
theorem acts (occupied : Occupied ⟨queue, role, ready⟩ sitter) (here : role who = earlier)
    (acts : Acts queue who earlier woken next later)
    (stand : ∀ other, other ≠ who → other ∈ ready ∨ other ∈ woken → other ∈ left) :
    ∃ sitter', Occupied ⟨next, Function.update role who later, left⟩ sitter' ∧
      InTurn (queue.turn.attendance sitter) (queue.consumed < next.consumed)
        (next.turn.attendance sitter') := by
  -- Who does not consume changes neither the sitter nor the line.
  have aside (apart : ∀ place, earlier ≠ .consumes place) (stays : ∀ place, later ≠ .consumes place)
      (rouses : Rouses queue woken next) :
      ∃ sitter', Occupied ⟨next, Function.update role who later, left⟩ sitter' ∧
        InTurn (queue.turn.attendance sitter) (queue.consumed < next.consumed)
          (next.turn.attendance sitter') := by
    have same : next.turn.attendance sitter = queue.turn.attendance sitter := by
      rw [(occupied.roused rouses).1]
    exact ⟨sitter, occupied.elsewhere here apart stays rouses stand,
      .unmoved same⟩
  cases acts with
  | idles => exact aside nofun nofun rouses_refl
  | refused => exact aside nofun nofun (.kept rfl rfl rfl id)
  | closes => exact aside nofun nofun rouses_close
  | accepted batch asked => exact aside nofun nofun (rouses_push _ batch)
  | withdraws => exact aside nofun nofun (rouses_withdraw who)
  | @queues _ slots asked =>
      have claims : who ∈ slots.claimants := by
        have asks := queue.slots.ask_asks who
        rw [asked] at asks
        cases asks with
        | standsOn _ stands => exact List.mem_append_left _ stands
        | queues _ _ => exact List.mem_append_left _ (List.mem_append_right _ List.mem_cons_self)
      exact aside nofun nofun (.kept rfl rfl rfl fun _ => mayReceive_of_claimant claims)
  | @takes _ turn _ _ gets front =>
      have filled : queue.buffer ≠ [] := by
        rw [front]
        exact List.cons_ne_nil _ _
      have nobody := occupied.nobody_asleep (Or.inl filled)
      refine ⟨none, occupied.vacates here gets rfl nobody ?_ stand, ?_⟩
      · exact fun actor awoken => List.mem_append_right _ awoken
      · rcases occupied.gets here gets with ⟨_, seating, _, same | ⟨nobody, alone⟩⟩
        · exact .serves (same.trans seating.vacates.2) (Nat.lt_succ_self _)
        · have none := (List.cons.inj (alone.symm.trans seating.vacates.2)).2
          have same := none.symm.trans nobody.symm
          exact .unmoved same
  | misses gets last =>
      exact ⟨none, occupied.vacates here gets rfl (occupied.nobody_asleep (Or.inr last))
        (fun _ => id) stand, .unserved (occupied.sublist_vacated here gets) (Nat.lt_irrefl _)⟩
  | vacates gets =>
      exact ⟨none, occupied.vacates here gets rfl rfl (fun _ => id) stand,
        .unserved (occupied.sublist_vacated here gets) (Nat.lt_irrefl _)⟩
  | sleeps gets empty more => exact ⟨some who, occupied.falls_asleep here gets empty more stand⟩
  | stands asked => exact ⟨sitter, occupied.lines_up here asked stand⟩
  | leaves looked => exact ⟨sitter, occupied.leaves_line here looked stand⟩

/-- The seat after something that is no turn. -/
theorem around (occupied : Occupied ⟨queue, role, ready⟩ sitter)
    (rouses : Rouses queue woken next) :
    Occupied ⟨next, role, lineUpAll ready woken⟩ sitter := by
  rcases occupied.roused rouses with ⟨turn, asleep, awake⟩
  refine ⟨?_, occupied.sits, ?_, ?_, ?_, asleep, ?_⟩
  · simp only [turn]
    exact occupied.seating
  · simp only [turn]
    exact occupied.stands
  · simp only [turn]
    exact fun actor wants => (occupied.attends actor wants).imp_right
      fun present => mem_lineUpAll.mpr (Or.inl present)
  · simp only [turn]
    exact fun actor member => mem_lineUpAll.mpr (Or.inl (occupied.granted actor member))
  · exact fun actor sitting => (awake actor sitting).imp_right mem_lineUpAll.mpr

/-- Somebody turns to something else at a queue that stays as it is. -/
theorem turns (occupied : Occupied ⟨queue, role, ready⟩ sitter)
    (seat : later = .consumes .seat ↔ role who = .consumes .seat)
    (keeps : role who = .consumes .line → later = .consumes .line)
    (present : later = .consumes .line → who ∈ left) (grows : ∀ actor ∈ ready, actor ∈ left) :
    Occupied ⟨queue, Function.update role who later, left⟩ sitter := by
  have nobody {other : Actor} : other ∉ ([] : List Actor) := List.not_mem_nil
  refine occupied.acted occupied.seating (fun _ _ => Iff.rfl) (fun _ _ => Iff.rfl)
    (seat.trans (occupied.sits who)) (fun claims => keeps (occupied.stands who claims))
    (fun wants => Or.inr (present wants)) ?_ occupied.asleep ?_
    fun other _ stands => grows other (stands.resolve_right nobody)
  · exact fun other member => Or.inr (grows other (occupied.granted other member))
  · exact fun actor sitting => (occupied.awake actor sitting).imp_right
      fun stands => Or.inr (grows actor stands)

/-- Whatever happens, the seat has at most one sitter and nobody waits in vain, and those who
have come for the seat are served in order. -/
theorem step {before after : Crowd} (occupied : before.Occupied sitter) (step : before.Step after) :
    ∃ sitter', after.Occupied sitter' ∧
      InTurn (before.queue.turn.attendance sitter) (before.queue.consumed < after.queue.consumed)
        (after.queue.turn.attendance sitter') := by
  -- Nothing but a turn changes the line.
  have aside (kept : after.Occupied sitter) (turn : after.queue.turn = before.queue.turn) :
      ∃ sitter', after.Occupied sitter' ∧
        InTurn (before.queue.turn.attendance sitter) (before.queue.consumed < after.queue.consumed)
          (after.queue.turn.attendance sitter') :=
    ⟨sitter, kept, .unmoved (by rw [turn])⟩
  have grows (who : Actor) : ∀ actor ∈ before.ready, actor ∈ lineUp before.ready who :=
    fun actor member => mem_lineUp.mpr (Or.inl member)
  cases step with
  | stirs calm => exact aside (occupied.around (.kept rfl rfl rfl id)) rfl
  | offers batch =>
      exact aside (occupied.around (rouses_trySubmit batch)) (SubmissionQueue.turn_trySubmit _ _)
  | closes => exact aside (occupied.around rouses_close) (SubmissionQueue.turn_close _)
  | @comes who role fresh new =>
      refine aside (occupied.turns ?_ ?_ (fun _ => mem_lineUp.mpr (Or.inr rfl)) (grows who)) rfl
      · rw [fresh]
        refine iff_of_false ?_ nofun
        rcases new with same | same | same <;> (rw [same]; exact nofun)
      · rw [fresh]
        exact nofun
  | dooms who =>
      have consumes (place : SubmissionQueue.Place) :
          (before.role who).doomed = .consumes place ↔ before.role who = .consumes place := by
        cases before.role who with
        | submits begun => cases begun <;> exact iff_of_false nofun nofun
        | apart | withdraws | consumes _ => exact Iff.rfl
      exact aside (occupied.turns (consumes .seat) (consumes .line).mpr
        (fun _ => mem_lineUp.mpr (Or.inr rfl)) (grows who)) rfl
  | approaches present apart =>
      refine aside (occupied.turns ?_ ?_ (fun _ => present) fun _ => id) rfl
      · rw [apart]
        exact iff_of_false nofun nofun
      · rw [apart]
        exact nofun
  | @turn who rest earlier later early woken late next progress line here acts calm stays =>
      apply occupied.acts here acts
      intro other different stands
      rw [line] at stands ⊢
      refine (mem_left progress different).mpr (stands.imp_right fun awoken => ?_)
      exact List.mem_append_left _ (List.mem_append_right _ awoken)

end Occupied
end Crowd
end FailureDispatch

import FailureDispatch.Proofs.Course.Line
import FailureDispatch.Proofs.Queue.Order
import Mathlib.Logic.Function.Basic

/-!
# The crowd at a queue

Whether somebody is forgotten at a queue, or overtaken, does not depend on why
he is there.  A crowd is what matters: the queue, what everybody is about at it,
and the line of those who can act.  The worker of a service and the callers are
alike in it.

`Acts` says what one actor can do to the queue in a turn, and `Step` what can
happen to a crowd.  Somebody is woken by the queue, or for a reason of his own;
the latter never happens to a submission that waits for a slot, which is why
submissions are woken in the order in which slots are granted to them.

`Reserved` is the first thing that steps keep: the claims on the slots are those
of the submissions that wait, and whoever has been granted a slot can act.
-/

namespace FailureDispatch

/-- What somebody is about at a queue. -/
inductive Role where
  | apart
  /-- Submits a batch, and waits for a slot once this has begun. -/
  | submits (begun : Bool)
  /-- Gives up a submission that waits for a slot. -/
  | withdraws
  | consumes (place : SubmissionQueue.Place)
  deriving DecidableEq

namespace Role

/-- Whether there is a claim on a slot. -/
def claims : Role → Bool
  | submits begun => begun
  | withdraws => true
  | apart | consumes _ => false

/-- What remains to be done when the call is torn down. -/
def doomed : Role → Role
  | submits true => withdraws
  | submits false => apart
  | role => role

theorem doomed_doomed (role : Role) : role.doomed.doomed = role.doomed := by
  cases role with
  | submits begun => cases begun <;> rfl
  | _ => rfl

theorem doomed_ne_submits (role : Role) (begun : Bool) : role.doomed ≠ .submits begun := by
  cases role with
  | submits begun => cases begun <;> exact nofun
  | _ => exact nofun

theorem apart_ne_submits (begun : Bool) : apart ≠ .submits begun := nofun

theorem consumes_ne_submits (place : SubmissionQueue.Place) (begun : Bool) :
    consumes place ≠ .submits begun := nofun

end Role

/-- A queue, what everybody is about at it, and the line of those who can act. -/
structure Crowd where
  queue : SubmissionQueue Actor Batch
  role : Actor → Role
  ready : List Actor

open SubmissionQueue (Gets)

/-- What somebody can do to a queue in one turn: what he was about, those whom
he wakes, the queue afterwards, and what he is about then. -/
inductive Acts (queue : SubmissionQueue Actor Batch) (who : Actor) :
    Role → List Actor → SubmissionQueue Actor Batch → Role → Prop where
  | idles : Acts queue who .apart [] queue .apart
  | closes : Acts queue who .apart queue.close.1 queue.close.2 .apart
  | accepted {begun slots} (batch : Batch) (asked : queue.slots.ask who = (true, slots)) :
      Acts queue who (.submits begun) (SubmissionQueue.push { queue with slots } batch).1
        (SubmissionQueue.push { queue with slots } batch).2 .apart
  | refused : Acts queue who (.submits false) [] queue.refuse .apart
  | queues {begun slots} (asked : queue.slots.ask who = (false, slots)) :
      Acts queue who (.submits begun) [] { queue with slots } (.submits true)
  | withdraws :
      Acts queue who .withdraws (queue.withdraw who).1 (queue.withdraw who).2 .apart
  | takes {place turn item rest} (gets : Gets queue.turn who place turn)
      (front : queue.buffer = item :: rest) :
      Acts queue who (.consumes place) ((queue.slots.release 1).1 ++ (turn.release 1).1)
        { queue with
          buffer := rest
          slots := (queue.slots.release 1).2
          turn := (turn.release 1).2
          consumed := queue.consumed + 1 }
        .apart
  /-- Finds that nothing can arrive any more. -/
  | misses {place turn} (gets : Gets queue.turn who place turn)
      (last : queue.mayReceive = false) :
      Acts queue who (.consumes place) (turn.release 1).1
        { queue with turn := (turn.release 1).2 } .apart
  /-- Gives up the seat. -/
  | vacates {place turn} (gets : Gets queue.turn who place turn) :
      Acts queue who (.consumes place) (turn.release 1).1
        { queue with turn := (turn.release 1).2, sleeper := none } .apart
  | sleeps {place turn} (gets : Gets queue.turn who place turn) (empty : queue.buffer = [])
      (more : queue.mayReceive = true) :
      Acts queue who (.consumes place) [] { queue with turn, sleeper := some who }
        (.consumes .seat)
  /-- Waits for the seat. -/
  | stands {turn} (asked : queue.turn.ask who = (false, turn)) :
      Acts queue who (.consumes .line) [] { queue with turn } (.consumes .line)
  /-- Gives up waiting for the seat, before or after another look. -/
  | leaves {turn} (looked : turn = queue.turn ∨ queue.turn.ask who = (false, turn)) :
      Acts queue who (.consumes .line) (turn.leave who).1
        { queue with turn := (turn.leave who).2 } .apart

/-- Nobody among them is a submission that waits for a slot. -/
def Crowd.Calm (crowd : Crowd) (woken : List Actor) : Prop :=
  ∀ actor ∈ woken, crowd.role actor ≠ .submits true

/-- What remains of the line after a turn. -/
def Progress.left (progress : Progress) (line : List Actor) : List Actor :=
  match progress with
  | .goesOn => line
  | .rests => line.tail

theorem Progress.leaves_of_rests {later : Role} : Progress.rests = .goesOn → later = .apart :=
  nofun

/-- What can happen to a crowd. -/
inductive Crowd.Step (before : Crowd) : Crowd → Prop where
  /-- Some are woken for reasons of their own. -/
  | stirs {woken} (calm : before.Calm woken) :
      Step before { before with ready := lineUpAll before.ready woken }
  /-- A batch is submitted without waiting. -/
  | offers (batch : Batch) :
      Step before { before with
        queue := (before.queue.trySubmit batch).2.2
        ready := lineUpAll before.ready (before.queue.trySubmit batch).2.1 }
  | closes :
      Step before { before with
        queue := before.queue.close.2
        ready := lineUpAll before.ready before.queue.close.1 }
  | comes {who role} (fresh : before.role who = .apart)
      (new : role = .apart ∨ role = .submits false ∨ role = .consumes .line) :
      Step before { before with
        role := Function.update before.role who role
        ready := lineUp before.ready who }
  | dooms (who : Actor) :
      Step before { before with
        role := Function.update before.role who (before.role who).doomed
        ready := lineUp before.ready who }
  /-- Somebody who has the turn is going to consume. -/
  | approaches {who} (present : who ∈ before.ready) (apart : before.role who = .apart) :
      Step before { before with role := Function.update before.role who (.consumes .line) }
  | turn {who rest earlier later early woken late next} {progress : Progress}
      (line : before.ready = who :: rest) (here : before.role who = earlier)
      (acts : Acts before.queue who earlier woken next later)
      (calm : before.Calm (early ++ late)) (stays : progress = .goesOn → later = .apart) :
      Step before
        { queue := next
          role := Function.update before.role who later
          ready := progress.left (lineUpAll before.ready (early ++ woken ++ late)) }

/-- How a line of those who wait may go on: some give up, or somebody comes last,
or the first is served.  Somebody else may be served without waiting, but then
the line stays as it is. -/
inductive InTurn (line : List Actor) (served : Prop) (next : List Actor) : Prop where
  | stays (kept : next.Sublist line) (same : served → next = line)
  | comes {who} (new : who ∉ line) (last : next = line ++ [who]) (nothing : ¬ served)
  | serves {who} (first : line = who :: next) (something : served)

theorem InTurn.unserved {line next : List Actor} {served : Prop} (kept : next.Sublist line)
    (nothing : ¬ served) : InTurn line served next :=
  .stays kept fun something => absurd something nothing

theorem InTurn.unmoved {line next : List Actor} {served : Prop} (same : next = line) :
    InTurn line served next :=
  .stays (same ▸ List.Sublist.refl _) fun _ => same

namespace Crowd

/-- The others in the line of somebody who has had a turn. -/
theorem mem_left {who other : Actor} {rest woken : List Actor} (progress : Progress)
    (different : other ≠ who) :
    other ∈ progress.left (lineUpAll (who :: rest) woken) ↔
      other ∈ who :: rest ∨ other ∈ woken := by
  cases progress with
  | goesOn => exact mem_lineUpAll
  | rests =>
      refine (mem_tail_lineUpAll different).trans ?_
      rw [List.mem_cons, or_iff_right different]

/-! ## Slots -/

/-- The claims on the slots are those of the submissions that wait, and whoever
has been granted a slot can act. -/
structure Reserved (crowd : Crowd) : Prop where
  roomy : crowd.queue.Roomy
  claims : ∀ actor, actor ∈ crowd.queue.slots.claimants ↔ (crowd.role actor).claims = true
  granted : ∀ actor ∈ crowd.queue.slots.granted, actor ∈ crowd.ready
  fresh : ∀ actor, crowd.role actor = .submits false → actor ∈ crowd.ready

namespace Reserved

variable {queue next : SubmissionQueue Actor Batch} {role : Actor → Role}
  {ready left woken : List Actor} {who : Actor} {earlier later : Role}

theorem ungranted (reserved : Reserved ⟨queue, role, ready⟩)
    (unclaimed : (role who).claims = false) : who ∉ queue.slots.claimants := by
  intro claims
  rw [(reserved.claims who).mp claims] at unclaimed
  cases unclaimed

/-- What must hold of the slots after somebody has acted. -/
theorem acted (reserved : Reserved ⟨queue, role, ready⟩) (roomy : next.Roomy)
    (others : ∀ other, other ≠ who →
      (other ∈ next.slots.claimants ↔ other ∈ queue.slots.claimants))
    (own : who ∈ next.slots.claimants ↔ later.claims = true)
    (granted : ∀ other ∈ next.slots.granted,
      other ≠ who ∧ (other ∈ queue.slots.granted ∨ other ∈ woken))
    (begun : later ≠ .submits false)
    (stand : ∀ other, other ≠ who → other ∈ ready ∨ other ∈ woken → other ∈ left) :
    Reserved ⟨next, Function.update role who later, left⟩ where
  roomy := roomy
  claims := by
    intro actor
    by_cases same : actor = who
    · subst same
      simp only [Function.update_self]
      exact own
    · simp only [Function.update_of_ne same]
      exact (others actor same).trans (reserved.claims actor)
  granted := by
    intro actor member
    rcases granted actor member with ⟨different, kept | awoken⟩
    · exact stand actor different (Or.inl (reserved.granted actor kept))
    · exact stand actor different (Or.inr awoken)
  fresh := by
    intro actor new
    by_cases same : actor = who
    · subst same
      simp only [Function.update_self] at new
      exact absurd new begun
    · simp only [Function.update_of_ne same] at new
      exact stand actor same (Or.inl (reserved.fresh actor new))

/-- What somebody does who leaves the slots alone. -/
theorem elsewhere (reserved : Reserved ⟨queue, role, ready⟩) (roomy : next.Roomy)
    (here : role who = earlier) (slots : next.slots = queue.slots)
    (unclaimed : earlier.claims = false) (after : later.claims = false)
    (begun : later ≠ .submits false)
    (stand : ∀ other, other ≠ who → other ∈ ready ∨ other ∈ woken → other ∈ left) :
    Reserved ⟨next, Function.update role who later, left⟩ := by
  have stranger : who ∉ queue.slots.claimants := reserved.ungranted (by rw [here]; exact unclaimed)
  refine reserved.acted roomy ?_ ?_ ?_ begun stand
  · intro other _
    rw [slots]
  · rw [slots, after]
    exact iff_of_false stranger Bool.false_ne_true
  · intro other member
    rw [slots] at member
    refine ⟨?_, Or.inl member⟩
    intro same
    subst same
    exact stranger (List.mem_append_right _ member)

/-- What somebody does who gives up his claim. -/
theorem quits (reserved : Reserved ⟨queue, role, ready⟩) (roomy : next.Roomy)
    {granted : List Actor} (quits : queue.slots.Quits next.slots who granted)
    (wakes : ∀ actor ∈ granted, actor ∈ woken)
    (stand : ∀ other, other ≠ who → other ∈ ready ∨ other ∈ woken → other ∈ left) :
    Reserved ⟨next, Function.update role who .apart, left⟩ := by
  have gone : who ∉ next.slots.claimants := fun claims => ((quits.claimants who).mp claims).2 rfl
  refine reserved.acted roomy ?_ (iff_of_false gone Bool.false_ne_true) ?_ nofun stand
  · intro other different
    exact (quits.claimants other).trans (and_iff_left different)
  · intro other member
    refine ⟨?_, ?_⟩
    · intro same
      subst same
      exact gone (List.mem_append_right _ member)
    · rcases quits.granted other member with kept | awoken
      · exact Or.inl kept.1
      · exact Or.inr (wakes other awoken)

/-- Whatever somebody does, the slots stay reserved for those who wait. -/
theorem acts (reserved : Reserved ⟨queue, role, ready⟩) (here : role who = earlier)
    (acts : Acts queue who earlier woken next later)
    (stand : ∀ other, other ≠ who → other ∈ ready ∨ other ∈ woken → other ∈ left) :
    Reserved ⟨next, Function.update role who later, left⟩ := by
  have roomy : queue.Roomy := reserved.roomy
  cases acts with
  | idles => exact reserved.elsewhere roomy here rfl rfl rfl nofun stand
  | refused => exact reserved.elsewhere (roomy.of_same rfl rfl rfl) here rfl rfl rfl nofun stand
  | closes =>
      rcases queue.close_eq with ⟨_, same⟩
      have slots : queue.close.2.slots = queue.slots := by rw [same]
      refine reserved.elsewhere (roomy.of_same ?_ ?_ slots) here slots rfl rfl nofun stand <;>
        rw [same]
  | misses gets _ | vacates gets | leaves looked =>
      exact reserved.elsewhere (roomy.of_same rfl rfl rfl) here rfl rfl rfl nofun stand
  | sleeps gets _ _ | stands asked =>
      exact reserved.elsewhere (roomy.of_same rfl rfl rfl) here rfl rfl rfl nofun stand
  | accepted batch asked =>
      rcases Permits.ask_quits roomy.orderly asked with ⟨quits, spent⟩
      exact reserved.quits (roomy.push quits.orderly spent batch) quits nofun stand
  | withdraws =>
      rcases SubmissionQueue.withdraw_quits roomy who with ⟨left, roused, granted, same, quits⟩
      refine reserved.quits left quits ?_ stand
      intro actor awoken
      rw [same]
      exact List.mem_append_left _ awoken
  | queues asked =>
      rcases Permits.ask_queues roomy.orderly asked with ⟨queues, kept⟩
      have measured := roomy.measured
      rw [← kept] at measured
      refine reserved.acted ⟨roomy.positive, measured, queues.orderly⟩ ?_ ?_ ?_ nofun stand
      · intro other different
        exact (queues.claimants other).trans (or_iff_left different)
      · exact iff_of_true ((queues.claimants who).mpr (Or.inr rfl)) rfl
      · intro other member
        refine ⟨?_, Or.inl (queues.granted ▸ member)⟩
        intro same
        subst same
        exact queues.waits member
  | @takes _ _ item rest gets front =>
      have serves := Permits.release_serves roomy.orderly
      have stranger : who ∉ queue.slots.claimants := reserved.ungranted (by rw [here]; rfl)
      have measured : (queue.slots.release 1).2.supply + rest.length = queue.capacity := by
        have before := roomy.measured
        rw [front, List.length_cons] at before
        rw [Permits.supply_release]
        omega
      refine reserved.acted ⟨roomy.positive, measured, serves.orderly⟩ ?_ ?_ ?_ nofun stand
      · exact fun other _ => serves.claimants other
      · exact iff_of_false (fun claims => stranger ((serves.claimants who).mp claims))
          Bool.false_ne_true
      · intro other member
        refine ⟨?_, ?_⟩
        · intro same
          subst same
          exact stranger ((serves.claimants _).mp (List.mem_append_right _ member))
        · rcases serves.granted other member with kept | awoken
          · exact Or.inl kept
          · exact Or.inr (List.mem_append_left _ awoken)

/-- The slots after something that is no turn. -/
theorem around (reserved : Reserved ⟨queue, role, ready⟩) (roomy : next.Roomy)
    (serves : queue.slots.Serves next.slots []) (grows : ∀ actor ∈ ready, actor ∈ left) :
    Reserved ⟨next, role, left⟩ where
  roomy := roomy
  claims actor := (serves.claimants actor).trans (reserved.claims actor)
  granted := by
    intro actor member
    rcases serves.granted actor member with kept | impossible
    · exact grows actor (reserved.granted actor kept)
    · cases impossible
  fresh actor new := grows actor (reserved.fresh actor new)

/-- Whatever happens, the slots stay reserved for those who wait. -/
theorem step {before after : Crowd} (reserved : before.Reserved) (step : before.Step after) :
    after.Reserved := by
  have roomy : before.queue.Roomy := reserved.roomy
  have grows {woken : List Actor} : ∀ actor ∈ before.ready, actor ∈ lineUpAll before.ready woken :=
    fun actor member => mem_lineUpAll.mpr (Or.inl member)
  cases step with
  | stirs calm => exact reserved.around roomy (.refl roomy.orderly) grows
  | offers batch =>
      rcases SubmissionQueue.trySubmit_serves roomy batch with ⟨left, serves⟩
      exact reserved.around left serves grows
  | closes =>
      rcases before.queue.close_eq with ⟨_, same⟩
      rw [same]
      exact reserved.around (roomy.of_same rfl rfl rfl) (.refl roomy.orderly) grows
  | @comes who role fresh new =>
      have stranger := reserved.ungranted (show (before.role who).claims = false by rw [fresh]; rfl)
      have unclaimed : role.claims = false := by
        rcases new with same | same | same <;> (rw [same]; rfl)
      refine ⟨roomy, ?_, ?_, ?_⟩
      · intro actor
        by_cases same : actor = who
        · subst same
          simp only [Function.update_self, unclaimed]
          exact iff_of_false stranger Bool.false_ne_true
        · simp only [Function.update_of_ne same]
          exact reserved.claims actor
      · exact fun actor member => mem_lineUp.mpr (Or.inl (reserved.granted actor member))
      · intro actor waits
        by_cases same : actor = who
        · exact mem_lineUp.mpr (Or.inr same)
        · simp only [Function.update_of_ne same] at waits
          exact mem_lineUp.mpr (Or.inl (reserved.fresh actor waits))
  | dooms who =>
      have same : (before.role who).doomed.claims = (before.role who).claims := by
        cases before.role who with
        | submits begun => cases begun <;> rfl
        | _ => rfl
      refine ⟨roomy, ?_, ?_, ?_⟩
      · intro actor
        by_cases own : actor = who
        · subst own
          simp only [Function.update_self, same]
          exact reserved.claims _
        · simp only [Function.update_of_ne own]
          exact reserved.claims actor
      · exact fun actor member => mem_lineUp.mpr (Or.inl (reserved.granted actor member))
      · intro actor waits
        by_cases own : actor = who
        · exact mem_lineUp.mpr (Or.inr own)
        · simp only [Function.update_of_ne own] at waits
          exact mem_lineUp.mpr (Or.inl (reserved.fresh actor waits))
  | approaches present apart =>
      have nobody {other : Actor} : other ∉ ([] : List Actor) := List.not_mem_nil
      exact reserved.elsewhere roomy apart rfl rfl rfl nofun
        fun _ _ stands => stands.resolve_right nobody
  | @turn who rest earlier later early woken late next progress line here acts calm stays =>
      refine reserved.acts here acts ?_
      intro other different stands
      rw [line] at stands ⊢
      refine (mem_left progress different).mpr (stands.imp_right fun awoken => ?_)
      exact List.mem_append_left _ (List.mem_append_right _ awoken)

end Reserved
end Crowd
end FailureDispatch

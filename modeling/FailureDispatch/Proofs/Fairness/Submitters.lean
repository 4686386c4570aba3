import FailureDispatch.Proofs.Fairness.Seats

/-!
# Submissions are accepted in the order in which they began to wait

Slots are granted in the order of the line, and granting one wakes the
submission that it is granted to.  Nothing else wakes a submission that waits.
So the granted ones stand in the line of those who can act just as they stood in
the line for the slots, and are accepted in that order.

A submission that is torn down may stand anywhere among them.  It does not count
any more: it is not going to be accepted.
-/

namespace FailureDispatch

/-- Those who wait for a slot among the given. -/
def waiting (role : Actor → Role) (actors : List Actor) : List Actor :=
  actors.filter fun actor => role actor = .submits true

theorem mem_waiting {role : Actor → Role} {actors : List Actor} {actor : Actor} :
    actor ∈ waiting role actors ↔ actor ∈ actors ∧ role actor = .submits true := by
  rw [waiting, List.mem_filter, decide_eq_true_iff]

theorem waiting_append (role : Actor → Role) (first second : List Actor) :
    waiting role (first ++ second) = waiting role first ++ waiting role second :=
  List.filter_append _ _

/-- What one does is no matter among others. -/
theorem waiting_update_of_not_mem {role : Actor → Role} {actors : List Actor} {who : Actor}
    (absent : who ∉ actors) (later : Role) :
    waiting (Function.update role who later) actors = waiting role actors := by
  apply List.filter_congr
  intro actor member
  have different : actor ≠ who := fun same => absent (same ▸ member)
  rw [Function.update_of_ne different]

/-- Who did not wait for a slot and does not begin to is no matter. -/
theorem waiting_update {role : Actor → Role} {who : Actor} {later : Role}
    (before : role who ≠ .submits true) (after : later ≠ .submits true) (actors : List Actor) :
    waiting (Function.update role who later) actors = waiting role actors := by
  apply List.filter_congr
  intro actor _
  by_cases same : actor = who
  · subst same
    rw [Function.update_self, decide_eq_false after, decide_eq_false before]
  · rw [Function.update_of_ne same]

/-- Who turns to something else leaves those who wait for a slot in their order. -/
theorem sublist_waiting (role : Actor → Role) {who : Actor} {later : Role}
    (ends : later ≠ .submits true) (actors : List Actor) :
    (waiting (Function.update role who later) actors).Sublist (waiting role actors) := by
  have among : waiting (Function.update role who later) actors =
      (waiting role actors).filter fun actor => Function.update role who later actor =
        .submits true := by
    rw [waiting, waiting, List.filter_filter]
    apply List.filter_congr
    intro actor _
    by_cases same : actor = who
    · subst same
      rw [Function.update_self, decide_eq_false ends, Bool.false_and]
    · rw [Function.update_of_ne same, Bool.and_self]
  rw [among]
  exact List.filter_sublist

/-- Those who wait for a slot, when one of them does not any more. -/
theorem waiting_erase (role : Actor → Role) {actors : List Actor} (once : actors.Nodup)
    (who : Actor) : waiting role (actors.erase who) = (waiting role actors).erase who := by
  have once' : (waiting role actors).Nodup := once.filter _
  rw [once.erase_eq_filter, once'.erase_eq_filter, waiting, waiting, List.filter_filter,
    List.filter_filter]
  apply List.filter_congr
  intro actor _
  exact Bool.and_comm _ _

/-- Of one at most it is enough to know where he is. -/
theorem sublist_waiting_of_few {role : Actor → Role} {actors others : List Actor}
    (few : actors.length ≤ 1)
    (among : ∀ actor ∈ actors, role actor = .submits true → actor ∈ others) :
    (waiting role actors).Sublist others := by
  cases actors with
  | nil => exact List.nil_sublist _
  | cons actor rest =>
      have alone : rest = [] := by
        simpa using few
      subst alone
      by_cases waits : role actor = .submits true
      · have same : waiting role [actor] = [actor] :=
          List.filter_cons_of_pos (decide_eq_true waits)
        rw [same]
        exact List.singleton_sublist.mpr (among actor List.mem_cons_self waits)
      · have same : waiting role [actor] = [] :=
          List.filter_cons_of_neg (by rw [decide_eq_true_iff]; exact waits)
        rw [same]
        exact List.nil_sublist _

namespace Crowd

/-- The submissions that wait for a slot, in the order in which they began to. -/
def submitters (crowd : Crowd) : List Actor := waiting crowd.role crowd.queue.slots.order

/-- A submission that waits can act only when a slot has been granted to it, and then in its
turn. -/
structure Punctual (crowd : Crowd) : Prop where
  once : crowd.ready.Nodup
  patient : ∀ actor ∈ crowd.queue.slots.line, crowd.role actor = .submits true →
    actor ∉ crowd.ready
  inTurn : (waiting crowd.role crowd.queue.slots.granted).Sublist crowd.ready

/-- How the claims on the slots change by what one of the crowd does: some of those in line are
granted one, and he himself may come last. -/
structure Passes (queue : SubmissionQueue Actor Batch) (role : Actor → Role) (who : Actor)
    (woken : List Actor) (next : SubmissionQueue Actor Batch) (last served : List Actor) :
    Prop where
  granted : next.slots.granted = queue.slots.granted.erase who ++ served
  line : queue.slots.line.erase who ++ last = served ++ next.slots.line
  few : served.length ≤ 1
  other : who ∉ served
  wakes : ∀ actor ∈ served, actor ∈ woken
  only : ∀ actor ∈ woken, role actor = .submits true → actor ∈ served

section Acts

variable {queue next : SubmissionQueue Actor Batch} {role : Actor → Role}
  {ready woken : List Actor} {who : Actor} {earlier later : Role} {sitter : Option Actor}

/-- Whoever leaves the seat wakes no submission. -/
theorem Occupied.calm_release (occupied : Occupied ⟨queue, role, ready⟩ sitter)
    {place : SubmissionQueue.Place} {turn : Permits Actor} (here : role who = .consumes place)
    (gets : SubmissionQueue.Gets queue.turn who place turn) {actor : Actor}
    (awoken : actor ∈ (turn.release 1).1) : role actor ≠ .submits true := by
  rcases occupied.gets here gets with ⟨_, _, quits, _⟩
  have claims : actor ∈ turn.claimants :=
    List.mem_append_left _ (Permits.mem_line_of_release awoken)
  have stands : role actor = .consumes .line :=
    occupied.stands actor ((quits.claimants actor).mp claims).1
  rw [stands]
  exact nofun

/-- Whoever rouses the sitter wakes no submission. -/
theorem Occupied.calm_sleeper (occupied : Occupied ⟨queue, role, ready⟩ sitter) {actor : Actor}
    (sleeps : queue.sleeper = some actor) : role actor ≠ .submits true := by
  have sits : role actor = .consumes .seat :=
    (occupied.sits actor).mpr (occupied.asleep actor sleeps).1
  rw [sits]
  exact nofun

theorem sleeper_of_mem_rouseIfExhausted (isOpen : Bool) (slots : Permits Actor) {actor : Actor}
    (awoken : actor ∈ (SubmissionQueue.rouseIfExhausted { queue with isOpen, slots }).1) :
    queue.sleeper = some actor := by
  unfold SubmissionQueue.rouseIfExhausted at awoken
  split at awoken
  · cases awoken
  · exact Option.mem_toList.mp awoken

/-- A submission that stands in line for a slot has begun to wait. -/
theorem Reserved.waits_of_stands (reserved : Reserved ⟨queue, role, ready⟩) {begun : Bool}
    (here : role who = .submits begun) (stands : who ∈ queue.slots.line) :
    role who = .submits true := by
  have claims : (role who).claims = true :=
    (reserved.claims who).mp (List.mem_append_left _ stands)
  rw [here] at claims
  exact here.trans (congrArg Role.submits claims)

/-- Whoever gives up waiting for the seat wakes no submission. -/
theorem Occupied.calm_leave (occupied : Occupied ⟨queue, role, ready⟩ sitter)
    {turn : Permits Actor} (here : role who = .consumes .line)
    (looked : turn = queue.turn ∨ queue.turn.ask who = (false, turn)) {actor : Actor}
    (awoken : actor ∈ (turn.leave who).1) : role actor ≠ .submits true := by
  have stands := Permits.mem_line_of_leave awoken
  have consumes : role actor = .consumes .line := by
    by_cases own : actor = who
    · rw [own]
      exact here
    · rcases occupied.looked_once_more here looked with ⟨_, claimants, _, _⟩
      exact occupied.stands actor
        ((claimants actor own).mp (List.mem_append_left _ stands))
  rw [consumes]
  exact Role.consumes_ne_submits .line true

/-- Who leaves the slots to those who have claims on them serves nobody. -/
theorem passes_none {last : List Actor}
    (granted : next.slots.granted = queue.slots.granted.erase who)
    (line : queue.slots.line.erase who ++ last = next.slots.line)
    (quiet : ∀ actor ∈ woken, role actor ≠ .submits true) :
    Passes queue role who woken next last [] :=
  ⟨granted.trans (List.append_nil _).symm, line, Nat.zero_le 1, List.not_mem_nil, nofun,
    fun actor awoken waits => absurd waits (quiet actor awoken)⟩

/-- Who gives up a claim hands a slot that he has been granted to the next in line. -/
theorem withdraw_passes (orderly : queue.slots.Orderly)
    (quiet : ∀ actor, queue.sleeper = some actor → role actor ≠ .submits true) :
    Passes queue role who (queue.withdraw who).1 (queue.withdraw who).2 []
      (queue.slots.leave who).1 := by
  rcases SubmissionQueue.rouseIfExhausted_eq
    { queue with slots := (queue.slots.leave who).2 } with ⟨sleeper, same⟩
  have slots : (queue.withdraw who).2.slots = (queue.slots.leave who).2 :=
    congrArg SubmissionQueue.slots same
  refine ⟨?_, ?_, queue.slots.length_leave_le who, ?_, ?_, ?_⟩
  · rw [slots]
    unfold Permits.leave
    split
    · rfl
    · next ungranted => rw [List.erase_of_not_mem ungranted, List.append_nil]
  · rw [slots, List.append_nil]
    unfold Permits.leave
    split
    · next granted =>
      rw [List.erase_of_not_mem (orderly.unlined granted)]
      exact (List.take_append_drop 1 _).symm
    · rfl
  · intro own
    have stands := Permits.mem_line_of_leave own
    unfold Permits.leave at own
    split at own
    · next granted => exact orderly.unlined granted stands
    · cases own
  · exact fun actor served => List.mem_append_left _ served
  · intro actor awoken waits
    rcases List.mem_append.mp awoken with served | sleeps
    · exact served
    · exact absurd waits (quiet actor
        (sleeper_of_mem_rouseIfExhausted queue.isOpen (queue.slots.leave who).2 sleeps))

/-- A slot that is freed goes to the first in line. -/
theorem release_passes {others : List Actor} (unclaimed : who ∉ queue.slots.claimants)
    (slots : next.slots = (queue.slots.release 1).2)
    (quiet : ∀ actor ∈ others, role actor ≠ .submits true) :
    Passes queue role who ((queue.slots.release 1).1 ++ others) next []
      (queue.slots.release 1).1 := by
  rcases Permits.erase_stranger unclaimed with ⟨granted, line⟩
  refine ⟨?_, ?_, queue.slots.length_release_le 1, ?_, ?_, ?_⟩
  · rw [slots, granted]
    rfl
  · rw [slots, List.append_nil, line]
    exact (List.take_append_drop 1 _).symm
  · exact fun served => unclaimed (List.mem_append_left _ (Permits.mem_line_of_release served))
  · exact fun actor served => List.mem_append_left _ served
  · intro actor awoken waits
    rcases List.mem_append.mp awoken with served | other
    · exact served
    · exact absurd waits (quiet actor other)

/-- How the claims on the slots change by what somebody does. -/
theorem acts_passes (reserved : Reserved ⟨queue, role, ready⟩)
    (occupied : Occupied ⟨queue, role, ready⟩ sitter) (here : role who = earlier)
    (acts : Acts queue who earlier woken next later)
    (impatient : who ∈ queue.slots.line → role who ≠ .submits true) :
    ∃ served, Passes queue role who woken next (if later = .submits true then [who] else [])
      served := by
  have orderly := reserved.roomy.orderly
  have stranger (unclaimed : earlier.claims = false) : who ∉ queue.slots.claimants :=
    reserved.ungranted (by rw [here]; exact unclaimed)
  have quiet (actor : Actor) (sleeps : queue.sleeper = some actor) : role actor ≠ .submits true :=
    occupied.calm_sleeper sleeps
  have still (unclaimed : earlier.claims = false) (slots : next.slots = queue.slots)
      (quiet : ∀ actor ∈ woken, role actor ≠ .submits true) :
      ∃ served, Passes queue role who woken next [] served := by
    rcases Permits.erase_stranger (stranger unclaimed) with ⟨granted, line⟩
    refine ⟨[], passes_none ?_ ?_ quiet⟩
    · rw [slots, granted]
    · rw [slots, line, List.append_nil]
  cases acts with
  | idles => exact still rfl rfl nofun
  | refused => exact still rfl rfl nofun
  | closes =>
      rcases queue.close_eq with ⟨_, same⟩
      refine still rfl ?_ fun actor awoken => ?_
      · rw [same]
      · exact quiet actor (sleeper_of_mem_rouseIfExhausted false queue.slots awoken)
  | misses gets last => exact still rfl rfl fun _ => occupied.calm_release here gets
  | vacates gets => exact still rfl rfl fun _ => occupied.calm_release here gets
  | sleeps gets empty more => exact still rfl rfl nofun
  | stands asked => exact still rfl rfl nofun
  | leaves looked => exact still rfl rfl fun _ => occupied.calm_leave here looked
  | @accepted _ slots batch asked =>
      have calm : ∀ actor ∈ queue.sleeper.toList, role actor ≠ .submits true :=
        fun actor awoken => quiet actor (Option.mem_toList.mp awoken)
      have asks := queue.slots.ask_asks who
      rw [asked] at asks
      cases asks with
      | picksUp granted =>
          refine ⟨[], passes_none rfl ?_ calm⟩
          exact (List.append_nil _).trans (List.erase_of_not_mem (orderly.unlined granted))
      | obtains unclaimed room =>
          rcases Permits.erase_stranger unclaimed with ⟨granted, line⟩
          exact ⟨[], passes_none granted.symm ((List.append_nil _).trans line) calm⟩
  | @queues begun slots asked =>
      rw [if_pos rfl]
      have asks := queue.slots.ask_asks who
      rw [asked] at asks
      cases asks with
      | standsOn ungranted stands =>
          exact absurd (reserved.waits_of_stands here stands) (impatient stands)
      | queues unclaimed none =>
          rcases Permits.erase_stranger unclaimed with ⟨granted, line⟩
          exact ⟨[], passes_none granted.symm (congrArg (· ++ [who]) line) nofun⟩
  | withdraws => exact ⟨_, withdraw_passes orderly quiet⟩
  | takes gets front =>
      exact ⟨_, release_passes (stranger rfl) rfl fun _ => occupied.calm_release here gets⟩

/-- The claimants in order, when one of the crowd has acted. -/
theorem Passes.order {last served : List Actor}
    (passes : Passes queue role who woken next last served) (orderly : queue.slots.Orderly) :
    next.slots.order = queue.slots.order.erase who ++ last := by
  have erased : queue.slots.order.erase who =
      queue.slots.granted.erase who ++ queue.slots.line.erase who := by
    by_cases granted : who ∈ queue.slots.granted
    · rw [Permits.order, List.erase_append_left _ granted,
        List.erase_of_not_mem (orderly.unlined granted)]
    · rw [Permits.order, List.erase_append_right _ granted, List.erase_of_not_mem granted]
  rw [Permits.order, passes.granted, erased, List.append_assoc, List.append_assoc, ← passes.line]

/-- Whoever stands in line afterwards, or has been granted a slot meanwhile, stood there
before. -/
theorem Passes.mem_line {served : List Actor} {actor : Actor}
    (passes : Passes queue role who woken next (if later = .submits true then [who] else []) served)
    (member : actor ∈ served ∨ actor ∈ next.slots.line) (different : actor ≠ who) :
    actor ∈ queue.slots.line := by
  have among : actor ∈ queue.slots.line.erase who ++
      (if later = .submits true then [who] else []) := by
    rw [passes.line]
    exact List.mem_append.mpr member
  rcases List.mem_append.mp among with stood | last
  · exact List.mem_of_mem_erase stood
  · split at last
    · exact absurd (List.mem_singleton.mp last) different
    · cases last

/-- Nobody stands in line any more who has been granted a slot. -/
theorem Passes.not_both {served : List Actor} {actor : Actor}
    (passes : Passes queue role who woken next (if later = .submits true then [who] else []) served)
    (orderly : queue.slots.Orderly) (serves : actor ∈ served) : actor ∉ next.slots.line := by
  have once : (queue.slots.line.erase who).Nodup :=
    (List.nodup_append.mp orderly.distinct).1.erase who
  have distinct : (queue.slots.line.erase who ++
      (if later = .submits true then [who] else [])).Nodup := by
    split
    · refine (List.perm_append_singleton who _).nodup_iff.mpr (List.nodup_cons.mpr ⟨?_, once⟩)
      exact (List.nodup_append.mp orderly.distinct).1.not_mem_erase
    · rw [List.append_nil]
      exact once
  rw [passes.line] at distinct
  exact fun stands => (List.nodup_append.mp distinct).2.2 actor serves actor stands rfl

theorem Passes.ungranted {last served : List Actor}
    (passes : Passes queue role who woken next last served) (orderly : queue.slots.Orderly) :
    who ∉ next.slots.granted := by
  rw [passes.granted]
  intro member
  rcases List.mem_append.mp member with kept | own
  · exact (List.nodup_append.mp orderly.distinct).2.1.not_mem_erase kept
  · exact passes.other own

end Acts

/-- A submission that does not wait leaves the claims of those who do, and rouses nobody but the
sitter. -/
theorem trySubmit_claims (queue : SubmissionQueue Actor Batch) (batch : Batch) :
    (queue.trySubmit batch).2.2.slots.line = queue.slots.line ∧
      (queue.trySubmit batch).2.2.slots.granted = queue.slots.granted ∧
      ∀ actor ∈ (queue.trySubmit batch).2.1, queue.sleeper = some actor := by
  unfold SubmissionQueue.trySubmit
  split
  · exact ⟨rfl, rfl, nofun⟩
  · split
    · exact ⟨rfl, rfl, fun actor awoken => Option.mem_toList.mp awoken⟩
    · exact ⟨rfl, rfl, nofun⟩

namespace Punctual

variable {queue next : SubmissionQueue Actor Batch} {role : Actor → Role}
  {rest early woken late : List Actor} {who : Actor} {earlier later : Role}
  {sitter : Option Actor} {progress : Progress}

/-- Whoever can act does not wait in line for a slot. -/
theorem impatient (punctual : Punctual ⟨queue, role, who :: rest⟩)
    (stands : who ∈ queue.slots.line) : role who ≠ .submits true :=
  fun waits => punctual.patient who stands waits List.mem_cons_self

/-- Whoever can act and waits for a slot has been granted one, and is the first of those. -/
theorem first (punctual : Punctual ⟨queue, role, who :: rest⟩)
    (granted : who ∈ queue.slots.granted) (waits : role who = .submits true) :
    ∃ others, waiting role queue.slots.granted = who :: others := by
  have member : who ∈ waiting role queue.slots.granted := mem_waiting.mpr ⟨granted, waits⟩
  have absent : who ∉ rest := (List.nodup_cons.mp punctual.once).1
  rcases List.sublist_cons_iff.mp punctual.inTurn with elsewhere | ⟨others, same, _⟩
  · exact absurd (elsewhere.subset member) absent
  · exact ⟨others, same⟩

/-- The others who have been granted a slot stand behind in their order. -/
theorem inTurn_rest (punctual : Punctual ⟨queue, role, who :: rest⟩)
    (orderly : queue.slots.Orderly) :
    (waiting role (queue.slots.granted.erase who)).Sublist rest := by
  have shorter : (waiting role (queue.slots.granted.erase who)).Sublist (who :: rest) :=
    (List.erase_sublist.filter _).trans punctual.inTurn
  rcases List.sublist_cons_iff.mp shorter with elsewhere | ⟨others, same, _⟩
  · exact elsewhere
  · have own : who ∈ waiting role (queue.slots.granted.erase who) := by
      rw [same]
      exact List.mem_cons_self
    have once : queue.slots.granted.Nodup := (List.nodup_append.mp orderly.distinct).2.1
    exact absurd (mem_waiting.mp own).1 once.not_mem_erase

/-- Whatever somebody does, submissions are woken in the order in which they began to wait. -/
theorem acts (punctual : Punctual ⟨queue, role, who :: rest⟩)
    (reserved : Reserved ⟨queue, role, who :: rest⟩)
    (occupied : Occupied ⟨queue, role, who :: rest⟩ sitter) (here : role who = earlier)
    (acts : Acts queue who earlier woken next later)
    (calm : ∀ actor ∈ early ++ late, role actor ≠ .submits true)
    (stays : progress = .goesOn → later = .apart) :
    Punctual ⟨next, Function.update role who later,
      progress.left (lineUpAll (who :: rest) (early ++ woken ++ late))⟩ := by
  rcases acts_passes reserved occupied here acts punctual.impatient with ⟨served, passes⟩
  rcases lineUpAll_eq_append (who :: rest) (early ++ woken ++ late) with ⟨added, longer⟩
  have once := nodup_lineUpAll punctual.once (early ++ woken ++ late)
  have orderly := reserved.roomy.orderly
  -- Whoever waits and is woken has been granted a slot.
  have awoken {actor : Actor} (waits : role actor = .submits true)
      (woke : actor ∈ early ++ woken ++ late) : actor ∈ served := by
    rw [List.append_assoc, List.mem_append, List.mem_append] at woke
    rcases woke with first | second | third
    · exact absurd waits (calm actor (List.mem_append_left _ first))
    · exact passes.only actor second waits
    · exact absurd waits (calm actor (List.mem_append_right _ third))
  constructor
  · cases progress with
    | goesOn => exact once
    | rests => exact once.sublist (List.tail_sublist _)
  · intro actor stands waits present
    by_cases same : actor = who
    · subst same
      simp only [Function.update_self] at waits
      cases progress with
      | goesOn =>
          rw [stays rfl] at waits
          cases waits
      | rests =>
          rw [longer] at once
          simp only [Progress.left, longer] at present
          exact (List.nodup_cons.mp once).1 present
    · simp only [Function.update_of_ne same] at waits
      have stood := passes.mem_line (Or.inr stands) same
      rcases (mem_left progress same).mp present with already | woke
      · exact punctual.patient actor stood waits already
      · exact passes.not_both orderly (awoken waits woke) stands
  · have absent : who ∉ next.slots.granted := passes.ungranted orderly
    simp only [waiting_update_of_not_mem absent]
    rw [passes.granted, waiting_append]
    have last : (waiting role served).Sublist added := by
      apply sublist_waiting_of_few passes.few
      intro actor serves waits
      have different : actor ≠ who := fun same => passes.other (same ▸ serves)
      have stood := passes.mem_line (Or.inl serves) different
      have member : actor ∈ lineUpAll (who :: rest) (early ++ woken ++ late) :=
        mem_lineUpAll.mpr (Or.inr (List.mem_append_left _
          (List.mem_append_right _ (passes.wakes actor serves))))
      rw [longer] at member
      exact (List.mem_append.mp member).resolve_left (punctual.patient actor stood waits)
    have both := (punctual.inTurn_rest orderly).append last
    cases progress with
    | goesOn =>
        simp only [Progress.left, longer]
        exact both.cons who
    | rests =>
        simp only [Progress.left, longer]
        exact both

/-- Whatever somebody does, submissions are accepted in the order in which they began to
wait. -/
theorem accepts (punctual : Punctual ⟨queue, role, who :: rest⟩)
    (reserved : Reserved ⟨queue, role, who :: rest⟩)
    (occupied : Occupied ⟨queue, role, who :: rest⟩ sitter) (here : role who = earlier)
    (acts : Acts queue who earlier woken next later) :
    InTurn (waiting role queue.slots.order) (queue.submitted < next.submitted)
      (waiting (Function.update role who later) next.slots.order) := by
  rcases acts_passes reserved occupied here acts punctual.impatient with ⟨served, passes⟩
  have orderly := reserved.roomy.orderly
  have order := passes.order orderly
  have once := orderly.nodup_order
  -- Whoever does not begin to wait leaves the others in their order.
  have shorter (ends : later ≠ .submits true) :
      waiting (Function.update role who later) next.slots.order =
        (waiting role queue.slots.order).erase who := by
    rw [order, if_neg ends, List.append_nil, waiting_update_of_not_mem once.not_mem_erase,
      waiting_erase role once]
  have aside (before : earlier ≠ .submits true) (after : later ≠ .submits true) :
      InTurn (waiting role queue.slots.order) (queue.submitted < next.submitted)
        (waiting (Function.update role who later) next.slots.order) := by
    apply InTurn.unmoved
    rw [shorter after]
    apply List.erase_of_not_mem
    intro member
    exact before (here ▸ (mem_waiting.mp member).2)
  cases acts with
  | @accepted begun slots batch asked =>
      cases begun with
      | false => exact aside (by simp) (by simp)
      | true =>
          have waits : (role who).claims = true := by
            rw [here]
            rfl
          have claims : who ∈ queue.slots.claimants := (reserved.claims who).mpr waits
          have asks := queue.slots.ask_asks who
          rw [asked] at asks
          cases asks with
          | obtains stranger room => exact absurd claims stranger
          | picksUp granted =>
              rcases punctual.first granted here with ⟨others, same⟩
              have first : waiting role queue.slots.order =
                  who :: (others ++ waiting role queue.slots.line) := by
                rw [Permits.order, waiting_append, same]
                rfl
              have others : waiting (Function.update role who .apart)
                  (queue.slots.granted.erase who ++ queue.slots.line) =
                    others ++ waiting role queue.slots.line := by
                refine (shorter (Role.apart_ne_submits true)).trans ?_
                rw [first, List.erase_cons_head]
              exact .serves (first.trans (congrArg (who :: ·) others.symm)) (Nat.lt_succ_self _)
  | @queues begun slots asked =>
      have asks := queue.slots.ask_asks who
      rw [asked] at asks
      cases asks with
      | standsOn ungranted stands =>
          exact absurd (reserved.waits_of_stands here stands) (punctual.impatient stands)
      | queues unclaimed none =>
          have absent : who ∉ queue.slots.order := fun member =>
            unclaimed (Permits.mem_order.mp member)
          refine InTurn.comes (fun member => absent (mem_waiting.mp member).1) ?_
            (Nat.lt_irrefl _)
          rw [order, if_pos rfl, List.erase_of_not_mem absent, waiting_append,
            waiting_update_of_not_mem absent]
          refine congrArg (waiting role queue.slots.order ++ ·) ?_
          exact List.filter_cons_of_pos (by rw [Function.update_self, decide_eq_true_iff])
  | _ => exact aside (by simp) (by simp)

/-- The slots and the line after something that is no turn. -/
theorem around {ready : List Actor} (punctual : Punctual ⟨queue, role, ready⟩)
    (line : next.slots.line = queue.slots.line) (granted : next.slots.granted = queue.slots.granted)
    (calm : ∀ actor ∈ woken, role actor ≠ .submits true) :
    Punctual ⟨next, role, lineUpAll ready woken⟩ where
  once := nodup_lineUpAll punctual.once woken
  patient := by
    intro actor stands waits present
    simp only [line] at stands
    rcases mem_lineUpAll.mp present with already | woke
    · exact punctual.patient actor stands waits already
    · exact calm actor woke waits
  inTurn := by
    rcases lineUpAll_eq_append ready woken with ⟨added, longer⟩
    simp only [granted, longer]
    exact punctual.inTurn.trans (List.sublist_append_left _ _)

/-- Somebody turns to something else than waiting for a slot. -/
theorem turns {ready : List Actor} (punctual : Punctual ⟨queue, role, ready⟩)
    (ends : later ≠ .submits true) (woken : List Actor) (only : ∀ actor ∈ woken, actor = who) :
    Punctual ⟨queue, Function.update role who later, lineUpAll ready woken⟩ where
  once := nodup_lineUpAll punctual.once woken
  patient := by
    intro actor stands waits present
    by_cases same : actor = who
    · subst same
      simp only [Function.update_self] at waits
      exact ends waits
    · simp only [Function.update_of_ne same] at waits
      rcases mem_lineUpAll.mp present with already | woke
      · exact punctual.patient actor stands waits already
      · exact same (only actor woke)
  inTurn := by
    rcases lineUpAll_eq_append ready woken with ⟨added, longer⟩
    simp only [longer]
    exact ((sublist_waiting role ends _).trans punctual.inTurn).trans
      (List.sublist_append_left _ _)

/-- Whatever happens, submissions are accepted in the order in which they began to wait. -/
theorem step {before after : Crowd} (punctual : before.Punctual) (reserved : before.Reserved)
    (occupied : before.Occupied sitter) (step : before.Step after) :
    after.Punctual ∧ InTurn before.submitters (before.queue.submitted < after.queue.submitted)
      after.submitters := by
  cases step with
  | stirs calm => exact ⟨punctual.around rfl rfl calm, .unmoved rfl⟩
  | offers batch =>
      rcases trySubmit_claims before.queue batch with ⟨line, granted, sleeps⟩
      refine ⟨punctual.around line granted fun actor awoken => ?_, .unmoved ?_⟩
      · exact occupied.calm_sleeper (sleeps actor awoken)
      · simp only [submitters, Permits.order, line, granted]
  | closes =>
      rcases before.queue.close_eq with ⟨_, same⟩
      have slots : before.queue.close.2.slots = before.queue.slots := by rw [same]
      refine ⟨punctual.around ?_ ?_ fun actor awoken => ?_, .unmoved ?_⟩
      · rw [slots]
      · rw [slots]
      · exact occupied.calm_sleeper
          (sleeper_of_mem_rouseIfExhausted false before.queue.slots awoken)
      · simp only [submitters, slots]
  | @comes who role fresh new =>
      have ends : role ≠ .submits true := by
        rcases new with same | same | same <;> simp [same]
      refine ⟨punctual.turns ends [who] fun _ => List.mem_singleton.mp, .unmoved ?_⟩
      refine waiting_update ?_ ends _
      rw [fresh]
      exact Role.apart_ne_submits true
  | dooms who =>
      have ends := (before.role who).doomed_ne_submits true
      exact ⟨punctual.turns ends [who] fun _ => List.mem_singleton.mp,
        .unserved (sublist_waiting _ ends _) (Nat.lt_irrefl _)⟩
  | @approaches who present apart =>
      have ends := Role.consumes_ne_submits .line true
      refine ⟨punctual.turns ends [] (fun _ => (absurd · List.not_mem_nil)),
        .unmoved (waiting_update ?_ ends _)⟩
      rw [apart]
      exact Role.apart_ne_submits true
  | turn line here acts calm stays =>
      cases before with
      | mk queue role ready =>
          cases line
          exact ⟨punctual.acts reserved occupied here acts calm stays,
            punctual.accepts reserved occupied here acts⟩

end Punctual
end Crowd
end FailureDispatch

import FailureDispatch.Proofs.Queue.Slots

/-!
# The order of those who wait

Permits are granted in the order in which those who wait have come.  Granting
one moves the first in line behind those who have been granted one before, so
the claimants all in all, the granted ones first, keep their order until they
give up their claims.

The seat in front of the buffer is a single permit, but whoever sits in it has
no claim on it any more.  `Seating` accounts for the sitter apart from the
claimants: he came before all of them.
-/

namespace FailureDispatch

namespace Permits

variable {ι : Type}

/-- Those who have a claim, in the order in which they have come. -/
def order (permits : Permits ι) : List ι := permits.granted ++ permits.line

theorem mem_order {permits : Permits ι} {who : ι} :
    who ∈ permits.order ↔ who ∈ permits.claimants := by
  rw [order, claimants, List.mem_append, List.mem_append, or_comm]

theorem Orderly.nodup_order {permits : Permits ι} (orderly : permits.Orderly) :
    permits.order.Nodup :=
  List.perm_append_comm.nodup_iff.mp orderly.distinct

/-- Whoever has been granted a permit does not stand in line any more. -/
theorem Orderly.unlined {permits : Permits ι} (orderly : permits.Orderly) {who : ι}
    (granted : who ∈ permits.granted) : who ∉ permits.line :=
  fun stands => (List.nodup_append.mp orderly.distinct).2.2 who stands who granted rfl

/-- Granting permits does not change who came before whom. -/
theorem order_release (permits : Permits ι) (count : Nat) :
    (permits.release count).2.order = permits.order := by
  rw [release, order, order, List.append_assoc, List.take_append_drop]

theorem mem_line_of_release {permits : Permits ι} {count : Nat} {who : ι}
    (served : who ∈ (permits.release count).1) : who ∈ permits.line :=
  List.mem_of_mem_take served

section Asking

variable [DecidableEq ι]

/-- Only those who stand in line are granted what somebody leaves. -/
theorem mem_line_of_leave {permits : Permits ι} {who other : ι}
    (served : other ∈ (permits.leave who).1) : other ∈ permits.line := by
  unfold leave at served
  split at served
  · exact mem_line_of_release served
  · cases served

/-- Who has no claim can be left out without loss. -/
theorem erase_stranger {permits : Permits ι} {who : ι} (stranger : who ∉ permits.claimants) :
    permits.granted.erase who = permits.granted ∧ permits.line.erase who = permits.line :=
  ⟨List.erase_of_not_mem fun granted => stranger (List.mem_append_right _ granted),
    List.erase_of_not_mem fun stands => stranger (List.mem_append_left _ stands)⟩

/-- What asking for a permit comes to. -/
inductive Asks (permits : Permits ι) (who : ι) : Bool × Permits ι → Prop where
  | picksUp (granted : who ∈ permits.granted) :
      Asks permits who (true, { permits with granted := permits.granted.erase who })
  | obtains (stranger : who ∉ permits.claimants) (room : 0 < permits.free) :
      Asks permits who (true, { permits with free := permits.free - 1 })
  | standsOn (ungranted : who ∉ permits.granted) (stands : who ∈ permits.line) :
      Asks permits who (false, permits)
  | queues (stranger : who ∉ permits.claimants) (none : permits.free = 0) :
      Asks permits who (false, { permits with line := permits.line ++ [who] })

theorem ask_asks (permits : Permits ι) (who : ι) : Asks permits who (permits.ask who) := by
  have stranger (ungranted : who ∉ permits.granted) (absent : who ∉ permits.line) :
      who ∉ permits.claimants := by
    intro claims
    rcases List.mem_append.mp claims with stands | granted
    · exact absent stands
    · exact ungranted granted
  unfold ask
  split
  · next granted => exact .picksUp granted
  · next ungranted =>
    split
    · next stands => exact .standsOn ungranted stands
    · next absent =>
      split
      · next room => exact .obtains (stranger ungranted absent) room
      · next full => exact .queues (stranger ungranted absent) (Nat.eq_zero_of_not_pos full)

/-- Who is told to wait stands last, or where he stood before. -/
theorem order_of_queues {permits next : Permits ι} {who : ι}
    (asked : permits.ask who = (false, next)) :
    next.order = permits.order ∧ who ∈ permits.order ∨
      next.order = permits.order ++ [who] ∧ who ∉ permits.order := by
  have asks := ask_asks permits who
  rw [asked] at asks
  cases asks with
  | standsOn _ stands => exact Or.inl ⟨rfl, List.mem_append_right _ stands⟩
  | queues stranger _ =>
      exact Or.inr ⟨(List.append_assoc _ _ _).symm, fun stands => stranger (mem_order.mp stands)⟩

/-- Who stops waiting leaves the others in their order. -/
theorem order_leave (permits : Permits ι) (who : ι) :
    (permits.leave who).2.order = permits.order.erase who := by
  unfold leave
  split
  · next granted => rw [order_release, order, order, List.erase_append_left _ granted]
  · next ungranted => rw [order, order, List.erase_append_right _ ungranted]

end Asking

/-! ## The seat -/

/-- There is one seat: free, granted to somebody, or taken by somebody who has
no claim on it any more. -/
structure Seating (turn : Permits ι) (sitter : Option ι) : Prop where
  orderly : turn.Orderly
  single : turn.supply + sitter.toList.length = 1
  apart : ∀ who, sitter = some who → who ∉ turn.claimants

/-- Those who have come for the seat, in order. -/
def attendance (turn : Permits ι) (sitter : Option ι) : List ι := sitter.toList ++ turn.order

namespace Seating

variable {turn next : Permits ι} {sitter : Option ι} {who : ι}

theorem nodup (seating : Seating turn sitter) : (turn.attendance sitter).Nodup := by
  cases sitter with
  | none => exact seating.orderly.nodup_order
  | some who =>
      refine List.nodup_cons.mpr ⟨?_, seating.orderly.nodup_order⟩
      exact fun claims => seating.apart who rfl (mem_order.mp claims)

/-- The seat is left to the first of those who wait for it. -/
theorem vacates (seating : Seating turn (some who)) :
    Seating (turn.release 1).2 none ∧
      turn.attendance (some who) = who :: (turn.release 1).2.attendance none := by
  have single := seating.single
  simp only [Option.toList_some, List.length_singleton] at single
  refine ⟨⟨(release_serves seating.orderly).orderly, ?_, ?_⟩, ?_⟩
  · rw [supply_release]
    exact single
  · intro other impossible
    cases impossible
  · exact congrArg (who :: ·) (order_release turn 1).symm

variable [DecidableEq ι]

/-- Who obtains the seat finds it unoccupied, and nobody came before him. -/
theorem obtains (seating : Seating turn sitter) (asked : turn.ask who = (true, next)) :
    sitter = none ∧ Seating next (some who) ∧ turn.Quits next who [] ∧
      (turn.attendance none = next.attendance (some who) ∨
        turn.attendance none = [] ∧ next.attendance (some who) = [who]) := by
  rcases ask_quits seating.orderly asked with ⟨quits, spent⟩
  have single := seating.single
  have nobody : sitter = none := by
    cases sitter with
    | none => rfl
    | some other =>
        simp only [Option.toList_some, List.length_singleton] at single
        omega
  subst nobody
  simp only [Option.toList_none, List.length_nil, Nat.add_zero] at single
  have once : next.supply = 0 := by omega
  have ungranted : next.granted = [] := by
    apply List.eq_nil_of_length_eq_zero
    unfold supply at once
    omega
  refine ⟨rfl, ⟨quits.orderly, ?_, ?_⟩, quits, ?_⟩
  · rw [once]
    rfl
  · intro other same claims
    cases same
    exact ((quits.claimants who).mp claims).2 rfl
  · have asks := ask_asks turn who
    rw [asked] at asks
    cases asks with
    | picksUp granted =>
        have alone : turn.granted = [who] := by
          have fewer := List.length_erase_of_mem granted
          rw [show turn.granted.erase who = [] from ungranted, List.length_nil] at fewer
          have positive := List.length_pos_of_mem granted
          rcases List.length_eq_one_iff.mp (show turn.granted.length = 1 by omega) with ⟨only, same⟩
          rw [same] at granted ⊢
          rw [List.mem_singleton.mp granted]
        refine Or.inl ?_
        simp only [attendance, order, alone, List.erase_cons_head, Option.toList_none,
          Option.toList_some, List.nil_append]
    | obtains stranger room =>
        have noLine : turn.line = [] := by
          apply Classical.byContradiction
          intro waiting
          rw [seating.orderly.served waiting] at room
          exact absurd room (Nat.lt_irrefl 0)
        have noGrant : turn.granted = [] := ungranted
        refine Or.inr ⟨?_, ?_⟩ <;>
          simp only [attendance, order, noLine, noGrant, Option.toList_none, Option.toList_some,
            List.append_nil]

/-- Who is told to wait for the seat has come last. -/
theorem queues (seating : Seating turn sitter) (asked : turn.ask who = (false, next))
    (away : sitter ≠ some who) :
    Seating next sitter ∧ turn.Queues next who ∧
      (next.attendance sitter = turn.attendance sitter ∨
        next.attendance sitter = turn.attendance sitter ++ [who] ∧
          who ∉ turn.attendance sitter) := by
  rcases ask_queues seating.orderly asked with ⟨queues, kept⟩
  refine ⟨⟨queues.orderly, ?_, ?_⟩, queues, ?_⟩
  · rw [kept]
    exact seating.single
  · intro other sits claims
    rcases (queues.claimants other).mp claims with earlier | same
    · exact seating.apart other sits earlier
    · rw [same] at sits
      exact away sits
  · rcases order_of_queues asked with ⟨same, _⟩ | ⟨longer, absent⟩
    · exact Or.inl (congrArg (sitter.toList ++ ·) same)
    · refine Or.inr ⟨?_, ?_⟩
      · rw [attendance, attendance, longer, List.append_assoc]
      · intro attends
        rcases List.mem_append.mp attends with sits | stands
        · exact away (Option.mem_toList.mp sits)
        · exact absent stands

/-- Who stops waiting for the seat leaves the others in their order. -/
theorem leaves (seating : Seating turn sitter) (away : sitter ≠ some who) :
    Seating (turn.leave who).2 sitter ∧ turn.Quits (turn.leave who).2 who (turn.leave who).1 ∧
      (turn.leave who).2.attendance sitter = (turn.attendance sitter).erase who := by
  rcases leave_quits seating.orderly who with ⟨quits, kept⟩
  refine ⟨⟨quits.orderly, ?_, ?_⟩, quits, ?_⟩
  · rw [kept]
    exact seating.single
  · intro other sits claims
    exact seating.apart other sits ((quits.claimants other).mp claims).1
  · have elsewhere : who ∉ sitter.toList := fun sits => away (Option.mem_toList.mp sits)
    rw [attendance, attendance, order_leave, List.erase_append_right _ elsewhere]

end Seating
end Permits

/-! ## A look at the queue -/

namespace SubmissionQueue

variable {ι α : Type} [DecidableEq ι]

/-- A consumer has the seat, from where he waited for it or for an item. -/
inductive Gets (turn : Permits ι) (who : ι) : Place → Permits ι → Prop where
  | kept : Gets turn who .seat turn
  | obtained {next} (asked : turn.ask who = (true, next)) : Gets turn who .line next

/-- What a look at the queue comes to. -/
inductive Looks (queue : SubmissionQueue ι α) (who : ι) :
    Place → Catch α × List ι × SubmissionQueue ι α → Prop where
  | takes {place turn item rest} (gets : Gets queue.turn who place turn)
      (front : queue.buffer = item :: rest) :
      Looks queue who place
        (.item item, (queue.slots.release 1).1 ++ (turn.release 1).1,
          { queue with
            buffer := rest
            slots := (queue.slots.release 1).2
            turn := (turn.release 1).2
            consumed := queue.consumed + 1 })
  | exhausted {place turn} (gets : Gets queue.turn who place turn) (empty : queue.buffer = [])
      (last : queue.mayReceive = false) :
      Looks queue who place
        (.exhausted, (turn.release 1).1, { queue with turn := (turn.release 1).2 })
  | sleeps {place turn} (gets : Gets queue.turn who place turn) (empty : queue.buffer = [])
      (more : queue.mayReceive = true) :
      Looks queue who place (.waiting .seat, [], { queue with turn, sleeper := some who })
  | queues {turn} (asked : queue.turn.ask who = (false, turn)) :
      Looks queue who .line (.waiting .line, [], { queue with turn })

theorem receive_looks {queue : SubmissionQueue ι α} {who : ι} {place : Place}
    {turn : Permits ι} (gets : Gets queue.turn who place turn) :
    Looks queue who place (receive { queue with turn } who) := by
  unfold receive
  split
  · next front => exact .takes gets front
  · next empty =>
    split
    · next more => exact .sleeps gets empty more
    · next last => exact .exhausted gets empty (Bool.eq_false_iff.mpr last)

theorem seek_looks (queue : SubmissionQueue ι α) (who : ι) (place : Place) :
    Looks queue who place (queue.seek who place) := by
  cases place with
  | seat => exact receive_looks .kept
  | line =>
      simp only [seek]
      split
      · next asked => exact receive_looks (.obtained asked)
      · next asked => exact .queues asked

end SubmissionQueue
end FailureDispatch

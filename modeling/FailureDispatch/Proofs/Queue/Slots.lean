import FailureDispatch.Proofs.Queue.Balance

/-!
# Slots and who claims them

A slot of a queue is free, or granted to a submitter who has not used it yet,
or taken by an item of the buffer, and there are as many slots as the capacity
says.  Nobody stands in line while a slot is free.  So a queue with an empty
buffer and without grants has nobody in line.

Three things can happen to the claims on the slots: somebody gives up his
claim, because he has used it or has withdrawn it; somebody new stands in line;
or a released slot is granted to the first in line.
-/

namespace FailureDispatch

namespace Permits

variable {ι : Type}

/-- The permits that are free or granted. -/
def supply (permits : Permits ι) : Nat := permits.free + permits.granted.length

/-- Those who wait for a permit and those who have been granted one. -/
def claimants (permits : Permits ι) : List ι := permits.line ++ permits.granted

structure Orderly (permits : Permits ι) : Prop where
  served : permits.line ≠ [] → permits.free = 0
  distinct : permits.claimants.Nodup

/-- The claim of somebody is given up. -/
structure Quits (permits next : Permits ι) (who : ι) (woken : List ι) : Prop where
  orderly : next.Orderly
  claimants : ∀ other, other ∈ next.claimants ↔ other ∈ permits.claimants ∧ other ≠ who
  granted : ∀ other ∈ next.granted, (other ∈ permits.granted ∧ other ≠ who) ∨ other ∈ woken

/-- Somebody stands in line. -/
structure Queues (permits next : Permits ι) (who : ι) : Prop where
  orderly : next.Orderly
  claimants : ∀ other, other ∈ next.claimants ↔ other ∈ permits.claimants ∨ other = who
  granted : next.granted = permits.granted
  waits : who ∉ next.granted

/-- A permit may be granted, and no claim is given up. -/
structure Serves (permits next : Permits ι) (woken : List ι) : Prop where
  orderly : next.Orderly
  claimants : ∀ other, other ∈ next.claimants ↔ other ∈ permits.claimants
  granted : ∀ other ∈ next.granted, other ∈ permits.granted ∨ other ∈ woken

theorem Serves.refl {permits : Permits ι} (orderly : permits.Orderly) :
    Serves permits permits [] :=
  ⟨orderly, fun _ => Iff.rfl, fun _ => Or.inl⟩

/-- A permit that is free while nobody waits may go. -/
theorem Serves.spend {permits : Permits ι} (orderly : permits.Orderly) (room : 0 < permits.free) :
    Serves permits { permits with free := permits.free - 1 } [] := by
  refine ⟨⟨?_, orderly.distinct⟩, fun _ => Iff.rfl, fun _ => Or.inl⟩
  intro waiting
  have none := orderly.served waiting
  rw [none] at room
  exact absurd room (Nat.lt_irrefl 0)

/-- A claim that is given up may be passed on. -/
theorem Quits.then_serves {permits between next : Permits ι} {who : ι} {woken : List ι}
    (quits : Quits permits between who []) (serves : Serves between next woken) :
    Quits permits next who woken := by
  refine ⟨serves.orderly, ?_, ?_⟩
  · intro other
    exact (serves.claimants other).trans (quits.claimants other)
  · intro other member
    rcases serves.granted other member with earlier | awoken
    · rcases quits.granted other earlier with kept | impossible
      · exact Or.inl kept
      · cases impossible
    · exact Or.inr awoken

theorem supply_release (permits : Permits ι) :
    (permits.release 1).2.supply = permits.supply + 1 := by
  cases line : permits.line with
  | nil =>
      simp only [release, supply, line, List.take_nil, List.length_nil, List.append_nil]
      omega
  | cons first rest =>
      simp only [release, supply, line, List.take_succ_cons, List.take_zero, List.length_append,
        List.length_cons, List.length_nil]
      omega

/-- A released permit goes to the first in line. -/
theorem release_serves {permits : Permits ι} (orderly : permits.Orderly) :
    Serves permits (permits.release 1).2 (permits.release 1).1 := by
  have distinct := orderly.distinct
  cases line : permits.line with
  | nil =>
      simp only [claimants, line, List.nil_append] at distinct
      simp only [release, line, List.take_nil, List.drop_nil, List.append_nil]
      refine ⟨⟨fun waiting => absurd rfl waiting, distinct⟩, ?_, fun _ => Or.inl⟩
      intro other
      simp only [claimants, line]
  | cons first rest =>
      have none : permits.free = 0 := orderly.served (by rw [line]; exact List.cons_ne_nil _ _)
      simp only [claimants, line] at distinct
      have moved : (first :: rest ++ permits.granted).Perm (rest ++ (permits.granted ++ [first])) := by
        rw [← List.append_assoc]
        exact (List.perm_append_singleton first (rest ++ permits.granted)).symm
      simp only [release, line, List.take_succ_cons, List.take_zero, List.drop_succ_cons,
        List.drop_zero]
      refine ⟨⟨?_, moved.nodup_iff.mp distinct⟩, ?_, ?_⟩
      · intro waiting
        rw [none]
        rfl
      · intro other
        simp only [claimants, line]
        exact moved.symm.mem_iff
      · intro other member
        exact List.mem_append.mp member

section Claims

variable [DecidableEq ι]

/-- Using up a grant, or handing it over. -/
theorem erase_granted {permits : Permits ι} {who : ι} (orderly : permits.Orderly)
    (granted : who ∈ permits.granted) :
    Quits permits { permits with granted := permits.granted.erase who } who [] := by
  have distinct := orderly.distinct
  rcases List.nodup_append.mp distinct with ⟨_, once, apart⟩
  have disjoint : who ∉ permits.line := fun waiting => apart who waiting who granted rfl
  refine ⟨⟨orderly.served, ?_⟩, ?_, ?_⟩
  · exact distinct.sublist (List.Sublist.append (List.Sublist.refl _) List.erase_sublist)
  · intro other
    simp only [claimants, List.mem_append, once.mem_erase_iff]
    constructor
    · rintro (waiting | ⟨different, present⟩)
      · exact ⟨Or.inl waiting, fun same => disjoint (same ▸ waiting)⟩
      · exact ⟨Or.inr present, different⟩
    · rintro ⟨waiting | present, different⟩
      · exact Or.inl waiting
      · exact Or.inr ⟨different, present⟩
  · intro other member
    have kept := once.mem_erase_iff.mp member
    exact Or.inl ⟨kept.2, kept.1⟩

/-- Leaving the line. -/
theorem erase_line {permits : Permits ι} {who : ι} (orderly : permits.Orderly)
    (ungranted : who ∉ permits.granted) :
    Quits permits { permits with line := permits.line.erase who } who [] := by
  have distinct := orderly.distinct
  have once : permits.line.Nodup := (List.nodup_append.mp distinct).1
  refine ⟨⟨?_, ?_⟩, ?_, ?_⟩
  · intro waiting
    apply orderly.served
    intro empty
    rw [empty] at waiting
    exact waiting rfl
  · exact distinct.sublist (List.Sublist.append List.erase_sublist (List.Sublist.refl _))
  · intro other
    simp only [claimants, List.mem_append, once.mem_erase_iff]
    constructor
    · rintro (⟨different, waiting⟩ | present)
      · exact ⟨Or.inl waiting, different⟩
      · exact ⟨Or.inr present, fun same => ungranted (same ▸ present)⟩
    · rintro ⟨waiting | present, different⟩
      · exact Or.inl ⟨different, waiting⟩
      · exact Or.inr present
  · intro other member
    exact Or.inl ⟨member, fun same => ungranted (same ▸ member)⟩

theorem supply_erase {permits : Permits ι} {who : ι} (granted : who ∈ permits.granted) :
    supply { permits with granted := permits.granted.erase who } + 1 = permits.supply := by
  have positive := List.length_pos_of_mem granted
  simp only [supply, List.length_erase_of_mem granted]
  omega

/-- Who obtains a permit has no claim any more. -/
theorem ask_quits {permits next : Permits ι} {who : ι} (orderly : permits.Orderly)
    (asked : permits.ask who = (true, next)) :
    Quits permits next who [] ∧ next.supply + 1 = permits.supply := by
  unfold ask at asked
  split at asked
  · next granted =>
    cases asked
    exact ⟨erase_granted orderly granted, supply_erase granted⟩
  · next ungranted =>
    split at asked
    · cases asked
    · next absent =>
      split at asked
      · next room =>
        cases asked
        have spent := Serves.spend orderly room
        have stranger {other : ι} (claims : other ∈ permits.claimants) : other ≠ who := by
          intro same
          rw [same] at claims
          rcases List.mem_append.mp claims with waiting | present
          · exact absent waiting
          · exact ungranted present
        refine ⟨⟨spent.orderly, ?_, ?_⟩, ?_⟩
        · intro other
          exact ⟨fun claims => ⟨claims, stranger claims⟩, fun kept => kept.1⟩
        · intro other member
          exact Or.inl ⟨member, fun same => ungranted (same ▸ member)⟩
        · simp only [supply]
          omega
      · cases asked

/-- Who obtains none stands in line. -/
theorem ask_queues {permits next : Permits ι} {who : ι} (orderly : permits.Orderly)
    (asked : permits.ask who = (false, next)) :
    Queues permits next who ∧ next.supply = permits.supply := by
  unfold ask at asked
  split at asked
  · cases asked
  · next ungranted =>
    split at asked
    · next present =>
      cases asked
      refine ⟨⟨orderly, ?_, rfl, ungranted⟩, rfl⟩
      intro other
      constructor
      · exact Or.inl
      · rintro (claims | same)
        · exact claims
        · rw [same]
          exact List.mem_append_left _ present
    · next absent =>
      split at asked
      · cases asked
      · next full =>
        cases asked
        have none : permits.free = 0 := Nat.eq_zero_of_not_pos full
        have moved : (permits.line ++ [who] ++ permits.granted).Perm (who :: permits.claimants) :=
          (List.perm_append_singleton who permits.line).append_right _
        refine ⟨⟨⟨fun _ => none, ?_⟩, ?_, rfl, ungranted⟩, rfl⟩
        · apply moved.nodup_iff.mpr
          refine List.nodup_cons.mpr ⟨?_, orderly.distinct⟩
          intro claims
          rcases List.mem_append.mp claims with waiting | present
          · exact absent waiting
          · exact ungranted present
        · intro other
          refine moved.mem_iff.trans ?_
          rw [List.mem_cons, or_comm]

/-- Who stops waiting passes on what was granted to him. -/
theorem leave_quits {permits : Permits ι} (orderly : permits.Orderly) (who : ι) :
    Quits permits (permits.leave who).2 who (permits.leave who).1 ∧
      (permits.leave who).2.supply = permits.supply := by
  by_cases granted : who ∈ permits.granted
  · simp only [leave, if_pos granted]
    have quits := erase_granted orderly granted
    refine ⟨quits.then_serves (release_serves quits.orderly), ?_⟩
    rw [supply_release]
    exact supply_erase granted
  · simp only [leave, if_neg granted]
    exact ⟨erase_line orderly granted, rfl⟩

end Claims

end Permits

namespace SubmissionQueue

variable {ι α : Type}

/-- Every slot is free, granted or taken, and there is at least one. -/
structure Roomy (queue : SubmissionQueue ι α) : Prop where
  positive : 0 < queue.capacity
  measured : queue.slots.supply + queue.buffer.length = queue.capacity
  orderly : queue.slots.Orderly

theorem roomy_empty (capacity : Nat) : Roomy (empty capacity : SubmissionQueue ι α) where
  positive := Nat.lt_of_lt_of_le Nat.one_pos (Nat.le_max_right capacity 1)
  measured := rfl
  orderly := ⟨fun waiting => absurd rfl waiting, List.nodup_nil⟩

namespace Roomy

variable {queue next : SubmissionQueue ι α}

theorem of_same (roomy : queue.Roomy) (capacity : next.capacity = queue.capacity)
    (buffer : next.buffer = queue.buffer) (slots : next.slots = queue.slots) : next.Roomy where
  positive := by rw [capacity]; exact roomy.positive
  measured := by rw [capacity, buffer, slots]; exact roomy.measured
  orderly := by rw [slots]; exact roomy.orderly

/-- Nobody stands in line at an empty buffer, unless a slot has been granted. -/
theorem isQuiet (roomy : queue.Roomy) (empty : queue.buffer = [])
    (ungranted : queue.slots.granted = []) : queue.slots.isQuiet = true := by
  have measured := roomy.measured
  rw [Permits.supply, empty, ungranted, List.length_nil, List.length_nil] at measured
  have free : queue.slots.free ≠ 0 := by
    rw [show queue.slots.free = queue.capacity from measured]
    exact Nat.ne_of_gt roomy.positive
  cases line : queue.slots.line with
  | nil =>
      rw [Permits.isQuiet, line, ungranted]
      rfl
  | cons first rest =>
      have waiting : queue.slots.line ≠ [] := by
        rw [line]
        exact List.cons_ne_nil _ _
      exact absurd (roomy.orderly.served waiting) free

end Roomy

theorem isQuiet_iff {permits : Permits ι} :
    permits.isQuiet = true ↔ permits.claimants = [] := by
  simp only [Permits.isQuiet, Permits.claimants, Bool.and_eq_true, List.isEmpty_iff,
    List.append_eq_nil_iff]

/-- An item in the buffer has used up a slot. -/
theorem Roomy.push {queue : SubmissionQueue ι α} {slots : Permits ι} (roomy : queue.Roomy)
    (orderly : slots.Orderly) (spent : slots.supply + 1 = queue.slots.supply) (item : α) :
    Roomy (SubmissionQueue.push { queue with slots } item).2 where
  positive := roomy.positive
  measured := by
    have measured := roomy.measured
    simp only [SubmissionQueue.push, rouse, List.length_append, List.length_cons, List.length_nil]
    omega
  orderly := orderly

theorem trySubmit_serves {queue : SubmissionQueue ι α} (roomy : queue.Roomy) (item : α) :
    (queue.trySubmit item).2.2.Roomy ∧
      queue.slots.Serves (queue.trySubmit item).2.2.slots [] := by
  have refused : queue.refuse.Roomy ∧ queue.slots.Serves queue.refuse.slots [] :=
    ⟨roomy.of_same rfl rfl rfl, .refl roomy.orderly⟩
  unfold trySubmit
  split
  · exact refused
  · split
    · next room =>
      have serves := Permits.Serves.spend roomy.orderly room
      have spent : Permits.supply { queue.slots with free := queue.slots.free - 1 } + 1 =
          queue.slots.supply := by
        simp only [Permits.supply]
        omega
      exact ⟨roomy.push serves.orderly spent item, serves⟩
    · exact refused

section Waiting

variable [DecidableEq ι]

/-- What a submission in progress does to the claims. -/
inductive Claims (queue : SubmissionQueue ι α) (who : ι) :
    Submission × List ι × SubmissionQueue ι α → Prop where
  | accepted {woken next} (roomy : next.Roomy) (quits : queue.slots.Quits next.slots who []) :
      Claims queue who (.accepted, woken, next)
  | refused {error next} (roomy : next.Roomy) (same : next.slots = queue.slots) :
      Claims queue who (.refused error, [], next)
  | waiting {next} (roomy : next.Roomy) (queues : queue.slots.Queues next.slots who) :
      Claims queue who (.waiting, [], next)

theorem resume_claims {queue : SubmissionQueue ι α} (roomy : queue.Roomy) (who : ι) (item : α) :
    Claims queue who (queue.resume who item) := by
  unfold resume
  split
  · next slots asked =>
    rcases Permits.ask_quits roomy.orderly asked with ⟨quits, spent⟩
    exact .accepted (roomy.push quits.orderly spent item) quits
  · next slots asked =>
    rcases Permits.ask_queues roomy.orderly asked with ⟨queues, kept⟩
    refine .waiting ⟨roomy.positive, ?_, queues.orderly⟩ queues
    rw [kept]
    exact roomy.measured

theorem submit_claims {queue : SubmissionQueue ι α} (roomy : queue.Roomy) (who : ι) (item : α) :
    Claims queue who (queue.submit who item) := by
  unfold submit
  split
  · exact resume_claims roomy who item
  · exact .refused (roomy.of_same rfl rfl rfl) rfl

theorem withdraw_quits {queue : SubmissionQueue ι α} (roomy : queue.Roomy) (who : ι) :
    (queue.withdraw who).2.Roomy ∧
      ∃ roused granted, (queue.withdraw who).1 = granted ++ roused ∧
        queue.slots.Quits (queue.withdraw who).2.slots who granted := by
  rcases Permits.leave_quits roomy.orderly who with ⟨quits, kept⟩
  rcases rouseIfExhausted_eq { queue with slots := (queue.slots.leave who).2 } with
    ⟨sleeper, same⟩
  have left : (queue.withdraw who).2 =
      { queue with slots := (queue.slots.leave who).2, sleeper } := same
  rw [left]
  refine ⟨⟨roomy.positive, ?_, quits.orderly⟩, _, _, rfl, quits⟩
  rw [kept]
  exact roomy.measured

end Waiting

end SubmissionQueue
end FailureDispatch

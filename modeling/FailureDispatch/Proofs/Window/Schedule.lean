import FailureDispatch.Queue.Basic
import Mathlib.Data.List.Basic

/-!
# What a limited wait brings

A drain waits for one more batch until its window has passed, and begins to wait anew
whenever it is through with one.  What it brings follows from the times at which the
batches arrive and from how long each of them takes: `drainEnds` computes when the
drain is through with each batch, until one comes too late.

`Drained` tells the same of a drain that is under way, without computing anything: it
lists when the drain began with each batch and when it was through, and what has
arrived since.  A batch that arrives at the very end of the window may be found or
missed.  Where none does, the two agree (`Drained.ends_eq`).
-/

namespace FailureDispatch

/-- A batch that a drain may find: when it arrives, and how long it takes. -/
structure Arrival where
  time : Nat
  duration : Nat
  deriving DecidableEq, Repr

/-- When a drain is through with each of the batches that it finds, if it is free from the
given time on. -/
def drainEnds (window : Nat) : Nat → List Arrival → List Nat
  | _, [] => []
  | free, arrival :: rest =>
      if arrival.time < free + window then
        (max arrival.time free + arrival.duration) ::
          drainEnds window (max arrival.time free + arrival.duration) rest
      else []

/-- No batch arrives at the very end of the window that would be open for it. -/
def Untied (window free : Nat) (schedule : List Arrival) : Prop :=
  ∀ pair ∈ schedule.zip (free :: drainEnds window free schedule), pair.1.time ≠ pair.2 + window

instance (window free : Nat) (schedule : List Arrival) : Decidable (Untied window free schedule) :=
  inferInstanceAs (Decidable (∀ _ ∈ _, _))

section Reference

variable {window free : Nat} {arrival : Arrival} {rest : List Arrival}

theorem drainEnds_of_soon (soon : arrival.time < free + window) :
    drainEnds window free (arrival :: rest) =
      (max arrival.time free + arrival.duration) ::
        drainEnds window (max arrival.time free + arrival.duration) rest :=
  if_pos soon

theorem drainEnds_of_late (late : free + window ≤ arrival.time) :
    drainEnds window free (arrival :: rest) = [] :=
  if_neg (Nat.not_lt_of_ge late)

/-- A batch is drained if those before it are and it arrives before the window has passed
since the drain was through with the last of them.  It is begun with as soon as it is there
and the drain is free. -/
theorem getElem?_drainEnds (window free : Nat) (schedule : List Arrival) (index : Nat) :
    (drainEnds window free schedule)[index]? =
      (free :: drainEnds window free schedule)[index]?.bind fun before =>
        schedule[index]?.bind fun arrival =>
          if arrival.time < before + window then
            some (max arrival.time before + arrival.duration)
          else none := by
  induction schedule generalizing free index with
  | nil =>
      simp only [List.getElem?_nil, Option.bind_none, Option.bind_fun_none, drainEnds]
  | cons arrival rest inductionHypothesis =>
      by_cases soon : arrival.time < free + window
      · rw [drainEnds_of_soon soon]
        cases index with
        | zero => exact (if_pos soon).symm
        | succ index => exact inductionHypothesis _ index
      · rw [drainEnds_of_late (Nat.le_of_not_lt soon)]
        cases index with
        | zero => exact (if_neg soon).symm
        | succ index => rfl

theorem Untied.head (untied : Untied window free (arrival :: rest)) :
    arrival.time ≠ free + window :=
  untied (arrival, free) List.mem_cons_self

theorem Untied.tail (untied : Untied window free (arrival :: rest))
    (soon : arrival.time < free + window) :
    Untied window (max arrival.time free + arrival.duration) rest := by
  intro pair member
  apply untied pair
  rw [drainEnds_of_soon soon]
  exact List.mem_cons_of_mem _ member

end Reference

/-! ## A drain under way -/

/-- From the time at which it is first free, a drain begins with the batches and is through
with them at the given times.  The rest has arrived since, and the drain has been free
from the last time on. -/
inductive Drained (window : Nat) : (free : Nat) → (arrivals begins ends rest : List Nat) →
    (last : Nat) → Prop where
  | none (free : Nat) (arrivals : List Nat) : Drained window free arrivals [] [] arrivals free
  | more {free arrival ended last : Nat} {arrivals begins ends rest : List Nat}
      (soon : arrival ≤ free + window) (begun : max arrival free ≤ ended)
      (later : Drained window ended arrivals begins ends rest last) :
      Drained window free (arrival :: arrivals) (max arrival free :: begins) (ended :: ends) rest
        last

namespace Drained

variable {window free last : Nat} {arrivals begins ends rest : List Nat}
  (drained : Drained window free arrivals begins ends rest last)
include drained

theorem length_begins : begins.length = ends.length := by
  induction drained with
  | none => rfl
  | more _ _ _ inductionHypothesis => exact congrArg Nat.succ inductionHypothesis

theorem length_arrivals : arrivals.length = ends.length + rest.length := by
  induction drained with
  | none => exact (Nat.zero_add _).symm
  | more _ _ _ inductionHypothesis =>
      rw [List.length_cons, List.length_cons, inductionHypothesis, Nat.add_right_comm]

theorem last_eq : last = ends.getLastD free := by
  induction drained with
  | none => rfl
  | @more _ _ ended _ _ _ ends _ _ _ _ inductionHypothesis =>
      cases ends with
      | nil => exact inductionHypothesis
      | cons next ends => exact inductionHypothesis

theorem suffix : rest <:+ arrivals := by
  induction drained with
  | none => exact List.suffix_rfl
  | more _ _ _ inductionHypothesis => exact inductionHypothesis.trans (List.suffix_cons _ _)

/-- More may arrive. -/
theorem append (more : List Nat) :
    Drained window free (arrivals ++ more) begins ends (rest ++ more) last := by
  induction drained with
  | none free arrivals => exact .none free _
  | more soon begun _ inductionHypothesis => exact .more soon begun inductionHypothesis

/-- The drain is through with one more batch. -/
theorem snoc {arrival ended : Nat} {others : List Nat} (first : rest = arrival :: others)
    (soon : arrival ≤ last + window) (begun : max arrival last ≤ ended) :
    Drained window free arrivals (begins ++ [max arrival last]) (ends ++ [ended]) others ended := by
  induction drained with
  | none free arrivals =>
      rw [first]
      exact .more soon begun (.none ended others)
  | more earlier there _ inductionHypothesis =>
      exact .more earlier there (inductionHypothesis first soon begun)

/-- The drain has been through with each batch when the reference says. -/
theorem ends_eq {schedule : List Arrival} (times : schedule.map Arrival.time = arrivals)
    (durations : List.zipWith (· - ·) ends begins <+: schedule.map Arrival.duration)
    (untied : Untied window free schedule) :
    ∃ more, more.map Arrival.time = rest ∧ Untied window last more ∧
      drainEnds window free schedule = ends ++ drainEnds window last more := by
  induction drained generalizing schedule with
  | none free arrivals => exact ⟨schedule, times, untied, rfl⟩
  | @more free arrival ended _ _ _ _ _ soon begun _ inductionHypothesis =>
      cases schedule with
      | nil => cases times
      | cons first schedule =>
          rcases List.cons.inj times with ⟨rfl, others⟩
          rcases List.cons_prefix_cons.mp durations with ⟨duration, durations⟩
          have early : first.time < free + window := Nat.lt_of_le_of_ne soon untied.head
          have through : max first.time free + first.duration = ended := by
            rw [← duration]
            exact Nat.add_sub_cancel' begun
          have later : Untied window ended schedule := through ▸ untied.tail early
          rcases inductionHypothesis others durations later with ⟨more, same, kept, ends⟩
          refine ⟨more, same, kept, ?_⟩
          rw [drainEnds_of_soon early, through, ends]
          rfl

end Drained
end FailureDispatch

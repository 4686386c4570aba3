import FailureDispatch.Failure.Error
import FailureDispatch.Journal.Notice
import FailureDispatch.Queue.Permits

/-!
# Submission queue

A bounded buffer between submitters and consumers.  Submitters wait for a
slot, consumers for their turn: only one consumer at a time has the seat in
front of the buffer, and the seat is handed on in order of arrival.

Closing refuses every submission that begins afterwards.  Submitters already
in line keep their claim, so consumers find the queue exhausted only when it
is closed, nobody waits for a slot and the buffer is empty.

Every operation answers with those whom it wakes, in order.  What the woken
find when they act is decided then and not at the moment of waking.
-/

namespace FailureDispatch

structure SubmissionQueue (ι α : Type) where
  /-- The number of items that can be buffered. -/
  capacity : Nat
  isOpen : Bool := true
  buffer : List α := []
  /-- Free places in the buffer. -/
  slots : Permits ι
  /-- The single seat of the consumer whose turn it is. -/
  turn : Permits ι
  /-- The consumer in the seat, while it sleeps for want of an item. -/
  sleeper : Option ι := none
  submitted : Nat := 0
  consumed : Nat := 0
  rejected : Nat := 0
  deriving DecidableEq, Repr

namespace SubmissionQueue

/-- The largest capacity that the counting of slots allows. -/
def maxCapacity : Nat := (UInt64.size - 1) / 8

section Operations

variable {ι α : Type}

/-- An open queue without items.  There is always room for one. -/
def empty (capacity : Nat) : SubmissionQueue ι α :=
  { capacity := max capacity 1
    slots := ⟨max capacity 1, [], []⟩
    turn := ⟨1, [], []⟩ }

/-- An empty queue, unless its slots could not be counted. -/
def empty? (capacity : Nat) : Option (SubmissionQueue ι α) :=
  if capacity ≤ maxCapacity then some (empty capacity) else none

/-- The backlog according to the counters. -/
def size (queue : SubmissionQueue ι α) : Nat := queue.submitted - queue.consumed

def stats (queue : SubmissionQueue ι α) : QueueStats :=
  ⟨queue.size, queue.capacity, queue.submitted, queue.consumed, queue.rejected⟩

/-- Whether an item may still arrive without a new submission being begun. -/
def mayReceive (queue : SubmissionQueue ι α) : Bool := queue.isOpen || !queue.slots.isQuiet

/-- Wake the sleeping consumer, if there is one. -/
def rouse (queue : SubmissionQueue ι α) : List ι × SubmissionQueue ι α :=
  (queue.sleeper.toList, { queue with sleeper := none })

/-- Put an item into a slot that is already taken for it. -/
def push (queue : SubmissionQueue ι α) (item : α) : List ι × SubmissionQueue ι α :=
  { queue with buffer := queue.buffer ++ [item], submitted := queue.submitted + 1 }.rouse

def refuse (queue : SubmissionQueue ι α) : SubmissionQueue ι α :=
  { queue with rejected := queue.rejected + 1 }

/-- Submit without waiting.  The buffer cannot be gone while the queue is there: the queue
keeps both ends of it and gives up the submitters' end only.  So there are two refusals,
that of a closed queue and that of a full one. -/
def trySubmit (queue : SubmissionQueue ι α) (item : α) :
    Except FailureError Unit × List ι × SubmissionQueue ι α :=
  if !queue.isOpen then (.error .queueClosed, [], queue.refuse)
  else if 0 < queue.slots.free then
    (.ok (), { queue with slots := { queue.slots with free := queue.slots.free - 1 } }.push item)
  else (.error (.queueFull queue.capacity), [], queue.refuse)

/-- Wake the sleeping consumer if nothing can arrive any more. -/
def rouseIfExhausted (queue : SubmissionQueue ι α) : List ι × SubmissionQueue ι α :=
  if queue.mayReceive then ([], queue) else queue.rouse

/-- Refuse all submissions from now on. -/
def close (queue : SubmissionQueue ι α) : List ι × SubmissionQueue ι α :=
  { queue with isOpen := false }.rouseIfExhausted

end Operations

/-- How far a submission has come. -/
inductive Submission where
  | accepted
  | refused (error : FailureError)
  | waiting
  deriving DecidableEq, Repr

/-- Where a consumer waits: in line for the seat, or in the seat for an item. -/
inductive Place where
  | line
  | seat
  deriving DecidableEq, Repr

/-- What a consumer obtains. -/
inductive Catch (α : Type) where
  | item (item : α)
  /-- Nothing can arrive any more. -/
  | exhausted
  | waiting (place : Place)
  deriving DecidableEq, Repr

variable {ι α : Type} [DecidableEq ι]

/-- Go on with a submission that has been begun. -/
def resume (queue : SubmissionQueue ι α) (who : ι) (item : α) :
    Submission × List ι × SubmissionQueue ι α :=
  match queue.slots.ask who with
  | (true, slots) => (.accepted, { queue with slots }.push item)
  | (false, slots) => (.waiting, [], { queue with slots })

/-- Begin a submission that waits for a slot.  Only its beginning looks at
whether the queue is open: whoever waits keeps the buffer that he waits for, and
is not refused when the queue is closed. -/
def submit (queue : SubmissionQueue ι α) (who : ι) (item : α) :
    Submission × List ι × SubmissionQueue ι α :=
  if queue.isOpen then queue.resume who item else (.refused .queueClosed, [], queue.refuse)

/-- Give up a submission that waits. -/
def withdraw (queue : SubmissionQueue ι α) (who : ι) : List ι × SubmissionQueue ι α :=
  let (granted, slots) := queue.slots.leave who
  let (roused, queue) := { queue with slots }.rouseIfExhausted
  (granted ++ roused, queue)

/-- Leave the seat to the next in line. -/
def vacate (queue : SubmissionQueue ι α) : List ι × SubmissionQueue ι α :=
  let (next, turn) := queue.turn.release 1
  (next, { queue with turn })

/-- Take the first item from the seat.  The freed slot goes to the first
submitter in line and the seat to the first consumer. -/
def receive (queue : SubmissionQueue ι α) (who : ι) :
    Catch α × List ι × SubmissionQueue ι α :=
  match queue.buffer with
  | item :: rest =>
      let (submitter, slots) := queue.slots.release 1
      let (next, queue) :=
        { queue with buffer := rest, slots, consumed := queue.consumed + 1 }.vacate
      (.item item, submitter ++ next, queue)
  | [] =>
      if queue.mayReceive then (.waiting .seat, [], { queue with sleeper := some who })
      else (.exhausted, queue.vacate)

/-- Go on consuming from where the consumer waits. -/
def seek (queue : SubmissionQueue ι α) (who : ι) (place : Place) :
    Catch α × List ι × SubmissionQueue ι α :=
  match place with
  | .seat => queue.receive who
  | .line =>
      match queue.turn.ask who with
      | (true, turn) => { queue with turn }.receive who
      | (false, turn) => (.waiting .line, [], { queue with turn })

/-- Give up consuming. -/
def depart (queue : SubmissionQueue ι α) (who : ι) (place : Place) :
    List ι × SubmissionQueue ι α :=
  match place with
  | .seat => { queue with sleeper := none }.vacate
  | .line =>
      let (next, turn) := queue.turn.leave who
      (next, { queue with turn })

end SubmissionQueue
end FailureDispatch

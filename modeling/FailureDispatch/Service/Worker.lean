import FailureDispatch.Handler.Selection
import FailureDispatch.Queue.Basic

/-!
# The worker of a service

A service has one worker.  It takes batches one after the other in its main
loop, and after a request to stop it drains the queue until a limited wait
brings nothing more.

`Worker` says exactly where the worker is: what it waits for, and how far it
has come with the batch in hand.  There is at most one batch in hand, so
dispatches cannot overlap.
-/

namespace FailureDispatch

/-- What a scripted queue gives instead of a buffered batch. -/
inductive QueueAnswer where
  | batch (batch : Batch)
  | error (error : FailureError)
  | panic (text : String)
  | nothing
  deriving DecidableEq

namespace QueueAnswer

/-- Answer with a batch, or with the reason why there is none. -/
def ofDraft (draft : Draft) : QueueAnswer :=
  match draft.build with
  | .ok formed => .batch formed
  | .error reason => .error reason

end QueueAnswer

/-- An answer of a scripted queue, given after a delay. -/
structure QueueReply where
  delay : Nat := 0
  answer : QueueAnswer
  deriving DecidableEq

/-- A queue that answers from two lists: one for the waits without limit and
one for the limited waits of the drain.  These answers may be panics.  Its size and
its statistics it tells without fail. -/
structure ScriptedQueue where
  waits : List QueueReply := []
  drains : List QueueReply := []
  deriving DecidableEq

/-- Where in its life the worker dispatches a batch. -/
inductive Phase where
  | main
  /-- So many batches have been drained before this one. -/
  | drain (count : Nat)
  deriving DecidableEq, Repr

/-- What scripted actions wait for. -/
inductive Pause where
  | alarm (time : Nat)
  | gate (name : String)
  deriving DecidableEq, Repr

/-- Which part of serving a handler is under way. -/
inductive Stage where
  | handling
  | acknowledging
  deriving DecidableEq, Repr

/-- A call that waits in the middle. -/
structure Invocation where
  ref : HandlerRef
  stage : Stage
  pause : Pause
  rest : List Action
  deriving DecidableEq, Repr

/-- A batch in hand. -/
structure Dispatch where
  batch : Batch
  /-- The chosen handlers that have not been called yet. -/
  pending : List HandlerRef
  current : Option Invocation := none
  deriving DecidableEq

/-- How a batch is being obtained. -/
inductive Fetch where
  | queued (place : SubmissionQueue.Place)
  | delayed (time : Nat) (answer : QueueAnswer)
  /-- A scripted queue without further answers: only the request to stop ends
  the wait. -/
  | forStop
  deriving DecidableEq

inductive Worker where
  /-- The service has not been started. -/
  | idle
  | fresh
  /-- At the head of the main loop. -/
  | looping
  | fetching (fetch : Fetch)
  /-- The queue is closed: nothing is left to do but to wait for the stop. -/
  | parked
  | dispatching (phase : Phase) (dispatch : Dispatch)
  /-- At the head of the drain loop. -/
  | draining (count : Nat)
  | drainFetching (count deadline : Nat) (fetch : Fetch)
  /-- The drain is over, after so many batches. -/
  | done (count : Nat)
  /-- The drain was cut short by an error of the queue. -/
  | failed (error : FailureError)
  /-- The worker was torn down by a panic of its queue. -/
  | aborted (text : String)
  deriving DecidableEq

namespace Worker

/-- Whether the worker would notice a request to stop where it waits. -/
def listens : Worker → Bool
  | fetching (.queued _) | fetching .forStop | parked => true
  | _ => false

/-- The time at which the worker's present wait ends by itself. -/
def alarm? : Worker → Option Nat
  | fetching (.delayed time _) | drainFetching _ _ (.delayed time _) => some time
  | drainFetching _ deadline (.queued _) => some deadline
  | dispatching _ dispatch =>
      match dispatch.current with
      | some ⟨_, _, .alarm time, _⟩ => some time
      | _ => none
  | _ => none

def isGone : Worker → Bool
  | done _ | failed _ | aborted _ => true
  | _ => false

end Worker

namespace Phase

/-- Where the worker goes on when the batch in hand is finished. -/
def resume : Phase → Worker
  | main => .looping
  | drain count => .draining (count + 1)

end Phase

/-- How long the drain waits for one more batch unless told otherwise, in
milliseconds. -/
def defaultDrainWait : Nat := 3000

/-- A service: its collaborators, its configuration and its worker. -/
structure Service where
  handlers : List Handler := []
  fallback : Handler := .logging
  acknowledger : Script := ⟨[]⟩
  /-- How long the drain waits for one more batch. -/
  drainWait : Nat := defaultDrainWait
  state : ServiceState := .new
  /-- How often the state has changed. -/
  version : Nat := 0
  stopRequested : Bool := false
  worker : Worker := .idle

namespace Service

def handler? (service : Service) : HandlerRef → Option Handler
  | .registered index => service.handlers[index]?
  | .fallback => some service.fallback

def setHandler (service : Service) (ref : HandlerRef) (handler : Handler) : Service :=
  match ref with
  | .registered index => { service with handlers := service.handlers.set index handler }
  | .fallback => { service with fallback := handler }

end Service
end FailureDispatch

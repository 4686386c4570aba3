import FailureDispatch.Application.Error
import FailureDispatch.Service.Worker

/-!
# Deployments

A deployment is a service together with its queue, the callers that wait on
either of them, and a clock.  All of it runs on one thread: those who can act
stand in `ready`, and the first of them acts until it has to wait.

Whoever waits has to be woken by what ends the wait.  Being woken only means
standing in `ready` again; the awaited condition is examined afresh when the
turn comes, so an idle wake-up does no harm.
-/

namespace FailureDispatch

/-- Those who act by themselves: the worker, and the callers by number. -/
inductive Actor where
  | worker
  | caller (id : Nat)
  deriving DecidableEq, Repr

/-- The queue that a service takes its batches from. -/
inductive Source where
  | buffered (queue : SubmissionQueue Actor Batch)
  | scripted (queue : ScriptedQueue)
  deriving DecidableEq

/-- Which interface a caller used, which decides the form of its errors. -/
inductive Door where
  | service
  | runtime
  deriving DecidableEq, Repr

/-- A call that takes time. -/
inductive Call where
  /-- Waits for a slot once it has begun. -/
  | submit (door : Door) (batch : Batch) (begun : Bool)
  | consume (token : String) (place : SubmissionQueue.Place)
  | consumeWithin (deadline : Nat) (place : SubmissionQueue.Place)
  /-- Owns the handle and has not acted yet. -/
  | join (door : Door) (stopFirst : Bool)
  /-- Waits for the worker to end.  The handle is no longer whole. -/
  | joining (door : Door)
  | awaitRunning
  | awaitTerminated
  deriving DecidableEq

namespace Call

/-- Whether a change of the service's state concerns the call. -/
def observesState : Call → Bool
  | awaitRunning | awaitTerminated => true
  | _ => false

def awaitsWorker : Call → Bool
  | joining _ => true
  | _ => false

def usesToken (token : String) : Call → Bool
  | consume other _ => other == token
  | _ => false

def alarm? : Call → Option Nat
  | consumeWithin deadline _ => some deadline
  | _ => none

def isSubmissionThrough (door : Door) : Call → Bool
  | submit other _ _ => other == door
  | _ => false

end Call

/-- A call under way.  A doomed one is torn down when its turn comes. -/
structure Job where
  call : Call
  doomed : Bool := false
  deriving DecidableEq

/-- How a call ended. -/
inductive Outcome where
  | done
  | took (batch : Batch)
  | nothing
  | drained (count : Nat)
  | state (state : ServiceState)
  | failed (error : FailureError)
  | failedInApp (error : AppError)
  | aborted
  deriving DecidableEq

/-- Who can stop the service at will. -/
inductive Holder where
  | nobody
  | handle
  | runtime
  deriving DecidableEq, Repr

structure Deployment where
  now : Nat := 0
  /-- Those who can act, in the order of their turns. -/
  ready : List Actor := []
  source : Source
  service : Service := {}
  holder : Holder := .nobody
  /-- The calls under way, in the order in which they began. -/
  jobs : List (Nat × Job) := []
  /-- The calls that have ended, in the order in which they ended. -/
  outcomes : List (Nat × Outcome) := []
  gates : List (String × Permits Actor) := []
  /-- The tokens that have been cancelled. -/
  cancelled : List String := []
  /-- The observers of the state, with the version that each has seen. -/
  watches : List (String × Nat) := []
  journal : Journal := []

namespace Deployment

/-! ## Records and wake-ups -/

def note (deployment : Deployment) (entry : Occurrence) : Deployment :=
  { deployment with journal := deployment.journal ++ [entry] }

def noteAll (deployment : Deployment) (trace : Journal) : Deployment :=
  { deployment with journal := deployment.journal ++ trace }

def log (deployment : Deployment) (notice : Notice) : Deployment :=
  deployment.note (.logged notice)

def count (deployment : Deployment) (counter : Counter) (amount : Nat) : Deployment :=
  deployment.note (.counted counter amount)

/-- Let an actor have a turn.  One that already stands in line keeps its place. -/
def wake (deployment : Deployment) (actor : Actor) : Deployment :=
  if actor ∈ deployment.ready then deployment
  else { deployment with ready := deployment.ready ++ [actor] }

def wakeAll (deployment : Deployment) (actors : List Actor) : Deployment :=
  actors.foldl wake deployment

/-- The callers whose call has the property, in the order in which they began. -/
def callersWith (deployment : Deployment) (property : Call → Bool) : List Actor :=
  (deployment.jobs.filter fun entry => property entry.2.call).map fun entry => .caller entry.1

/-! ## Parts of the state -/

def setWorker (deployment : Deployment) (worker : Worker) : Deployment :=
  { deployment with service := { deployment.service with worker } }

def job? (deployment : Deployment) (id : Nat) : Option Job := deployment.jobs.lookup id

def setJob (deployment : Deployment) (id : Nat) (job : Job) : Deployment :=
  { deployment with
    jobs := deployment.jobs.map fun entry => if entry.1 = id then (id, job) else entry }

/-- End a call. -/
def finish (deployment : Deployment) (id : Nat) (outcome : Outcome) : Deployment :=
  { deployment with
    jobs := deployment.jobs.filter fun entry => entry.1 != id
    outcomes := deployment.outcomes ++ [(id, outcome)] }

def gate (deployment : Deployment) (name : String) : Permits Actor :=
  (deployment.gates.lookup name).getD ⟨0, [], []⟩

def setGate (deployment : Deployment) (name : String) (permits : Permits Actor) : Deployment :=
  { deployment with
    gates := (name, permits) :: deployment.gates.filter fun entry => entry.1 != name }

/-! ## The queue -/

/-- Replace the in-memory queue and wake those whom the operation woke. -/
def adopt (deployment : Deployment) (woken : List Actor)
    (queue : SubmissionQueue Actor Batch) : Deployment :=
  { deployment with source := .buffered queue }.wakeAll woken

/-- The size that the queue is said to have.  Telling it does not fail, and neither does
writing the statistics: of what a queue of somebody's own might do, only the answers to
those who wait for a batch may be panics. -/
def backlog (deployment : Deployment) : Nat :=
  match deployment.source with
  | .buffered queue => queue.size
  | .scripted queue => queue.waits.length + queue.drains.length

/-- Write the statistics of the queue.  A scripted queue only notes that it was told to. -/
def logStats (deployment : Deployment) (tag : String) : Deployment :=
  match deployment.source with
  | .buffered queue => deployment.log (.stats tag queue.stats)
  | .scripted _ => deployment.note (.reported tag)

/-- The service has its queue write the statistics. -/
def requestStats (deployment : Deployment) (tag : String) : Deployment :=
  (deployment.note (.contact (.reports tag))).logStats tag

/-! ## The state of the service -/

/-- Enter a state, if the service can, and tell the observers.  A refused
transition changes nothing. -/
def enter (deployment : Deployment) (next : ServiceState) :
    Except FailureError Unit × Deployment :=
  if deployment.service.state.canBecome next then
    let service :=
      { deployment.service with state := next, version := deployment.service.version + 1 }
    (.ok (), ({ deployment with service }.note (.entered next)).wakeAll
      (deployment.callersWith Call.observesState))
  else (.error (.illegalTransition deployment.service.state next), deployment)

/-- Tell the worker to stop.  Telling it again has no effect. -/
def cancelWorker (deployment : Deployment) : Deployment :=
  let told :=
    { deployment with service := { deployment.service with stopRequested := true } }
  if !deployment.service.stopRequested && deployment.service.worker.listens then
    told.wake .worker
  else told

/-- The tag of the statistics written when a stop is requested. -/
def stopTag : String := "FailureHandlingService#trigger_shutdown"

/-- The tag of the statistics written when the drain is over. -/
def drainTag : String := "FailureHandlingService#shut_down"

/-- Request the service to stop.  Only the first request leaves a trace. -/
def requestStop (deployment : Deployment) : Deployment :=
  match deployment.enter .stopping with
  | (.ok _, moved) => (moved.cancelWorker.log .stopRequested).requestStats stopTag
  | (.error _, same) => same.cancelWorker

end Deployment

/-- Whether the one whose turn it is keeps it. -/
inductive Progress where
  | goesOn
  | rests
  deriving DecidableEq, Repr

end FailureDispatch

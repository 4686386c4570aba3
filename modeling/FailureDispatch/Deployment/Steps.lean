import FailureDispatch.Deployment.Turns

/-!
# Steps from outside

What a user of a deployment can do to it.  Some steps act at once and leave
everybody else where they are; those whom they wake have their turns when the
deployment is next settled.  Steps that begin a call settle first, so that
the call stands behind all that happened before it, and settle again.

A step that has nothing to act on changes nothing and says so.
-/

namespace FailureDispatch

inductive Step where
  | settle
  | advance (duration : Nat)
  /-- Add permits to a gate. -/
  | release (gate : String) (count : Nat)
  | cancel (token : String)
  | abort (id : Nat)
  | trySubmit (draft : Draft)
  | submit (draft : Draft)
  /-- Submit to the queue itself, which can be reached past a runtime. -/
  | trySubmitDirectly (draft : Draft)
  | submitDirectly (draft : Draft)
  | consume (token : String)
  | consumeWithin (wait : Nat)
  | close
  | logStats (tag : String)
  | start
  | stop
  | drop
  | join
  | shutdown
  | awaitRunning
  | awaitTerminated
  | viewHandle
  | viewRuntime
  | watch (name : String)
  | pollWatch (name : String)
  deriving DecidableEq

/-- The immediate answer to a step. -/
inductive Reply where
  | ok
  | spawned
  | nothingToActOn
  | refused (error : FailureError)
  | refusedInApp (error : AppError)
  /-- The state, whether it is running (`none` if that is still open), and the
  wait of the drain. -/
  | handle (state : ServiceState) (running : Option (Except FailureError Unit)) (drainWait : Nat)
  | runtime (state : ServiceState) (capacity drainWait : Nat)
  | watch (changed : Bool) (state : ServiceState)

namespace Deployment

/-- Put a call under way. -/
def addJob (deployment : Deployment) (id : Nat) (call : Call) : Deployment :=
  { deployment with jobs := deployment.jobs ++ [(id, { call })] }

/-- Begin a call under a number of its own. -/
def spawn (deployment : Deployment) (id : Nat) (call : Call) : Deployment :=
  ((deployment.settle.addJob id call).wake (.caller id)).settle

/-- The interface that submissions go through at present. -/
def door (deployment : Deployment) : Door :=
  match deployment.holder with
  | .runtime => .runtime
  | .nobody | .handle => .service

/-- An error in the form that an interface gives it. -/
def refusal (door : Door) (error : FailureError) : Reply :=
  match door with
  | .service => .refused error
  | .runtime => .refusedInApp (.domain error)

/-- Submit through an interface without waiting. -/
def submitNow (deployment : Deployment) (door : Door) (draft : Draft) : Reply × Deployment :=
  match deployment.source with
  | .scripted _ => (.nothingToActOn, deployment)
  | .buffered queue =>
      match draft.build with
      | .error error => (.refused error, deployment)
      | .ok batch =>
          match queue.trySubmit batch with
          | (.ok _, woken, after) =>
              (.ok, (deployment.adopt woken after).note (.accepted batch))
          | (.error error, woken, after) =>
              (refusal door error,
                (deployment.adopt woken after).note (.refused batch))

/-- Begin a submission that waits for a slot. -/
def spawnSubmission (deployment : Deployment) (id : Nat) (door : Door) (draft : Draft) :
    Reply × Deployment :=
  match deployment.source with
  | .scripted _ => (.nothingToActOn, deployment)
  | .buffered _ =>
      match draft.build with
      | .error error => (.refused error, deployment)
      | .ok batch => (.spawned, deployment.spawn id (.submit door batch false))

/-- Begin a call that needs the in-memory queue. -/
def spawnOnQueue (deployment : Deployment) (id : Nat) (call : Call) : Reply × Deployment :=
  match deployment.source with
  | .scripted _ => (.nothingToActOn, deployment)
  | .buffered _ => (.spawned, deployment.spawn id call)

/-- Start the service, which can succeed once. -/
def start (deployment : Deployment) : Except FailureError Unit × Deployment :=
  match deployment.enter .starting with
  | (.ok _, started) =>
      (.ok (), ({ started with holder := .handle }.setWorker .fresh).wake .worker)
  | (.error error, same) => (.error error, same)

/-- Let go of the handle or of the runtime. -/
def dropHolder (deployment : Deployment) : Deployment :=
  match deployment.holder with
  | .nobody => deployment
  | .handle | .runtime => { deployment with holder := .nobody }.requestStop

/-- Give the handle to a call that waits for the worker to end.  A runtime
cannot be given away while one of its submissions waits, and always stops its
service. -/
def spawnJoin (deployment : Deployment) (id : Nat) (stopFirst : Bool) : Reply × Deployment :=
  match deployment.holder with
  | .nobody => (.nothingToActOn, deployment)
  | .handle =>
      (.spawned, { deployment with holder := .nobody }.spawn id (.join .service stopFirst))
  | .runtime =>
      if (deployment.callersWith (Call.isSubmissionThrough .runtime)).isEmpty then
        (.spawned, { deployment with holder := .nobody }.spawn id (.join .runtime true))
      else (.nothingToActOn, deployment)

/-- What a single look at the start-up says. -/
def runningNow (state : ServiceState) : Option (Except FailureError Unit) :=
  match state with
  | .new | .starting => none
  | .running => some (.ok ())
  | other => some (.error (.unexpectedState .running other))

/-- Take a step.  The number is that of the call which the step may begin. -/
def take (deployment : Deployment) (id : Nat) : Step → Reply × Deployment
  | .settle => (.ok, deployment.settle)
  | .advance duration => (.ok, deployment.advance duration)
  | .release gate count =>
      let (woken, permits) := (deployment.gate gate).release count
      (.ok, (deployment.setGate gate permits).wakeAll woken)
  | .cancel token =>
      if token ∈ deployment.cancelled then (.ok, deployment)
      else
        (.ok, { deployment with cancelled := token :: deployment.cancelled }.wakeAll
          (deployment.callersWith (Call.usesToken token)))
  | .abort other =>
      match deployment.job? other with
      | none => (.nothingToActOn, deployment)
      | some job =>
          (.ok, ((deployment.setJob other { job with doomed := true }).wake
            (.caller other)).settle)
  | .trySubmit draft => deployment.submitNow deployment.door draft
  | .submit draft => deployment.spawnSubmission id deployment.door draft
  | .trySubmitDirectly draft => deployment.submitNow .service draft
  | .submitDirectly draft => deployment.spawnSubmission id .service draft
  | .consume token => deployment.spawnOnQueue id (.consume token .line)
  | .consumeWithin wait =>
      deployment.spawnOnQueue id (.consumeWithin (deployment.now + wait) .line)
  | .close =>
      match deployment.source with
      | .scripted _ => (.nothingToActOn, deployment)
      | .buffered queue => (.ok, deployment.adopt queue.close.1 queue.close.2)
  | .logStats tag =>
      match deployment.source with
      | .scripted _ => (.nothingToActOn, deployment)
      | .buffered _ => (.ok, deployment.logStats tag)
  | .start =>
      match deployment.start with
      | (.ok _, started) => (.ok, started)
      | (.error error, same) => (.refused error, same)
  | .stop =>
      match deployment.holder with
      | .handle => (.ok, deployment.requestStop)
      | .nobody | .runtime => (.nothingToActOn, deployment)
  | .drop => (.ok, deployment.dropHolder)
  | .join => deployment.spawnJoin id false
  | .shutdown => deployment.spawnJoin id true
  | .awaitRunning => (.spawned, deployment.spawn id .awaitRunning)
  | .awaitTerminated => (.spawned, deployment.spawn id .awaitTerminated)
  | .viewHandle =>
      match deployment.holder with
      | .handle =>
          (.handle deployment.service.state (runningNow deployment.service.state)
            deployment.service.drainWait, deployment)
      | .nobody | .runtime => (.nothingToActOn, deployment)
  | .viewRuntime =>
      match deployment.holder, deployment.source with
      | .runtime, .buffered queue =>
          (.runtime deployment.service.state queue.capacity deployment.service.drainWait,
            deployment)
      | _, _ => (.nothingToActOn, deployment)
  | .watch name =>
      (.ok, { deployment with
        watches := (name, deployment.service.version) ::
          deployment.watches.filter fun entry => entry.1 != name })
  | .pollWatch name =>
      match deployment.watches.lookup name with
      | none => (.nothingToActOn, deployment)
      | some seen =>
          (.watch (seen != deployment.service.version) deployment.service.state,
            { deployment with
              watches := (name, deployment.service.version) ::
                deployment.watches.filter fun entry => entry.1 != name })

end Deployment
end FailureDispatch

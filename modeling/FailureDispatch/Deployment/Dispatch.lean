import FailureDispatch.Deployment.Basic

/-!
# Dispatch of one batch

The chosen handlers are called one after the other.  A handler that succeeds
is followed by an acknowledgement of its own; one that fails or panics is
recorded, and so is a fault of the acknowledgement.  Nothing that happens in
one call keeps the next handler from being called.

A call that has to wait is left in the middle as an `Invocation`.  All that
happens between two waits happens at once.
-/

namespace FailureDispatch

/-- How a stretch of scripted actions comes out. -/
inductive Conclusion where
  | success
  | failure (error : FailureError)
  | panic
  deriving DecidableEq, Repr

/-- Scripted actions either come to an end or have to wait. -/
inductive Performance where
  | finished (conclusion : Conclusion)
  | waits (pause : Pause) (rest : List Action)
  deriving DecidableEq, Repr

namespace Deployment

/-- Ask for a permit of a gate on behalf of the worker. -/
def passGate (deployment : Deployment) (name : String) : Bool × Deployment :=
  let (passed, permits) := (deployment.gate name).ask .worker
  (passed, deployment.setGate name permits)

/-- Perform actions up to the first wait that is not over at once.  The name
is the one that a scripted failure is reported under. -/
def perform (deployment : Deployment) (name : String) : List Action → Performance × Deployment
  | [] => (.finished .success, deployment)
  | .proceed :: rest => deployment.perform name rest
  | .panic :: _ => (.finished .panic, deployment)
  | .fail reason :: _ => (.finished (.failure (.handler name reason)), deployment)
  | .raise error :: _ => (.finished (.failure error), deployment)
  | .sleep duration :: rest =>
      if duration = 0 then deployment.perform name rest
      else (.waits (.alarm (deployment.now + duration)) rest, deployment)
  | .pass gate :: rest =>
      match deployment.passGate gate with
      | (true, passed) => passed.perform name rest
      | (false, waiting) => (.waits (.gate gate) rest, waiting)

/-- Whether a wait is over. -/
def pauseOver (deployment : Deployment) : Pause → Bool × Deployment
  | .alarm time => (decide (time ≤ deployment.now), deployment)
  | .gate name => deployment.passGate name

/-- Record that a handler's call came to nothing. -/
def fault (deployment : Deployment) (name : String) (batch : Batch) (error : FailureError) :
    Deployment :=
  (deployment.log (.handlerFailed name batch.type batch.size error)).count
    (.handlerFailures name) 1

/-- What follows when the acknowledger's actions end or wait.  An error of the
acknowledger is its own affair; only a panic counts against the handler. -/
def afterAcknowledging (deployment : Deployment) (batch : Batch) (ref : HandlerRef)
    (name : String) : Performance → Option Invocation × Deployment
  | .finished .panic => (none, deployment.fault name batch (.handlerPanicked name))
  | .finished _ => (none, deployment)
  | .waits pause rest => (some ⟨ref, .acknowledging, pause, rest⟩, deployment)

/-- Acknowledge the units of a batch after a handler succeeded. -/
def acknowledge (deployment : Deployment) (batch : Batch) (ref : HandlerRef) (name : String) :
    Option Invocation × Deployment :=
  match batch.ackRefs with
  | none => (none, deployment.fault name batch (.handlerPanicked name))
  | some refs =>
      let counted :=
        (deployment.count .unitsAcknowledged refs.length).note (.acknowledged refs)
      let (actions, later) := counted.service.acknowledger.next []
      let (performance, after) :=
        { counted with service := { counted.service with acknowledger := later } }.perform
          name actions
      after.afterAcknowledging batch ref name performance

/-- What follows when a handler's actions end or wait. -/
def afterHandling (deployment : Deployment) (batch : Batch) (ref : HandlerRef)
    (name : String) : Performance → Option Invocation × Deployment
  | .finished .success => deployment.acknowledge batch ref name
  | .finished (.failure error) => (none, deployment.fault name batch error)
  | .finished .panic => (none, deployment.fault name batch (.handlerPanicked name))
  | .waits pause rest => (some ⟨ref, .handling, pause, rest⟩, deployment)

/-- What a handler's call leaves in the journal at its beginning. -/
def handleTrace (handler : Handler) (batch : Batch) : Journal :=
  match handler.conduct with
  | .scripted _ _ _ => [.handled handler.name batch.unitIds]
  | .logging => batch.failures.map fun failure => .logged (.failure failure)

/-- Call a chosen handler. -/
def callHandler (deployment : Deployment) (batch : Batch) (ref : HandlerRef) :
    Option Invocation × Deployment :=
  match deployment.service.handler? ref with
  | none => (none, deployment)
  | some handler =>
      let (actions, later) := handler.begin
      let called :=
        { deployment with service := deployment.service.setHandler ref later }.noteAll
          (handleTrace handler batch)
      let (performance, after) := called.perform handler.name actions
      after.afterHandling batch ref handler.name performance

/-- Go on with a call whose wait is over. -/
def continueCall (deployment : Deployment) (batch : Batch) (invocation : Invocation) :
    Option Invocation × Deployment :=
  match deployment.service.handler? invocation.ref with
  | none => (none, deployment)
  | some handler =>
      let (performance, after) := deployment.perform handler.name invocation.rest
      match invocation.stage with
      | .handling => after.afterHandling batch invocation.ref handler.name performance
      | .acknowledging => after.afterAcknowledging batch invocation.ref handler.name performance

/-- Take a batch in hand: choose its handlers, or discard it when there are
none. -/
def beginDispatch (deployment : Deployment) (phase : Phase) (batch : Batch) : Deployment :=
  let service := deployment.service
  let selection := Selection.choose service.handlers service.fallback batch
  let selected :=
    { deployment with service := { service with handlers := selection.handlers } }.noteAll
      (.dispatchBegun batch :: selection.trace)
  if selection.chosen.isEmpty then
    (((selected.log (.discarded batch.type batch.size)).count (.dropped batch.type) 1).note
      (.dispatchEnded batch)).setWorker phase.resume
  else
    (selected.count (.handled batch.type) 1).setWorker
      (.dispatching phase { batch, pending := selection.chosen })

/-- Keep a dispatch going after a call: wait with the call, or turn to the
next handler. -/
def keepDispatching (deployment : Deployment) (phase : Phase) (dispatch : Dispatch)
    (current : Option Invocation) : Progress × Deployment :=
  (if current.isSome then .rests else .goesOn,
    deployment.setWorker (.dispatching phase { dispatch with current }))

/-- The worker's turn with a batch in hand. -/
def advanceDispatch (deployment : Deployment) (phase : Phase) (dispatch : Dispatch) :
    Progress × Deployment :=
  match dispatch.current with
  | some invocation =>
      match deployment.pauseOver invocation.pause with
      | (false, waiting) => (.rests, waiting)
      | (true, resumed) =>
          let (current, after) := resumed.continueCall dispatch.batch invocation
          after.keepDispatching phase dispatch current
  | none =>
      match dispatch.pending with
      | ref :: rest =>
          let (current, after) := deployment.callHandler dispatch.batch ref
          after.keepDispatching phase { dispatch with pending := rest } current
      | [] =>
          (.goesOn, (deployment.note (.dispatchEnded dispatch.batch)).setWorker phase.resume)

end Deployment
end FailureDispatch

import FailureDispatch.Deployment.Dispatch

/-!
# The worker's turns

Each turn moves the worker by one step of its life: start up, take a batch or
learn that there is none, dispatch, drain, end.  In the main loop the request
to stop is looked at before the queue, so a batch that is available at that
moment is left for the drain.
-/

namespace FailureDispatch
namespace Deployment

/-- Start up.  A service that was asked to stop meanwhile only drains. -/
def startUp (deployment : Deployment) : Deployment :=
  let announced := deployment.log
    (.startingUp deployment.service.handlers.length deployment.service.fallback.name)
  match announced.enter .running with
  | (.ok _, running) => (running.log .upAndRunning).setWorker .looping
  | (.error _, same) => same.setWorker (.draining 0)

/-- The batch obtained from the queue is taken in hand. -/
def takeInHand (deployment : Deployment) (phase : Phase) (batch : Batch) : Deployment :=
  (deployment.noteAll [.contact (.gives batch), .taken batch]).beginDispatch phase batch

/-- The main loop learns that it gets no batch this time. -/
def missed (deployment : Deployment) (error : FailureError) : Deployment :=
  let told := deployment.note (.contact (.fails error))
  match error with
  | .cancelled => (told.log (.interrupted told.backlog)).setWorker .looping
  | .queueClosed => (told.log .queueClosed).setWorker .parked
  | other => (told.log (.fetchFailed other)).setWorker .looping

/-- A panic of the queue tears the worker down. -/
def tearDown (deployment : Deployment) (text : String) : Deployment :=
  (deployment.setWorker (.aborted text)).wakeAll (deployment.callersWith Call.awaitsWorker)

/-- A scripted queue answers the main loop. -/
def answerMain (deployment : Deployment) : QueueAnswer → Deployment
  | .batch batch => deployment.takeInHand .main batch
  | .error error => deployment.missed error
  | .panic text => deployment.tearDown text
  | .nothing => deployment.setWorker (.fetching .forStop)

/-- Turn to the queue from the main loop. -/
def beginFetch (deployment : Deployment) : Progress × Deployment :=
  let calling := deployment.note (.contact .waits)
  match deployment.source with
  | .buffered _ => (.goesOn, calling.setWorker (.fetching (.queued .line)))
  | .scripted queue =>
      let asked := calling.note .fetched
      match queue.waits with
      | [] => (.goesOn, asked.setWorker (.fetching .forStop))
      | reply :: rest =>
          let popped := { asked with source := .scripted { queue with waits := rest } }
          if reply.delay = 0 then (.goesOn, popped.answerMain reply.answer)
          else
            (.rests, popped.setWorker
              (.fetching (.delayed (popped.now + reply.delay) reply.answer)))

/-- The worker's turn while it waits for a batch in the main loop. -/
def advanceFetch (deployment : Deployment) (fetch : Fetch) : Progress × Deployment :=
  match fetch with
  | .queued place =>
      match deployment.source with
      | .scripted _ => (.rests, deployment)
      | .buffered queue =>
          if deployment.service.stopRequested then
            let (woken, left) := queue.depart .worker place
            (.goesOn, (deployment.adopt woken left).missed .cancelled)
          else
            match queue.seek .worker place with
            | (.item batch, woken, after) =>
                (.goesOn, (deployment.adopt woken after).takeInHand .main batch)
            | (.exhausted, woken, after) =>
                (.goesOn, (deployment.adopt woken after).missed .queueClosed)
            | (.waiting place, woken, after) =>
                (.rests, (deployment.adopt woken after).setWorker (.fetching (.queued place)))
  | .delayed time answer =>
      if time ≤ deployment.now then (.goesOn, deployment.answerMain answer)
      else (.rests, deployment)
  | .forStop =>
      if deployment.service.stopRequested then (.goesOn, deployment.missed .cancelled)
      else (.rests, deployment)

/-- Account for a drain that is over, before the final state is entered. -/
def closeAccounts (deployment : Deployment) (count : Nat) : Deployment :=
  (deployment.count .drained count).requestStats drainTag

/-- The last act of the worker: record how it ended and tell who waits. -/
def retire (deployment : Deployment) (worker : Worker) : Deployment :=
  (deployment.setWorker worker).wakeAll (deployment.callersWith Call.awaitsWorker)

/-- The drain found nothing more. -/
def completeDrain (deployment : Deployment) (count : Nat) : Deployment :=
  let told := deployment.note (.contact .givesNothing)
  match ((told.closeAccounts count).log (.drained count)).enter .terminated with
  | (.ok _, terminated) => terminated.retire (.done count)
  | (.error error, same) => same.retire (.failed error)

/-- The drain was cut short by an error. -/
def abandonDrain (deployment : Deployment) (count : Nat) (error : FailureError) : Deployment :=
  let told := deployment.note (.contact (.fails error))
  (((told.closeAccounts count).log (.drainFailed error count)).enter .failed).2.retire
    (.failed error)

/-- A scripted queue answers the drain. -/
def answerDrain (deployment : Deployment) (count : Nat) : QueueAnswer → Deployment
  | .batch batch => deployment.takeInHand (.drain count) batch
  | .error error => deployment.abandonDrain count error
  | .panic text => deployment.tearDown text
  | .nothing => deployment.completeDrain count

/-- Turn to the queue from the drain loop. -/
def beginDrainFetch (deployment : Deployment) (count : Nat) : Progress × Deployment :=
  let deadline := deployment.now + deployment.service.drainWait
  let calling := deployment.note (.contact (.waitsWithin deployment.service.drainWait))
  match deployment.source with
  | .buffered _ => (.goesOn, calling.setWorker (.drainFetching count deadline (.queued .line)))
  | .scripted queue =>
      let asked := calling.note (.fetchedWithin deployment.service.drainWait)
      match queue.drains with
      | [] => (.goesOn, asked.completeDrain count)
      | reply :: rest =>
          let popped := { asked with source := .scripted { queue with drains := rest } }
          if reply.delay = 0 then (.goesOn, popped.answerDrain count reply.answer)
          else
            (.rests, popped.setWorker
              (.drainFetching count deadline (.delayed (popped.now + reply.delay) reply.answer)))

/-- The worker's turn while it waits for a batch in the drain.  A batch that is
available is taken even when the time is up. -/
def advanceDrainFetch (deployment : Deployment) (count deadline : Nat) (fetch : Fetch) :
    Progress × Deployment :=
  match fetch with
  | .queued place =>
      match deployment.source with
      | .scripted _ => (.rests, deployment)
      | .buffered queue =>
          match queue.seek .worker place with
          | (.item batch, woken, after) =>
              (.goesOn, (deployment.adopt woken after).takeInHand (.drain count) batch)
          | (.exhausted, woken, after) =>
              (.goesOn, (deployment.adopt woken after).completeDrain count)
          | (.waiting place, woken, after) =>
              let waiting := deployment.adopt woken after
              if deadline ≤ deployment.now then
                let (freed, left) := after.depart .worker place
                (.goesOn, (waiting.adopt freed left).completeDrain count)
              else
                (.rests, waiting.setWorker (.drainFetching count deadline (.queued place)))
  | .delayed time answer =>
      if time ≤ deployment.now then (.goesOn, deployment.answerDrain count answer)
      else (.rests, deployment)
  | .forStop => (.rests, deployment)

/-- The worker's turn. -/
def advanceWorker (deployment : Deployment) : Progress × Deployment :=
  match deployment.service.worker with
  | .idle | .done _ | .failed _ | .aborted _ => (.rests, deployment)
  | .fresh => (.goesOn, deployment.startUp)
  | .looping =>
      if deployment.service.state = .running ∧ deployment.service.stopRequested = false then
        deployment.beginFetch
      else (.goesOn, (deployment.log .loopLeft).setWorker (.draining 0))
  | .fetching fetch => deployment.advanceFetch fetch
  | .parked =>
      if deployment.service.stopRequested then (.goesOn, deployment.setWorker .looping)
      else (.rests, deployment)
  | .dispatching phase dispatch => deployment.advanceDispatch phase dispatch
  | .draining count => deployment.beginDrainFetch count
  | .drainFetching count deadline fetch => deployment.advanceDrainFetch count deadline fetch

end Deployment
end FailureDispatch

import FailureDispatch.Deployment.Report
import FailureDispatch.Handler.Registry

/-!
# Assembly of a service

How deployments come about: a bare queue, a service over a given queue, or a
service assembled from a configuration and a registry and handed over only
when it is running.
-/

namespace FailureDispatch

/-- Why nothing could be assembled. -/
inductive AssemblyError where
  | app (error : AppError)
  /-- The slots of a queue of that capacity cannot be counted. -/
  | uncountable (capacity : Nat)
  deriving DecidableEq, Repr

namespace Deployment

/-- A queue whose service is never started. -/
def ofQueue (capacity : Nat) : Except AssemblyError Deployment :=
  match SubmissionQueue.empty? capacity with
  | some queue => .ok { source := .buffered queue }
  | none => .error (.uncountable capacity)

/-- Hand a service over to a runtime and announce it. -/
def announce (deployment : Deployment) (settings : Settings) : Deployment :=
  let handed := { deployment with holder := .runtime }
  match handed.source with
  | .buffered queue => handed.log (.assembled queue.capacity settings.shutdownAwait)
  | .scripted _ => handed

/-- Build the queue and the service, start it, and wait until it runs. -/
def assemble (settings : Settings) (registry : HandlerRegistry) (acknowledger : Script) :
    Except AssemblyError Deployment :=
  match settings.validate with
  | .error error => .error (.app (.config error))
  | .ok _ =>
      match SubmissionQueue.empty? settings.queueCapacity with
      | none => .error (.uncountable settings.queueCapacity)
      | some queue =>
          let fresh : Deployment :=
            { source := .buffered queue
              service :=
                { handlers := registry.handlers
                  fallback := registry.fallback
                  acknowledger
                  drainWait := settings.shutdownAwait }
              journal := registry.handlers.flatMap HandlerRegistry.registrationTrace }
          match fresh.start with
          | (.error error, _) => .error (.app (.domain error))
          | (.ok _, started) =>
              let settled := started.settle
              match runningNow settled.service.state with
              | some (.error error) => .error (.app (.domain error))
              | _ => .ok (settled.announce settings)

end Deployment
end FailureDispatch

import FailureDispatch.Handler.Basic
import FailureDispatch.Journal.Basic

/-!
# Selection of handlers

For each batch every registered handler is asked, in order, whether it
supports the batch, and only then whether it is enabled.  All that say yes
are chosen.  The fallback is asked only when nobody was chosen, and only
whether it supports the batch: a fallback cannot be disabled.

A handler that panics while it is asked is recorded and passed over.  The
panic has no influence on the answers of the others.
-/

namespace FailureDispatch

/-- A chosen handler, by its place in the service. -/
inductive HandlerRef where
  | registered (index : Nat)
  | fallback
  deriving DecidableEq, Repr

/-- The outcome of asking one handler: whether it is chosen, what it is from
then on, and what the asking left in the journal. -/
structure Polled where
  chosen : Bool
  handler : Handler
  trace : Journal

namespace Handler

/-- The trace of asking whether the handler supports a batch. -/
def askTrace (handler : Handler) : Journal :=
  if handler.isScripted then [.asked handler.name] else []

/-- The trace of asking whether the handler is enabled. -/
def checkTrace (handler : Handler) : Journal :=
  if handler.hasSwitch then [.checked handler.name] else []

/-- What is recorded about a handler that panicked while it was asked. -/
def panicTrace (handler : Handler) (batch : Batch) : Journal :=
  [.logged (.selectionPanicked handler.name batch.type),
    .counted (.handlerFailures handler.name) 1]

/-- Turn a verdict into a choice. -/
def conclude (handler : Handler) (batch : Batch) (verdict : Verdict) (trace : Journal) : Polled :=
  match verdict with
  | .yes => ⟨true, handler, trace⟩
  | .no => ⟨false, handler, trace⟩
  | .panic => ⟨false, handler, trace ++ handler.panicTrace batch⟩

/-- Ask a handler whether it supports the batch and nothing else. -/
def pollSupport (handler : Handler) (batch : Batch) : Polled :=
  handler.conclude batch (handler.supports batch) handler.askTrace

/-- Ask a handler whether it supports the batch and, if so, whether it is
enabled. -/
def poll (handler : Handler) (batch : Batch) : Polled :=
  match handler.supports batch with
  | .yes =>
      handler.isEnabled.2.conclude batch handler.isEnabled.1
        (handler.askTrace ++ handler.checkTrace)
  | verdict => handler.conclude batch verdict handler.askTrace

end Handler

/-- The outcome of a selection. -/
structure Selection where
  handlers : List Handler
  chosen : List HandlerRef
  trace : Journal

namespace Selection

/-- Ask the handlers in order, numbering them from `index`. -/
def among (batch : Batch) : Nat → List Handler → Selection
  | _, [] => ⟨[], [], []⟩
  | index, handler :: rest =>
      let polled := handler.poll batch
      let others := among batch (index + 1) rest
      ⟨polled.handler :: others.handlers,
        (if polled.chosen then [.registered index] else []) ++ others.chosen,
        polled.trace ++ others.trace⟩

/-- Choose handlers for a batch.  Asking the fallback does not change it. -/
def choose (handlers : List Handler) (fallback : Handler) (batch : Batch) : Selection :=
  let primary := among batch 0 handlers
  if primary.chosen.isEmpty then
    let polled := fallback.pollSupport batch
    { primary with
      chosen := if polled.chosen then [.fallback] else []
      trace := primary.trace ++ polled.trace }
  else primary

end Selection
end FailureDispatch

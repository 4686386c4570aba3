import FailureDispatch.Failure.Error

/-!
# Batches of failures

A batch is the unit of submission and of dispatch: a non-empty list of
failures of one type, in the order in which they were collected.  Both
conditions are proof fields, so no later stage has to check them again; what
has to be shown is that `Batch.ofFailures` refuses exactly the lists that
violate one of them.

The acknowledgement references of a batch are evaluated lazily.  A unit that
fails to answer spoils them only if its failure requires acknowledgement.
-/

namespace FailureDispatch

structure Batch where
  type : FailureType
  failures : List Failure
  nonempty : failures ≠ []
  uniform : ∀ failure ∈ failures, failure.type = type
  deriving DecidableEq

namespace Batch

/-- The first failure that does not belong to a batch of the given type. -/
def stranger? (type : FailureType) (failures : List Failure) : Option Failure :=
  failures.find? fun failure => failure.type != type

theorem stranger?_eq_none_iff (type : FailureType) (failures : List Failure) :
    stranger? type failures = none ↔ ∀ failure ∈ failures, failure.type = type := by
  simp [stranger?, List.find?_eq_none]

/-- Form a batch, or say why the failures do not form one. -/
def ofFailures (type : FailureType) (failures : List Failure) : Except FailureError Batch :=
  if nonempty : failures = [] then .error .emptyBatch
  else match found : stranger? type failures with
    | some stranger => .error (.mixedBatch type stranger.type)
    | none => .ok ⟨type, failures, nonempty, (stranger?_eq_none_iff type failures).mp found⟩

def size (batch : Batch) : Nat := batch.failures.length

/-- The identifiers of the failed units, in batch order. -/
def unitIds (batch : Batch) : List String := batch.failures.map (·.unit.id)

/-- Add the references of a list of units, in order, to the answer.  `none`
means that one of the units fails to answer. -/
def collectRefs : List FailedUnit → Option (List String)
  | [] => some []
  | unit :: rest =>
      match unit.ack with
      | .panic => none
      | .none => collectRefs rest
      | .ref reference => (collectRefs rest).map (reference :: ·)

/-- The references to acknowledge once the batch has been handled.  Only the
units whose failures require acknowledgement are asked. -/
def ackRefs (batch : Batch) : Option (List String) :=
  collectRefs ((batch.failures.filter (·.requiresAck)).map (·.unit))

end Batch

/-- A batch that is still to be formed. -/
structure Draft where
  type : FailureType
  failures : List Failure
  deriving DecidableEq, Repr

namespace Draft

def build (draft : Draft) : Except FailureError Batch :=
  Batch.ofFailures draft.type draft.failures

end Draft
end FailureDispatch

/-!
# Failures and the units they are about

A failure says that one unit of work could not be indexed or processed.  The
unit itself stays where it came from: a failure only carries its identifier
and, where the unit can be acknowledged, the reference to acknowledge it by.

Answering for that reference is an obligation of the unit, and a unit may
fail to meet it.  `AckAnswer.panic` records such a unit as data, so that
whoever asks decides what the fault costs.
-/

namespace FailureDispatch

/-- The two classes of failure.  A batch holds one class only, and handlers
choose batches by it. -/
inductive FailureType where
  | indexing
  | processing
  deriving DecidableEq, Repr

namespace FailureType

def text : FailureType → String
  | indexing => "indexing"
  | processing => "processing"

end FailureType

/-- What a unit answers when it is asked for its acknowledgement reference. -/
inductive AckAnswer where
  /-- The unit cannot be acknowledged, which is no error. -/
  | none
  | ref (reference : String)
  /-- The unit fails while it is being asked. -/
  | panic
  deriving DecidableEq, Repr

/-- The unit that a failure is about.  It can always tell its identifier, also where it
fails to tell a reference. -/
structure FailedUnit where
  id : String
  ack : AckAnswer
  deriving DecidableEq, Repr

namespace FailedUnit

/-- A unit that nobody can acknowledge, such as a raw payload. -/
def plain (id : String) : FailedUnit := ⟨id, .none⟩

end FailedUnit

/-- A message, which can be acknowledged once it has a place in a queue. -/
structure Message where
  id : String
  queueId : Option String := none
  deriving DecidableEq, Repr

namespace Message

/-- Place the message.  A later place replaces an earlier one. -/
def withQueueId (message : Message) (queueId : String) : Message :=
  { message with queueId := some queueId }

def ack (message : Message) : AckAnswer :=
  match message.queueId with
  | some queueId => .ref queueId
  | none => .none

def toUnit (message : Message) : FailedUnit := ⟨message.id, message.ack⟩

end Message

/-- One failure record. -/
structure Failure where
  type : FailureType
  /-- A label for the cause, such as the name of the error class. -/
  cause : String
  /-- What a person is told. -/
  message : String
  context : Option String := none
  /-- What the failed operation was aimed at, such as an index. -/
  target : Option String := none
  /-- Milliseconds since 1970, where the reporter gave a time. -/
  occurredAt : Option Int := none
  unit : FailedUnit
  /-- Whether the unit is to be acknowledged after successful handling. -/
  requiresAck : Bool := true
  deriving DecidableEq, Repr

end FailureDispatch

import FailureDispatch.Failure.Batch
import FailureDispatch.Handler.Script

/-!
# Handlers

A handler says which batches it supports, whether it is enabled, and what it
does with a batch.  Each of these may panic, and the panic is a value here.

Two conducts are provided.  The logging conduct supports every batch and
writes one warning per failure.  The scripted conduct follows a rule, an
optional switch and a script; without a switch it is enabled.
-/

namespace FailureDispatch

/-- An answer to a yes-or-no question that may fail to be given. -/
inductive Verdict where
  | yes
  | no
  | panic
  deriving DecidableEq, Repr

namespace Verdict

def ofBool : Bool → Verdict
  | true => yes
  | false => no

end Verdict

/-- Which batches a scripted handler supports: any answer to any batch.  The named
rules are those that scenarios are written with. -/
structure SupportRule where
  verdict : Batch → Verdict

namespace SupportRule

def all : SupportRule := ⟨fun _ => .yes⟩

def none : SupportRule := ⟨fun _ => .no⟩

def ofType (type : FailureType) : SupportRule := ⟨fun batch => .ofBool (batch.type == type)⟩

def panic : SupportRule := ⟨fun _ => .panic⟩

def minSize (size : Nat) : SupportRule := ⟨fun batch => .ofBool (decide (size ≤ batch.size))⟩

def firstUnit (id : String) : SupportRule :=
  ⟨fun batch => .ofBool (batch.unitIds.head? == some id)⟩

/-- Panic when the first unit has this identifier. -/
def panicOn (id : String) (otherwise : SupportRule) : SupportRule :=
  ⟨fun batch => if batch.unitIds.head? == some id then .panic else otherwise.verdict batch⟩

end SupportRule

inductive Conduct where
  | logging
  | scripted (rule : SupportRule) (switch : Option (Schedule Verdict)) (script : Script)

/-- A handler has its name for good, and telling it cannot fail.  The service relies on
that: it reads names outside of every guard, at its start, before a call and in its reports. -/
structure Handler where
  name : String
  conduct : Conduct

namespace Handler

/-- The handler that records failures in the log and calls that success. -/
def logging : Handler := ⟨"logging-fallback", .logging⟩

/-- Whether the handler supports the batch. -/
def supports (handler : Handler) (batch : Batch) : Verdict :=
  match handler.conduct with
  | .logging => .yes
  | .scripted rule _ _ => rule.verdict batch

/-- Whether the handler is enabled at this call, and the handler from then on. -/
def isEnabled (handler : Handler) : Verdict × Handler :=
  match handler.conduct with
  | .logging | .scripted _ none _ => (.yes, handler)
  | .scripted rule (some switch) script =>
      let (verdict, later) := switch.next .yes
      (verdict, { handler with conduct := .scripted rule (some later) script })

/-- The actions of this call, and the handler from then on. -/
def begin (handler : Handler) : List Action × Handler :=
  match handler.conduct with
  | .logging => ([], handler)
  | .scripted rule switch script =>
      let (actions, later) := script.next []
      (actions, { handler with conduct := .scripted rule switch later })

/-- Whether the calls of the handler are observed. -/
def isScripted (handler : Handler) : Bool :=
  match handler.conduct with
  | .logging => false
  | .scripted _ _ _ => true

/-- Whether the handler brings its own answer to being enabled. -/
def hasSwitch (handler : Handler) : Bool :=
  match handler.conduct with
  | .logging | .scripted _ none _ => false
  | .scripted _ (some _) _ => true

end Handler
end FailureDispatch

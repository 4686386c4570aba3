import FailureDispatch.Config.Settings
import FailureDispatch.Failure.Error

/-!
# Errors of an assembled application

The application wraps the errors of the parts that it is made of and adds two
of its own.
-/

namespace FailureDispatch

inductive AppError where
  | domain (error : FailureError)
  | config (error : ConfigError)
  | telemetry (reason : String)
  | handlerAlreadyRegistered (name : String)
  deriving DecidableEq, Repr

namespace AppError

def message : AppError → String
  | domain error => "domain: " ++ error.message
  | config error => "config: " ++ error.message
  | telemetry reason => "telemetry: " ++ reason
  | handlerAlreadyRegistered name => "handler already registered: handler=" ++ name

/-- The text of the wrapped error, where there is one. -/
def cause? : AppError → Option String
  | domain error => some error.message
  | config error => some error.message
  | telemetry _ | handlerAlreadyRegistered _ => none

end AppError
end FailureDispatch

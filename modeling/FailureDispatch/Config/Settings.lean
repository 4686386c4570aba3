import FailureDispatch.Text.Blank

/-!
# Configuration

The settings of an assembled service.  Any combination of values can be
written down; `Settings.validate` names the first one that a service could
not work with.  The order of its checks is part of its meaning, because only
one complaint is made.
-/

namespace FailureDispatch

/-- Why no usable configuration was obtained. -/
inductive ConfigError where
  | load (reason : String)
  /-- The text is not a configuration.  The wording of the reason belongs to
  whoever reads the text format, and is not kept. -/
  | parse
  | invalid (field reason : String)
  deriving DecidableEq, Repr

namespace ConfigError

def message : ConfigError → String
  | load reason => "could not load config from file: " ++ reason
  | parse => "could not parse config"
  | invalid field reason => "invalid config: " ++ field ++ " " ++ reason

/-- The text of the error underneath, where there is one. -/
def cause? : ConfigError → Option String
  | load reason => some reason
  | parse | invalid _ _ => none

end ConfigError

/-- The settings.  Times are in milliseconds, the capacity in batches. -/
structure Settings where
  shutdownAwait : Nat := 3000
  queueCapacity : Nat := 1000
  /-- The directives for the log filter. -/
  filter : String := "info"
  deriving DecidableEq, Repr

namespace Settings

/-- Accept the settings, or name the first one at fault: the capacity, then
the wait, then the filter. -/
def validate (settings : Settings) : Except ConfigError Unit :=
  if settings.queueCapacity = 0 then
    .error (.invalid "failure_handling.queue_capacity" "must be greater than 0")
  else if settings.shutdownAwait = 0 then
    .error (.invalid "failure_handling.shutdown_await_ms" "must be greater than 0")
  else if Text.isAllBlank settings.filter then
    .error (.invalid "logging.filter" "must not be empty")
  else .ok ()

end Settings
end FailureDispatch

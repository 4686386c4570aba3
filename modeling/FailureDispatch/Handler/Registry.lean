import FailureDispatch.Application.Error
import FailureDispatch.Handler.Basic
import FailureDispatch.Journal.Basic

/-!
# Handler registry

Handlers are registered under their names, in the order in which they are to
be asked.  A second handler of a name is refused and leaves the registry as
it was.  The fallback stands apart: it is replaced freely, and its name may
coincide with a registered one.
-/

namespace FailureDispatch

structure HandlerRegistry where
  handlers : List Handler := []
  fallback : Handler := .logging

namespace HandlerRegistry

def names (registry : HandlerRegistry) : List String := registry.handlers.map (·.name)

def contains (registry : HandlerRegistry) (name : String) : Bool :=
  registry.handlers.any fun handler => handler.name == name

def register (registry : HandlerRegistry) (handler : Handler) :
    Except AppError HandlerRegistry :=
  if registry.contains handler.name then .error (.handlerAlreadyRegistered handler.name)
  else .ok { registry with handlers := registry.handlers ++ [handler] }

/-- What a successful registration leaves in the journal. -/
def registrationTrace (handler : Handler) : Journal := [.logged (.registered handler.name)]

/-- Register handlers in order, up to the first that is refused. -/
def registerAll (registry : HandlerRegistry) : List Handler → Except AppError HandlerRegistry
  | [] => .ok registry
  | handler :: rest =>
      match registry.register handler with
      | .ok larger => larger.registerAll rest
      | .error error => .error error

def withFallback (registry : HandlerRegistry) (fallback : Handler) : HandlerRegistry :=
  { registry with fallback }

end HandlerRegistry
end FailureDispatch

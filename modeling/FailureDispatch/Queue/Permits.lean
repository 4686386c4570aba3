/-!
# Permits

A store of permits that serves those who wait for one in the order in which
they began to wait.  A released permit is not returned to the store while
somebody waits: it is granted to the first in line, who picks it up when next
asking.  In between, the permit belongs to nobody else, so a newcomer cannot
overtake.

Whoever stops waiting hands a permit that was already granted to the next in
line.  No permit is lost on the way.
-/

namespace FailureDispatch

structure Permits (ι : Type) where
  free : Nat
  /-- Those who wait, the first come first. -/
  line : List ι := []
  /-- Those who have been granted a permit and have not picked it up. -/
  granted : List ι := []
  deriving DecidableEq, Repr

namespace Permits

variable {ι : Type} [DecidableEq ι]

/-- Ask for a permit, or ask again.  Who gets none stands in line. -/
def ask (permits : Permits ι) (who : ι) : Bool × Permits ι :=
  if who ∈ permits.granted then
    (true, { permits with granted := permits.granted.erase who })
  else if who ∈ permits.line then (false, permits)
  else if 0 < permits.free then (true, { permits with free := permits.free - 1 })
  else (false, { permits with line := permits.line ++ [who] })

/-- Give permits back.  The answer lists those to whom one is granted. -/
def release (permits : Permits ι) (count : Nat) : List ι × Permits ι :=
  let served := permits.line.take count
  (served,
    { free := permits.free + (count - served.length)
      line := permits.line.drop count
      granted := permits.granted ++ served })

/-- Stop waiting.  A permit granted meanwhile goes to the next in line. -/
def leave (permits : Permits ι) (who : ι) : List ι × Permits ι :=
  if who ∈ permits.granted then
    release { permits with granted := permits.granted.erase who } 1
  else ([], { permits with line := permits.line.erase who })

/-- Nobody waits for a permit or has one to pick up. -/
def isQuiet (permits : Permits ι) : Bool := permits.line.isEmpty && permits.granted.isEmpty

end Permits
end FailureDispatch

import FailureDispatch.Deployment.Dispatch
import FailureDispatch.Proofs.Journal.Views

/-!
# The reference trace of dispatches

What the dispatch of a batch has to come to, said without turns, waits and
wake-ups.  A wait changes nothing about the way in which a call comes out, so
the reference performs all actions of a call at once, all calls of a batch one
after the other, and all batches one after the other.

The staff of a service is what its dispatches depend on and what they change:
every call uses up an entry of some script.  An `Account` is what a stretch of
work leaves in the journal together with the staff afterwards, and stretches
are put one after the other by `andThen`.

The entries themselves are written out here, for each conduct of a handler, and
are not those of the service.  So an entry that either side leaves out, or writes
about somebody else, makes the two differ.
-/

namespace FailureDispatch

/-! ## Entries -/

/-- Whether the entry is made at the beginning of a call of a handler.  Such a
call is announced if the handler is scripted, and the logging handler writes a
notice for each failure. -/
def Occurrence.isHanding : Occurrence → Bool
  | .handled _ _ | .logged (.failure _) => true
  | _ => false

namespace Handler

variable (handler : Handler) (batch : Batch)

/-- The question whether it supports a batch is seen of a scripted handler only. -/
def asking : Journal :=
  match handler.conduct with
  | .logging => []
  | .scripted _ _ _ => [.asked handler.name]

/-- Whether it is enabled is asked of nobody who has no switch. -/
def checking : Journal :=
  match handler.conduct with
  | .logging | .scripted _ none _ => []
  | .scripted _ (some _) _ => [.checked handler.name]

/-- The one line and the one count for a handler that panics over either question. -/
def passingOver : Journal :=
  [.logged (.selectionPanicked handler.name batch.type),
    .counted (.handlerFailures handler.name) 1]

/-- A scripted handler is given the units of the batch, in their order.  A logging one
writes a line for each failure. -/
def handing : Journal :=
  match handler.conduct with
  | .logging => batch.failures.map fun failure => .logged (.failure failure)
  | .scripted _ _ _ => [.handled handler.name (batch.failures.map fun failure => failure.unit.id)]

theorem askTrace_eq : handler.askTrace = handler.asking := by
  rcases handler with ⟨name, _ | _⟩ <;> rfl

theorem checkTrace_eq : handler.checkTrace = handler.checking := by
  rcases handler with ⟨name, _ | ⟨_, _ | _, _⟩⟩ <;> rfl

theorem panicTrace_eq : handler.panicTrace batch = handler.passingOver batch := rfl

theorem handleTrace_eq : Deployment.handleTrace handler batch = handler.handing batch := by
  rcases handler with ⟨name, _ | _⟩ <;> rfl

end Handler

/-! ## Accounts -/

/-- The collaborators of a service, as they stand between two calls. -/
structure Staff where
  handlers : List Handler
  fallback : Handler
  acknowledger : Script

/-- What a stretch of work leaves behind. -/
structure Account where
  trace : Journal
  staff : Staff

namespace Account

/-- The account of a stretch in which nothing happens. -/
def idle (staff : Staff) : Account := ⟨[], staff⟩

/-- Go on with the staff that the first stretch leaves. -/
def andThen (first : Account) (next : Staff → Account) : Account :=
  ⟨first.trace ++ (next first.staff).trace, (next first.staff).staff⟩

theorem idle_andThen (staff : Staff) (next : Staff → Account) :
    (idle staff).andThen next = next staff := rfl

theorem andThen_idle (first : Account) : first.andThen idle = first := by
  cases first
  simp only [andThen, idle, List.append_nil]

theorem andThen_assoc (first : Account) (next last : Staff → Account) :
    (first.andThen next).andThen last = first.andThen fun staff => (next staff).andThen last := by
  simp only [andThen, List.append_assoc]

end Account

/-- How actions come out once every wait among them is over. -/
def Action.conclude (name : String) : List Action → Conclusion
  | [] => .success
  | .proceed :: rest | .sleep _ :: rest | .pass _ :: rest => conclude name rest
  | .panic :: _ => .panic
  | .fail reason :: _ => .failure (.handler name reason)
  | .raise error :: _ => .failure error

namespace Staff

def handler? (staff : Staff) : HandlerRef → Option Handler
  | .registered index => staff.handlers[index]?
  | .fallback => some staff.fallback

def setHandler (staff : Staff) (ref : HandlerRef) (handler : Handler) : Staff :=
  match ref with
  | .registered index => { staff with handlers := staff.handlers.set index handler }
  | .fallback => { staff with fallback := handler }

/-- The call of a handler came to nothing. -/
def fault (staff : Staff) (batch : Batch) (name : String) (error : FailureError) : Account :=
  ⟨[.logged (.handlerFailed name batch.type batch.size error),
    .counted (.handlerFailures name) 1], staff⟩

/-- The acknowledger has come to an end.  Only its panic counts. -/
def afterAcknowledging (staff : Staff) (batch : Batch) (name : String) : Conclusion → Account
  | .panic => staff.fault batch name (.handlerPanicked name)
  | .success | .failure _ => .idle staff

/-- Acknowledge the units of a batch that a handler has dealt with. -/
def acknowledge (staff : Staff) (batch : Batch) (name : String) : Account :=
  match batch.ackRefs with
  | none => staff.fault batch name (.handlerPanicked name)
  | some refs =>
      let (actions, later) := staff.acknowledger.next []
      (Account.mk [.counted .unitsAcknowledged refs.length, .acknowledged refs]
        { staff with acknowledger := later }).andThen fun staff =>
          staff.afterAcknowledging batch name (Action.conclude name actions)

/-- The handler has come to an end.  Only its success is acknowledged. -/
def afterHandling (staff : Staff) (batch : Batch) (name : String) : Conclusion → Account
  | .success => staff.acknowledge batch name
  | .failure error => staff.fault batch name error
  | .panic => staff.fault batch name (.handlerPanicked name)

/-- The whole call of one handler, with the acknowledgement that follows. -/
def call (staff : Staff) (batch : Batch) (ref : HandlerRef) : Account :=
  match staff.handler? ref with
  | none => .idle staff
  | some handler =>
      let (actions, later) := handler.begin
      (Account.mk (handler.handing batch) (staff.setHandler ref later)).andThen
        fun staff => staff.afterHandling batch handler.name (Action.conclude handler.name actions)

/-- Call handlers one after the other, whatever becomes of each call. -/
def callAll (batch : Batch) : List HandlerRef → Staff → Account
  | [], staff => .idle staff
  | ref :: rest, staff => (staff.call batch ref).andThen (callAll batch rest)

/-- Call what is left of the chosen handlers and end the dispatch. -/
def callRest (batch : Batch) (refs : List HandlerRef) (staff : Staff) : Account :=
  (staff.callAll batch refs).andThen fun staff => ⟨[.dispatchEnded batch], staff⟩

/-- The dispatch of one batch from beginning to end: the choice of handlers,
then a call of each of them, or one notice if there is none. -/
def serve (staff : Staff) (batch : Batch) : Account :=
  let selection := Selection.choose staff.handlers staff.fallback batch
  let asked := { staff with handlers := selection.handlers }
  (Account.mk (.dispatchBegun batch :: selection.trace) asked).andThen fun staff =>
    if selection.chosen.isEmpty then
      ⟨[.logged (.discarded batch.type batch.size), .counted (.dropped batch.type) 1,
        .dispatchEnded batch], staff⟩
    else
      (Account.mk [.counted (.handled batch.type) 1] staff).andThen
        (callRest batch selection.chosen)

/-- The dispatches of batches, each beginning after the end of the one before. -/
def serveAll : List Batch → Staff → Account
  | [], staff => .idle staff
  | batch :: rest, staff => (staff.serve batch).andThen (serveAll rest)

theorem serveAll_append (earlier later : List Batch) (staff : Staff) :
    staff.serveAll (earlier ++ later) = (staff.serveAll earlier).andThen (serveAll later) := by
  induction earlier generalizing staff with
  | nil => rfl
  | cons batch rest inductionHypothesis =>
      simp only [List.cons_append, serveAll, Account.andThen_assoc]
      congr 1
      funext staff
      exact inductionHypothesis staff

theorem serveAll_concat (earlier : List Batch) (batch : Batch) (staff : Staff) :
    staff.serveAll (earlier ++ [batch]) =
      (staff.serveAll earlier).andThen fun staff => staff.serve batch := by
  rw [serveAll_append]
  congr 1
  funext staff
  exact Account.andThen_idle _

/-- The trace of the first few dispatches is the beginning of the whole trace. -/
theorem serveAll_prefix {earlier batches : List Batch} (first : earlier <+: batches)
    (staff : Staff) : (staff.serveAll earlier).trace <+: (staff.serveAll batches).trace := by
  rcases first with ⟨later, whole⟩
  rw [← whole, serveAll_append]
  exact List.prefix_append _ _

end Staff

namespace Service

def staff (service : Service) : Staff :=
  ⟨service.handlers, service.fallback, service.acknowledger⟩

def withStaff (service : Service) (staff : Staff) : Service :=
  { service with
    handlers := staff.handlers
    fallback := staff.fallback
    acknowledger := staff.acknowledger }

@[simp] theorem staff_withStaff (service : Service) (staff : Staff) :
    (service.withStaff staff).staff = staff := rfl

@[simp] theorem withStaff_staff (service : Service) : service.withStaff service.staff = service := rfl

@[simp] theorem withStaff_withStaff (service : Service) (first second : Staff) :
    (service.withStaff first).withStaff second = service.withStaff second := rfl

theorem handler?_staff (service : Service) (ref : HandlerRef) :
    service.staff.handler? ref = service.handler? ref := by
  cases ref <;> rfl

theorem setHandler_eq (service : Service) (ref : HandlerRef) (handler : Handler) :
    service.setHandler ref handler = service.withStaff (service.staff.setHandler ref handler) := by
  cases ref <;> rfl

end Service
end FailureDispatch

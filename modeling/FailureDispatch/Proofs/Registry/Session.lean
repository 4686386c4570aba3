import FailureDispatch.Handler.Registry

/-!
# Calls on a registry

A registry is changed by three calls.  `register` works in place: the caller has the
registry afterwards, whatever the answer.  The two others take the registry and give
one back, and `withHandler` gives none back when it refuses.  So a session ends with
the first refusal by `withHandler`; who made a copy before goes on with a session of
his own, which begins with the same calls.

Only a registration can be refused, and only because of the names that have been
registered before it.  The fallback is not among them.
-/

namespace FailureDispatch
namespace HandlerRegistry

/-- A call that may change a registry. -/
inductive Request where
  | register (handler : Handler)
  | withHandler (handler : Handler)
  | withFallback (fallback : Handler)

namespace Request

/-- The handler that is to be registered. -/
def candidate? : Request → Option Handler
  | register handler | withHandler handler => some handler
  | withFallback _ => none

/-- The handler that is to be the fallback. -/
def fallback? : Request → Option Handler
  | withFallback fallback => some fallback
  | register _ | withHandler _ => none

/-- Whether the caller keeps the registry when the call is refused. -/
def inPlace : Request → Bool
  | register _ => true
  | withHandler _ | withFallback _ => false

end Request

/-- The answer to a call, and the registry that the caller has afterwards. -/
def ask (registry : HandlerRegistry) (request : Request) :
    Except AppError Unit × Option HandlerRegistry :=
  match request with
  | .register handler | .withHandler handler =>
      match registry.register handler with
      | .ok larger => (.ok (), some larger)
      | .error error => (.error error, if request.inPlace then some registry else none)
  | .withFallback fallback => (.ok (), some (registry.withFallback fallback))

/-- The answers to calls, and the registry that the caller has after the last.  Without
a registry there is nothing to call. -/
def session (registry : HandlerRegistry) :
    List Request → List (Except AppError Unit) × Option HandlerRegistry
  | [] => ([], some registry)
  | request :: rest =>
      match registry.ask request with
      | (answer, some later) => (answer :: (later.session rest).1, (later.session rest).2)
      | (answer, none) => ([answer], none)

/-- The names whose registration was answered with success, in the order of the calls. -/
def admitted : List Request → List (Except AppError Unit) → List String
  | request :: requests, answer :: answers =>
      (match request.candidate?, answer with
        | some handler, .ok _ => [handler.name]
        | _, _ => []) ++ admitted requests answers
  | _, _ => []

/-! ## One call -/

section Calls

variable (registry : HandlerRegistry)

theorem contains_iff (name : String) :
    registry.contains name = true ↔ name ∈ registry.names := by
  simp [contains, names]

theorem register_eq (handler : Handler) :
    registry.register handler =
      if handler.name ∈ registry.names then .error (.handlerAlreadyRegistered handler.name)
      else .ok { registry with handlers := registry.handlers ++ [handler] } := by
  simp only [register, contains_iff]

variable {registry} {request : Request} {handler : Handler}

/-- A registration is refused for one reason only, and without effect. -/
theorem ask_of_mem (candidate : request.candidate? = some handler)
    (known : handler.name ∈ registry.names) :
    registry.ask request =
      (.error (.handlerAlreadyRegistered handler.name),
        if request.inPlace then some registry else none) := by
  cases request with
  | register other | withHandler other =>
      cases candidate
      simp only [ask, register_eq, if_pos known]
  | withFallback fallback => cases candidate

/-- A registration that is not refused adds the handler behind all others. -/
theorem ask_of_not_mem (candidate : request.candidate? = some handler)
    (new : handler.name ∉ registry.names) :
    registry.ask request =
      (.ok (), some { registry with handlers := registry.handlers ++ [handler] }) := by
  cases request with
  | register other | withHandler other =>
      cases candidate
      simp only [ask, register_eq, if_neg new]
  | withFallback fallback => cases candidate

/-- What a call leaves in the hands of the caller. -/
theorem ask_leaves {answer : Except AppError Unit} {later : HandlerRegistry}
    (asked : registry.ask request = (answer, some later)) :
    later.names = registry.names ++ admitted [request] [answer] ∧
      later.fallback = request.fallback?.getD registry.fallback ∧
      (registry.names.Nodup → later.names.Nodup) := by
  cases candidate : request.candidate? with
  | none =>
      cases request with
      | register _ | withHandler _ => cases candidate
      | withFallback fallback =>
          cases asked
          exact ⟨(List.append_nil _).symm, rfl, id⟩
  | some handler =>
      have other : request.fallback? = none := by
        cases request <;> first | rfl | cases candidate
      by_cases known : handler.name ∈ registry.names
      · rw [ask_of_mem candidate known] at asked
        cases kept : request.inPlace with
        | false =>
            rw [kept] at asked
            cases asked
        | true =>
            rw [kept] at asked
            cases asked
            simp [admitted, candidate, other]
      · rw [ask_of_not_mem candidate known] at asked
        cases asked
        refine ⟨by simp [names, admitted, candidate], by rw [other]; rfl, ?_⟩
        intro distinct
        have apart : ∀ name ∈ registry.names, ∀ other ∈ [handler.name], name ≠ other := by
          intro name member other single same
          rw [List.mem_singleton.mp single] at same
          exact known (same ▸ member)
        have larger := List.nodup_append.mpr ⟨distinct, by simp, apart⟩
        simpa [names] using larger

end Calls

/-! ## Sessions -/

/-- What the calls of a session leave in the hands of the caller. -/
theorem session_leaves {registry later : HandlerRegistry} {requests : List Request}
    {answers : List (Except AppError Unit)}
    (held : registry.session requests = (answers, some later)) :
    later.names = registry.names ++ admitted requests answers ∧
      later.fallback = (requests.filterMap Request.fallback?).getLastD registry.fallback ∧
      (registry.names.Nodup → later.names.Nodup) := by
  induction requests generalizing registry answers with
  | nil =>
      cases held
      exact ⟨(List.append_nil _).symm, rfl, id⟩
  | cons request rest inductionHypothesis =>
      unfold session at held
      split at held
      · next answer middle asked =>
        rw [Prod.mk.injEq] at held
        rcases held with ⟨rfl, remaining⟩
        have further : middle.session rest = ((middle.session rest).1, some later) :=
          Prod.ext rfl remaining
        rcases ask_leaves asked with ⟨names, fallback, distinct⟩
        rcases inductionHypothesis further with ⟨laterNames, laterFallback, laterDistinct⟩
        refine ⟨?_, ?_, laterDistinct ∘ distinct⟩
        · rw [laterNames, names, List.append_assoc]
          simp only [admitted, List.append_nil]
        · rw [laterFallback, fallback, List.filterMap_cons]
          cases request.fallback? with
          | none => rfl
          | some replacement => exact List.getLastD_cons.symm
      · cases held

end HandlerRegistry
end FailureDispatch

import FailureDispatch.Proofs.Dispatch.Order
import FailureDispatch.Proofs.Dispatch.Upkeep
import FailureDispatch.Proofs.Drain.Completeness
import FailureDispatch.Proofs.Registry.Session

/-!
# From the registry to the calls

A runtime takes the handlers over from the registry, in their order, and its service
keeps them under their names and in their places for good.  Hence what the registry
guarantees about names reaches every dispatch: whoever is called for a batch is called
once, and the called ones stand in the order of their registration.

Which handlers match is found out anew for each batch, because a switch may answer
differently each time.  So the calls for a batch are those of the staff as the
dispatches before it have left it.  When nobody matches, the fallback is not called
regardless: it is asked whether it supports the batch, and if it does not, the batch is
discarded.
-/

namespace FailureDispatch

/-! ## The calls in a journal -/

namespace Journal

/-- The calls of handlers: an entry with its units for each call of a scripted handler, and a
line for each failure that a logging one is given. -/
def calls (journal : Journal) : Journal := journal.filter Occurrence.isHanding

theorem calls_append (first second : Journal) :
    calls (first ++ second) = calls first ++ calls second :=
  List.filter_append first second

/-- Questions are no calls. -/
theorem Questions.calls_eq {trace : Journal} (questions : trace.Questions) : trace.calls = [] := by
  apply List.filter_eq_nil_iff.mpr
  intro entry member
  have selected := questions entry member
  cases entry with
  | logged notice => cases notice <;> first | exact Bool.false_ne_true | cases selected
  | _ => first | exact Bool.false_ne_true | cases selected

end Journal

namespace Handler

variable (handler : Handler) (batch : Batch)

/-- All that a handler leaves at the beginning of its call shows the call. -/
theorem calls_handing : Journal.calls (handler.handing batch) = handler.handing batch := by
  apply List.filter_eq_self.mpr
  intro entry member
  unfold handing at member
  split at member
  · rcases List.mem_map.mp member with ⟨failure, _, same⟩
    rw [← same]
    rfl
  · rw [List.mem_singleton.mp member]
    rfl

/-- What follows shows no further call. -/
theorem calls_callTrace (reaction : Conclusion) :
    Journal.calls (handler.callTrace batch reaction) = handler.handing batch := by
  unfold callTrace
  rw [Journal.calls_append, calls_handing]
  cases handler.verdict with
  | failure error => exact List.append_nil _
  | panic => exact List.append_nil _
  | success =>
      cases batch.ackRefs with
      | none => exact List.append_nil _
      | some refs =>
          dsimp only
          rw [Journal.calls_append]
          split <;> exact List.append_nil _

end Handler

namespace Staff

theorem calls_callsTrace (batch : Batch) (called : List Handler) (acknowledger : Script) :
    Journal.calls (callsTrace batch called acknowledger) = called.flatMap (·.handing batch) := by
  induction called generalizing acknowledger with
  | nil => rfl
  | cons handler rest inductionHypothesis =>
      simp only [callsTrace, Journal.calls_append, Handler.calls_callTrace, inductionHypothesis,
        List.flatMap_cons]

/-- Nothing but questions is asked before a dispatch calls anybody. -/
theorem questions_questions (staff : Staff) (batch : Batch) :
    Journal.Questions (staff.questions batch) := by
  rw [← (staff.choose_eq batch).1]
  exact Deployment.questions_choose staff.handlers staff.fallback batch

/-- A dispatch calls whom it has selected. -/
theorem calls_dispatchTrace (staff : Staff) (batch : Batch) :
    Journal.calls (staff.dispatchTrace batch) =
      (staff.selected batch).flatMap (·.handing batch) := by
  have asked := (staff.questions_questions batch).calls_eq
  have opening (rest : Journal) : Journal.calls (.dispatchBegun batch :: rest) = rest.calls := rfl
  have ending : Journal.calls [.dispatchEnded batch] = [] := rfl
  unfold dispatchTrace
  rw [opening, Journal.calls_append, Journal.calls_append, asked, ending, List.append_nil,
    List.nil_append]
  split
  · next nobody => rw [nobody]; rfl
  · exact calls_callsTrace batch _ _

/-! ## Whom a staff calls -/

/-- Somebody among the registered handlers matches the batch: supports it, is enabled, and
does not panic over either question. -/
def Matched (staff : Staff) (batch : Batch) : Prop :=
  ∃ handler ∈ staff.handlers, handler.suits batch = true

theorem primary_eq_nil_iff (staff : Staff) (batch : Batch) :
    staff.primary batch = [] ↔ ¬ staff.Matched batch := by
  simp [primary, Matched, List.filter_eq_nil_iff]

/-- Whom a staff that has come from a registry calls for a batch, and how the trace of the
dispatch shows it. -/
structure CallsFromRegistry (registry : HandlerRegistry) (staff : Staff) (batch : Batch)
    (called : List Handler) (trace : Journal) : Prop where
  roster : staff.handlers.map (·.name) = registry.names
  fallback : staff.fallback.name = registry.fallback.name
  /-- All that match, and nobody else. -/
  matching : staff.Matched batch → called = staff.handlers.filter (·.suits batch)
  /-- The fallback stands in for them all, alone. -/
  alone : ¬ staff.Matched batch → staff.fallback.supports batch = .yes →
    called = [staff.fallback]
  /-- A fallback that does not support the batch is not called either. -/
  nobody : ¬ staff.Matched batch → staff.fallback.supports batch ≠ .yes → called = []
  once : (called.map (·.name)).Nodup
  inOrder : staff.Matched batch → (called.map (·.name)).Sublist registry.names
  /-- Their calls follow each other, and there is no other call. -/
  shown : trace.calls = called.flatMap (·.handing batch)

/-- What a registry says about names reaches the dispatches of a staff that has the same
names. -/
theorem callsFromRegistry {registry : HandlerRegistry} {staff : Staff}
    (roster : staff.handlers.map (·.name) = registry.names)
    (fallback : staff.fallback.name = registry.fallback.name)
    (distinct : registry.names.Nodup) (batch : Batch) :
    staff.CallsFromRegistry registry batch (staff.selected batch)
      (staff.dispatchTrace batch) := by
  have primary (matched : staff.Matched batch) :
      staff.selected batch = staff.handlers.filter (·.suits batch) := by
    have filled : staff.primary batch ≠ [] :=
      fun none => (staff.primary_eq_nil_iff batch).mp none matched
    unfold selected
    rw [if_neg filled]
    rfl
  have inOrder (matched : staff.Matched batch) :
      ((staff.selected batch).map (·.name)).Sublist registry.names := by
    rw [primary matched, ← roster]
    exact List.filter_sublist.map _
  have unmatched (nobody : ¬ staff.Matched batch) : staff.selected batch =
      if staff.fallback.supports batch = .yes then [staff.fallback] else [] := by
    unfold selected
    rw [if_pos ((staff.primary_eq_nil_iff batch).mpr nobody)]
  refine ⟨roster, fallback, primary, ?_, ?_, ?_, inOrder, staff.calls_dispatchTrace batch⟩
  · intro nobody supports
    rw [unmatched nobody, if_pos supports]
  · intro nobody refuses
    rw [unmatched nobody, if_neg refuses]
  · by_cases matched : staff.Matched batch
    · exact (inOrder matched).nodup distinct
    · rw [unmatched matched]
      split <;> simp

end Staff

namespace Deployment

/-! ## The part of the journal that belongs to one dispatch -/

/-- The dispatches of a service leave one part of the journal for each batch, and only the
last part may lack something, while its batch is in hand. -/
theorem InOrder.part {staff : Staff} {reached : Deployment} (inOrder : reached.InOrder staff)
    {earlier later : List Batch} {batch : Batch}
    (begun : reached.journal.begun = earlier ++ batch :: later) :
    ∃ part rest, reached.journal.dispatches =
        (staff.serveAll earlier).trace ++ part ++ rest ∧
      part <+: (staff.serveAll earlier).staff.dispatchTrace batch ∧
      (part = (staff.serveAll earlier).staff.dispatchTrace batch ∨
        rest = [] ∧ later = [] ∧ ∃ phase dispatch,
          reached.service.worker = .dispatching phase dispatch ∧ dispatch.batch = batch) := by
  -- The parts of a list of batches that are complete.
  have complete (later : List Batch) : (staff.serveAll (earlier ++ batch :: later)).trace =
      (staff.serveAll earlier).trace ++ (staff.serveAll earlier).staff.dispatchTrace batch ++
        ((staff.serveAll (earlier ++ [batch])).staff.serveAll later).trace := by
    rw [← Staff.trace_serve]
    have split : earlier ++ batch :: later = (earlier ++ [batch]) ++ later := by simp
    rw [split, Staff.serveAll_append, Staff.serveAll_concat]
    rfl
  have standing : Standing staff reached.journal.begun
      ⟨reached.journal.dispatches, reached.service.staff⟩ reached.service.worker := inOrder
  rw [begun] at standing
  generalize stood : earlier ++ batch :: later = batches at standing
  generalize told : Account.mk reached.journal.dispatches reached.service.staff = account
    at standing
  have trace := congrArg Account.trace told
  generalize placed : reached.service.worker = worker at standing
  cases standing with
  | between _ =>
      rw [← stood] at trace
      exact ⟨_, _, trace.trans (complete later), List.prefix_rfl, Or.inl rfl⟩
  | @within before part phase dispatch total =>
      have prefixed : part.trace <+: (staff.serveAll before).staff.dispatchTrace dispatch.batch := by
        rw [← Staff.trace_serve, ← total]
        exact List.prefix_append _ _
      rcases List.eq_nil_or_concat later with last | ⟨between, final, split⟩
      · rw [last] at stood
        rcases List.append_inj' stood rfl with ⟨same, single⟩
        cases same
        cases single
        exact ⟨part.trace, [], trace.trans (List.append_nil _).symm, prefixed,
          Or.inr ⟨rfl, last, phase, dispatch, rfl, rfl⟩⟩
      · have regrouped : earlier ++ batch :: between ++ [final] = before ++ [dispatch.batch] := by
          rw [← stood, split, List.concat_eq_append, List.append_assoc, List.cons_append]
        rcases List.append_inj' regrouped rfl with ⟨same, _⟩
        rw [← same] at trace
        refine ⟨_, (Staff.serveAll between (staff.serveAll (earlier ++ [batch])).staff).trace ++
          part.trace, trace.trans ?_, List.prefix_rfl, Or.inl rfl⟩
        simp only [Account.andThen, complete between, List.append_assoc]

section Assembled

variable {settings : Settings} {registry : HandlerRegistry} {acknowledger : Script}
  {origin : Deployment} (made : assemble settings registry acknowledger = .ok origin)
include made

/-- A runtime is on course from its beginning, and nobody has called it yet. -/
theorem onCourse_of_assemble : origin.OnCourse ∧ Numbered 0 origin := by
  rcases eq_of_assemble made with ⟨waits, same⟩
  rcases (unstarted_prepared settings registry acknowledger).announced waits settings with
    ⟨hosted, _, numbered⟩
  rw [← same] at hosted numbered
  rcases hosted.supervised with ⟨_, supervised⟩
  exact ⟨supervised.undisturbed.sound, numbered⟩

/-- The dispatches of a runtime are those of the registry's handlers, whatever happens to
the runtime. -/
theorem inOrder_of_reaches {reached : Deployment} (further : Reaches true origin reached) :
    reached.InOrder ⟨registry.handlers, registry.fallback, acknowledger⟩ := by
  rcases eq_of_assemble made with ⟨waits, same⟩
  have unstarted := unstarted_prepared settings registry acknowledger
  rcases unstarted.announced waits settings with ⟨_, reaches, _⟩
  rw [← same] at reaches
  have inOrder : origin.InOrder (prepared settings registry acknowledger).service.staff :=
    reaches_inOrder unstarted reaches
  exact inOrder.reaches (onCourse_of_assemble made).1 further

/-- Every run of a runtime is reached from it. -/
theorem reaches_of_assemble (steps : List (Option Step)) :
    Reaches true origin (origin.run 0 steps).2 := by
  rcases onCourse_of_assemble made with ⟨sound, numbered⟩
  exact reaches_run sound numbered steps fun _ _ _ => rfl

end Assembled

end Deployment

namespace HandlerRegistry

open Deployment

/-- What a registry says about the session that it has come from, and about every further
call. -/
structure Records (registry : HandlerRegistry) (requests : List Request)
    (answers : List (Except AppError Unit)) : Prop where
  distinct : registry.names.Nodup
  names : registry.names = admitted requests answers
  contains : ∀ name, registry.contains name = true ↔ name ∈ registry.names
  fallback : registry.fallback = (requests.filterMap Request.fallback?).getLastD .logging
  refuses : ∀ request handler, request.candidate? = some handler → ∀ error,
    (registry.ask request).1 = .error error ↔
      handler.name ∈ registry.names ∧ error = .handlerAlreadyRegistered handler.name
  unchanged : ∀ handler error, (registry.ask (.register handler)).1 = .error error →
    (registry.ask (.register handler)).2 = some registry
  replaces : ∀ fallback,
    registry.ask (.withFallback fallback) = (.ok (), some { registry with fallback })

theorem records_of_session {requests : List Request} {answers : List (Except AppError Unit)}
    {registry : HandlerRegistry}
    (held : session {} requests = (answers, some registry)) :
    registry.Records requests answers := by
  rcases session_leaves held with ⟨names, fallback, distinct⟩
  refine ⟨distinct .nil, names, registry.contains_iff, fallback, ?_, ?_, fun _ => rfl⟩
  · intro request handler candidate error
    by_cases known : handler.name ∈ registry.names
    · rw [ask_of_mem candidate known]
      simp [known, eq_comm]
    · rw [ask_of_not_mem candidate known]
      simp [known]
  · intro handler error refused
    by_cases known : handler.name ∈ registry.names
    · rw [ask_of_mem rfl known]
      rfl
    · rw [ask_of_not_mem rfl known] at refused
      cases refused

/-- What the calls on a registry have come to is carried to every dispatch of a runtime that
is started from it.  The names of its handlers are distinct and tell which registrations
succeeded; and for each batch whose dispatch has begun, whatever has happened to the runtime,
the part of the journal that belongs to that dispatch shows the calls of the registered
handlers that match, each once and in the order of registration, or that of the fallback alone
if nobody matches and it supports the batch.  Only the last part may lack its end, while the
batch is in hand. -/
theorem session_carried_to_dispatch {requests : List Request}
    {answers : List (Except AppError Unit)} {registry : HandlerRegistry}
    (held : session {} requests = (answers, some registry)) :
    registry.Records requests answers ∧
      ∀ settings acknowledger origin, assemble settings registry acknowledger = .ok origin →
        ∀ reached, Reaches true origin reached → ∀ earlier batch later,
          reached.journal.begun = earlier ++ batch :: later →
          ∃ staff called part rest,
            staff = (Staff.serveAll earlier
              ⟨registry.handlers, registry.fallback, acknowledger⟩).staff ∧
            staff.CallsFromRegistry registry batch called (staff.dispatchTrace batch) ∧
            reached.journal.dispatches =
              (Staff.serveAll earlier
                ⟨registry.handlers, registry.fallback, acknowledger⟩).trace ++ part ++ rest ∧
            part <+: staff.dispatchTrace batch ∧
            (part = staff.dispatchTrace batch ∨ rest = [] ∧ later = [] ∧ ∃ phase dispatch,
              reached.service.worker = .dispatching phase dispatch ∧ dispatch.batch = batch) := by
  have records := records_of_session held
  refine ⟨records, ?_⟩
  intro settings acknowledger origin made reached reaches earlier batch later begun
  rcases (inOrder_of_reaches made reaches).part begun with ⟨part, rest, whole, prefixed, ends⟩
  rcases Staff.names_serveAll earlier
    ⟨registry.handlers, registry.fallback, acknowledger⟩ with ⟨roster, fallback⟩
  exact ⟨_, _, part, rest, rfl,
    Staff.callsFromRegistry roster fallback records.distinct batch, whole, prefixed, ends⟩

/-! ## Two sessions -/

/-- A batch of one failure, formed. -/
def formed : Batch :=
  ⟨.indexing, Draft.single.failures, List.cons_ne_nil _ _, by decide⟩

/-- A handler that supports no batch. -/
def picky : Handler := ⟨"picky", .scripted .none none ⟨[]⟩⟩

/-- Three handlers are registered, and a fourth is refused because of its name.  The
fallback may have the name of a registered handler. -/
def furnished : List Request :=
  [.register ⟨"keen", .scripted .all none ⟨[]⟩⟩, .withHandler picky, .register ⟨"keen", .logging⟩,
    .register ⟨"moody", .scripted .all (some ⟨[.yes, .no]⟩) ⟨[]⟩⟩, .withFallback picky]

/-- The registry that a session has come to. -/
def outcome (requests : List Request) : HandlerRegistry :=
  (session {} requests).2.getD {}

/-- A runtime that is started from a registry, with the default settings. -/
def runtimeOf (registry : HandlerRegistry) : Deployment :=
  (assemble {} registry ⟨[]⟩).toOption.getD narrow

/-- Two batches are dispatched. -/
def twice : List (Option Step) :=
  [some (.trySubmit .single), some (.trySubmit .single), some .settle]

/-- Of the registered handlers one never matches, and one matches the first batch only. -/
theorem session_carried_to_dispatch_furnished :
    (session {} furnished).2 = some (outcome furnished) ∧
      (outcome furnished).names = ["keen", "picky", "moody"] ∧
      assemble {} (outcome furnished) ⟨[]⟩ = .ok (runtimeOf (outcome furnished)) ∧
      ((runtimeOf (outcome furnished)).run 0 twice).2.journal.begun = [formed, formed] ∧
      ((runtimeOf (outcome furnished)).run 0 twice).2.journal.calls =
        [.handled "keen" ["1"], .handled "moody" ["1"], .handled "keen" ["1"]] ∧
      ∃ staff called,
        Staff.CallsFromRegistry (outcome furnished) staff formed called
          (staff.dispatchTrace formed) ∧
        called.map (·.name) = ["keen"] := by
  have held : session {} furnished = ((session {} furnished).1, some (outcome furnished)) := by rfl
  have made : assemble {} (outcome furnished) ⟨[]⟩ = .ok (runtimeOf (outcome furnished)) := by rfl
  have begun : ((runtimeOf (outcome furnished)).run 0 twice).2.journal.begun =
      [formed] ++ formed :: [] := by decide +kernel
  rcases session_carried_to_dispatch held with ⟨_, dispatches⟩
  have reaches := reaches_of_assemble made twice
  rcases dispatches {} ⟨[]⟩ _ made _ reaches [formed] formed [] begun with
    ⟨staff, called, _, _, same, calls, _⟩
  have matched : staff.Matched formed := by
    rw [same]
    unfold Staff.Matched
    decide +kernel
  refine ⟨congrArg Prod.snd held, by decide +kernel, made, begun, by decide +kernel, staff, called,
    calls, ?_⟩
  rw [calls.matching matched, same]
  decide +kernel

/-- The fallback is not called for whatever nobody else matches: no handler is registered,
one batch is dispatched to its end, and nobody has been called. -/
theorem fallback_not_called :
    session {} [.withFallback picky] = ([.ok ()], some (outcome [.withFallback picky])) ∧
      assemble {} (outcome [.withFallback picky]) ⟨[]⟩ =
        .ok (runtimeOf (outcome [.withFallback picky])) ∧
      (outcome [.withFallback picky]).names = [] ∧
      (outcome [.withFallback picky]).fallback = picky ∧
      ((runtimeOf (outcome [.withFallback picky])).run 0
        [some (.trySubmit .single), some .settle]).2.journal.begun = [formed] ∧
      ((runtimeOf (outcome [.withFallback picky])).run 0
        [some (.trySubmit .single), some .settle]).2.service.worker.isFree = true ∧
      ((runtimeOf (outcome [.withFallback picky])).run 0
        [some (.trySubmit .single), some .settle]).2.journal.calls = [] := by
  have made : assemble {} (outcome [.withFallback picky]) ⟨[]⟩ =
      .ok (runtimeOf (outcome [.withFallback picky])) := by rfl
  refine ⟨by rfl, made, by rfl, by rfl, ?_, ?_, ?_⟩ <;> decide +kernel

end HandlerRegistry
end FailureDispatch

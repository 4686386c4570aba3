import FailureDispatch.Proofs.Dispatch.Trace

/-!
# What a dispatch makes of the staff

A dispatch uses up entries of scripts and does nothing else to the staff.  Every
registered handler is asked, and each chosen one is called, so what becomes of a
registered handler depends on that handler and on the batch alone (`Handler.after`).
The fallback is called only when it stands in for them all.  The acknowledger is the
one collaborator that the others share: it loses an entry for each call that gets as
far as it, whoever was called.

No handler changes its name or its place.
-/

namespace FailureDispatch

namespace Handler

/-- What the dispatch of a batch makes of a registered handler. -/
def after (handler : Handler) (batch : Batch) : Handler :=
  if handler.suits batch then (handler.poll batch).handler.begin.2
  else (handler.poll batch).handler

theorem name_poll (handler : Handler) (batch : Batch) :
    (handler.poll batch).handler.name = handler.name :=
  (handler.poll_eq batch).2.2.name

theorem name_after (handler : Handler) (batch : Batch) :
    (handler.after batch).name = handler.name := by
  unfold after
  split
  · rw [name_begin, name_poll]
  · exact handler.name_poll batch

end Handler

/-- What is left of an acknowledger's script after so many acknowledgements. -/
def Script.after (script : Script) : Nat → Script
  | 0 => script
  | calls + 1 => Script.after (script.next []).2 calls

namespace Selection

/-- A selection puts every handler in the state in which its questions leave it. -/
theorem handlers_among (batch : Batch) (index : Nat) (handlers : List Handler) :
    (among batch index handlers).handlers =
      handlers.map fun handler => (handler.poll batch).handler := by
  induction handlers generalizing index with
  | nil => rfl
  | cons handler rest inductionHypothesis =>
      exact congrArg (List.cons _) (inductionHypothesis (index + 1))

theorem handlers_choose (handlers : List Handler) (fallback : Handler) (batch : Batch) :
    (choose handlers fallback batch).handlers =
      handlers.map fun handler => (handler.poll batch).handler := by
  rw [← handlers_among batch 0]
  unfold choose
  dsimp only
  split <;> rfl

theorem mem_among {batch : Batch} {index : Nat} {handlers : List Handler} {ref : HandlerRef} :
    ref ∈ (among batch index handlers).chosen ↔
      ∃ offset handler, ref = .registered (index + offset) ∧
        handlers[offset]? = some handler ∧ handler.suits batch = true := by
  induction handlers generalizing index with
  | nil =>
      refine ⟨nofun, ?_⟩
      rintro ⟨_, _, _, absent, _⟩
      cases absent
  | cons handler rest inductionHypothesis =>
      have first : ref ∈ (if (handler.poll batch).chosen then [HandlerRef.registered index]
          else []) ↔ ref = .registered index ∧ handler.suits batch = true := by
        rw [(handler.poll_eq batch).2.1]
        cases handler.suits batch <;> simp
      simp only [among, List.mem_append, first, inductionHypothesis]
      constructor
      · rintro (⟨here, suits⟩ | ⟨offset, other, there, known, suits⟩)
        · exact ⟨0, handler, here, rfl, suits⟩
        · refine ⟨offset + 1, other, ?_, known, suits⟩
          rw [there, Nat.add_assoc, Nat.add_comm 1]
      · rintro ⟨_ | offset, other, place, known, suits⟩
        · cases known
          exact Or.inl ⟨place, suits⟩
        · refine Or.inr ⟨offset, other, ?_, known, suits⟩
          rw [place, Nat.add_assoc, Nat.add_comm 1]

end Selection

namespace Staff

/-- Whether the fallback stands in for all registered handlers. -/
def fallsBack (staff : Staff) (batch : Batch) : Bool :=
  decide (staff.primary batch = [] ∧ staff.fallback.supports batch = .yes)

section Choice

variable (staff : Staff) (batch : Batch)

theorem isEmpty_among :
    (Selection.among batch 0 staff.handlers).chosen.isEmpty = true ↔ staff.primary batch = [] := by
  rcases among_eq batch 0 staff.handlers with ⟨_, placed, refs, suited, _, _⟩
  rw [primary, refs, suited, List.isEmpty_iff, List.map_eq_nil_iff, List.map_eq_nil_iff]

/-- The registered handlers that are chosen are those that suit the batch, in their
places. -/
theorem registered_mem_choose {place : Nat} :
    .registered place ∈ (Selection.choose staff.handlers staff.fallback batch).chosen ↔
      ∃ handler, staff.handlers[place]? = some handler ∧ handler.suits batch = true := by
  have among : .registered place ∈ (Selection.among batch 0 staff.handlers).chosen ↔
      ∃ handler, staff.handlers[place]? = some handler ∧ handler.suits batch = true := by
    simp [Selection.mem_among]
  rw [← among]
  unfold Selection.choose
  dsimp only
  split
  · next nobody =>
    rw [List.isEmpty_iff.mp nobody]
    split <;> simp
  · exact Iff.rfl

theorem fallback_mem_choose :
    .fallback ∈ (Selection.choose staff.handlers staff.fallback batch).chosen ↔
      staff.fallsBack batch = true := by
  rcases staff.fallback.pollSupport_eq batch with ⟨_, chosen⟩
  have empty := staff.isEmpty_among batch
  unfold Selection.choose fallsBack
  dsimp only
  split
  · next nobody => simp [chosen, empty.mp nobody]
  · next somebody =>
    have absent : .fallback ∉ (Selection.among batch 0 staff.handlers).chosen := by
      intro member
      rcases Selection.mem_among.mp member with ⟨_, _, impossible, _, _⟩
      cases impossible
    have filled : staff.primary batch ≠ [] := fun none => somebody (empty.mpr none)
    simp [absent, filled]

/-- If no registered handler suits the batch, it is up to the fallback. -/
theorem chosen_of_nobody (nobody : staff.primary batch = []) :
    (Selection.choose staff.handlers staff.fallback batch).chosen =
      if staff.fallback.supports batch = .yes then [.fallback] else [] := by
  rcases staff.fallback.pollSupport_eq batch with ⟨_, chosen⟩
  simp [Selection.choose, (staff.isEmpty_among batch).mpr nobody, chosen]

/-- If some registered handler suits the batch, somebody is chosen, and never the
fallback. -/
theorem chosen_of_somebody (somebody : staff.primary batch ≠ []) :
    (Selection.choose staff.handlers staff.fallback batch).chosen ≠ [] ∧
      ∀ ref ∈ (Selection.choose staff.handlers staff.fallback batch).chosen,
        ref ≠ .fallback := by
  refine ⟨?_, ?_⟩
  · rcases List.exists_mem_of_ne_nil _ somebody with ⟨handler, member⟩
    rcases List.mem_filter.mp member with ⟨known, suits⟩
    rcases List.getElem?_of_mem known with ⟨place, there⟩
    exact List.ne_nil_of_mem ((staff.registered_mem_choose batch).mpr ⟨handler, there, suits⟩)
  · intro ref member fallback
    rw [fallback, fallback_mem_choose] at member
    exact somebody (of_decide_eq_true member).1

end Choice

section Calls

variable {staff : Staff}

/-- The calls of handlers in different places change these handlers, and the
acknowledger once for each call that gets as far as it. -/
theorem staff_callAll (batch : Batch) {placed : List (HandlerRef × Handler)}
    (apart : (placed.map Prod.fst).Nodup)
    (found : ∀ entry ∈ placed, staff.Finds entry.1 entry.2) :
    (∀ ref, (staff.callAll batch (placed.map Prod.fst)).staff.handler? ref =
        if ref ∈ placed.map Prod.fst then (staff.handler? ref).map (·.begin.2)
        else staff.handler? ref) ∧
      (staff.callAll batch (placed.map Prod.fst)).staff.acknowledger =
        Script.after staff.acknowledger
          ((placed.map Prod.snd).countP (·.acknowledges batch)) := by
  induction placed generalizing staff with
  | nil =>
      refine ⟨fun ref => ?_, rfl⟩
      simp [callAll, Account.idle]
  | cons entry rest inductionHypothesis =>
      rcases List.nodup_cons.mp apart with ⟨absent, apartLater⟩
      rcases found entry List.mem_cons_self with ⟨present, known, alike⟩
      have called := call_eq known batch
      have others (ref : HandlerRef) (different : ref ≠ entry.1) :
          (staff.call batch entry.1).staff.handler? ref = staff.handler? ref := by
        rw [called]
        have kept : (staff.setHandler entry.1 present.begin.2).handler? ref = staff.handler? ref :=
          handler?_setHandler_of_ne different _
        cases ref <;> exact kept
      have own : (staff.call batch entry.1).staff.handler? entry.1 = some present.begin.2 := by
        rw [called]
        have set := handler?_setHandler known present.begin.2
        generalize entry.1 = ref at set ⊢
        cases ref <;> exact set
      have foundLater : ∀ later ∈ rest,
          (staff.call batch entry.1).staff.Finds later.1 later.2 := by
        intro later member
        have different : later.1 ≠ entry.1 := by
          intro same
          exact absent (same ▸ List.mem_map_of_mem member)
        rw [called]
        exact (found later (List.mem_cons_of_mem _ member)).of_ne different _ _
      rcases inductionHypothesis apartLater foundLater with ⟨handlers, acknowledger⟩
      refine ⟨fun ref => ?_, ?_⟩
      · simp only [List.map_cons, callAll, Account.andThen, handlers, List.mem_cons]
        by_cases here : ref = entry.1
        · rw [here, if_neg absent, if_pos (Or.inl rfl), own, known, Option.map_some]
        · rw [others ref here]
          simp only [here, false_or]
      · simp only [List.map_cons, callAll, Account.andThen, acknowledger, List.countP_cons]
        rw [called, ← alike.acknowledges batch]
        cases present.acknowledges batch with
        | true => rfl
        | false => rfl

end Calls

/-- What a dispatch makes of the staff, collaborator by collaborator. -/
theorem staff_serve (staff : Staff) (batch : Batch) :
    (staff.serve batch).staff =
      ⟨staff.handlers.map (·.after batch),
        if staff.fallsBack batch then staff.fallback.begin.2 else staff.fallback,
        Script.after staff.acknowledger
          ((staff.selected batch).countP (·.acknowledges batch))⟩ := by
  rcases choose_eq staff batch with ⟨_, placed, refs, handlers, apart, found⟩
  have whole : (staff.serve batch).staff =
      (Staff.callAll batch (placed.map Prod.fst) { staff with
        handlers := (Selection.choose staff.handlers staff.fallback batch).handlers }).staff := by
    cases placed with
    | nil => simp [serve, Account.andThen, refs, callAll, Account.idle]
    | cons entry rest => simp [serve, Account.andThen, refs, callRest]
  rcases staff_callAll batch apart found with ⟨each, acknowledger⟩
  rw [← whole, ← refs] at each
  rw [← whole, ← handlers] at acknowledger
  have registered : (staff.serve batch).staff.handlers = staff.handlers.map (·.after batch) := by
    apply List.ext_getElem?
    intro place
    have there := each (.registered place)
    simp only [handler?, registered_mem_choose, Selection.handlers_choose,
      List.getElem?_map] at there
    rw [there, List.getElem?_map]
    cases known : staff.handlers[place]? with
    | none => simp
    | some handler => simp [Handler.after, apply_ite some]
  have fallback := each .fallback
  simp only [handler?, fallback_mem_choose, Option.map_some, ← apply_ite some,
    Option.some.injEq] at fallback
  rw [← registered, ← fallback, ← acknowledger]

/-- No handler changes its name or its place. -/
theorem names_serve (staff : Staff) (batch : Batch) :
    (staff.serve batch).staff.handlers.map (·.name) = staff.handlers.map (·.name) ∧
      (staff.serve batch).staff.fallback.name = staff.fallback.name := by
  rw [staff_serve]
  refine ⟨?_, ?_⟩
  · rw [List.map_map]
    exact List.map_congr_left fun handler _ => handler.name_after batch
  · dsimp only
    split
    · exact staff.fallback.name_begin
    · rfl

theorem names_serveAll (batches : List Batch) (staff : Staff) :
    (staff.serveAll batches).staff.handlers.map (·.name) = staff.handlers.map (·.name) ∧
      (staff.serveAll batches).staff.fallback.name = staff.fallback.name := by
  induction batches generalizing staff with
  | nil => exact ⟨rfl, rfl⟩
  | cons batch rest inductionHypothesis =>
      have first := staff.names_serve batch
      have later := inductionHypothesis (staff.serve batch).staff
      exact ⟨later.1.trans first.1, later.2.trans first.2⟩

end Staff
end FailureDispatch

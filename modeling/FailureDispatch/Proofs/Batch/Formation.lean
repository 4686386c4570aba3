import FailureDispatch.Proofs.Batch.Provenance

/-!
# How batches are formed and acknowledged

A batch is formed from failures or refused because of them, and the refusal names the first
failure that is in its way.  What has been formed can be acknowledged: the references are
those of the failures that require it, as far as their units have one.

Whoever collects the references asks units that may fail to answer, and one such unit spoils
the whole collection.  Only the units of failures that require acknowledgement are asked.
This is said twice: by what the collection comes to, and by what it does not depend on.
The second says more, since it holds of units of which nothing else is known.
-/

namespace FailureDispatch

/-- The reference in an answer, if there is one. -/
def AckAnswer.ref? : AckAnswer → Option String
  | ref reference => some reference
  | none | panic => Option.none

namespace Failure

/-- The reference that is due once the failure has been handled. -/
def dueRef? (failure : Failure) : Option String :=
  if failure.requiresAck then failure.unit.ack.ref? else none

/-- Whether the collection of references asks a unit that fails to answer. -/
def Spoils (failure : Failure) : Prop :=
  failure.requiresAck = true ∧ failure.unit.ack = .panic

/-- Two failures between which the collection of references cannot tell: both require
acknowledgement, and their units answer alike, or neither does. -/
def DueAlike (failure other : Failure) : Prop :=
  failure.requiresAck = other.requiresAck ∧
    (failure.requiresAck = true → failure.unit.ack = other.unit.ack)

end Failure

namespace Batch

/-! ## Forming -/

section Forming

variable (type : FailureType) (failures : List Failure)

/-- The first stranger, with all that stands before it. -/
theorem stranger?_eq_some_iff (stranger : Failure) :
    stranger? type failures = some stranger ↔
      ∃ before after, failures = before ++ stranger :: after ∧
        (∀ failure ∈ before, failure.type = type) ∧ stranger.type ≠ type := by
  rw [stranger?, List.find?_eq_some_iff_append]
  constructor
  · rintro ⟨strange, before, after, same, usual⟩
    exact ⟨before, after, same, by simpa using usual, by simpa using strange⟩
  · rintro ⟨before, after, same, usual, strange⟩
    exact ⟨by simpa using strange, before, after, same, by simpa using usual⟩

variable {type failures}

theorem ofFailures_of_stranger {stranger : Failure} (found : stranger? type failures = some stranger) :
    ofFailures type failures = .error (.mixedBatch type stranger.type) := by
  have filled : failures ≠ [] := by
    intro empty
    rw [empty] at found
    cases found
  unfold ofFailures
  rw [dif_neg filled]
  split
  · next other same =>
    rw [found] at same
    cases same
    rfl
  · next none =>
    rw [found] at none
    cases none

theorem ofFailures_of_uniform (filled : failures ≠ [])
    (uniform : ∀ failure ∈ failures, failure.type = type) :
    ofFailures type failures = .ok ⟨type, failures, filled, uniform⟩ := by
  have found := (stranger?_eq_none_iff type failures).mpr uniform
  unfold ofFailures
  rw [dif_neg filled]
  split
  · next other same =>
    rw [found] at same
    cases same
  · rfl

/-- A batch is formed of any failures of its type, and holds them as they are. -/
theorem ofFailures_eq_ok_iff (batch : Batch) :
    ofFailures type failures = .ok batch ↔
      failures ≠ [] ∧ (∀ failure ∈ failures, failure.type = type) ∧
        batch.type = type ∧ batch.failures = failures := by
  constructor
  · intro formed
    by_cases filled : failures = []
    · rw [ofFailures, dif_pos filled] at formed
      cases formed
    · cases found : stranger? type failures with
      | some stranger =>
          rw [ofFailures_of_stranger found] at formed
          cases formed
      | none =>
          have uniform := (stranger?_eq_none_iff type failures).mp found
          rw [ofFailures_of_uniform filled uniform] at formed
          cases formed
          exact ⟨filled, uniform, rfl, rfl⟩
  · rintro ⟨filled, uniform, rfl, rfl⟩
    exact ofFailures_of_uniform filled uniform

/-- No batch is formed of nothing, or because of a first stranger. -/
theorem ofFailures_eq_error_iff (error : FailureError) :
    ofFailures type failures = .error error ↔
      (failures = [] ∧ error = .emptyBatch) ∨
        ∃ before stranger after, failures = before ++ stranger :: after ∧
          (∀ failure ∈ before, failure.type = type) ∧ stranger.type ≠ type ∧
          error = .mixedBatch type stranger.type := by
  have refuses {stranger : Failure} (found : stranger? type failures = some stranger) :
      ofFailures type failures = .error error ↔ error = .mixedBatch type stranger.type := by
    rw [ofFailures_of_stranger found, Except.error.injEq, eq_comm]
  constructor
  · intro refused
    by_cases filled : failures = []
    · rw [ofFailures, dif_pos filled] at refused
      cases refused
      exact Or.inl ⟨filled, rfl⟩
    · cases found : stranger? type failures with
      | none =>
          have uniform := (stranger?_eq_none_iff type failures).mp found
          rw [ofFailures_of_uniform filled uniform] at refused
          cases refused
      | some stranger =>
          rcases (stranger?_eq_some_iff type failures stranger).mp found with
            ⟨before, after, same, usual, strange⟩
          exact Or.inr ⟨before, stranger, after, same, usual, strange, (refuses found).mp refused⟩
  · rintro (⟨rfl, rfl⟩ | ⟨before, stranger, after, same, usual, strange, wording⟩)
    · rfl
    · have found := (stranger?_eq_some_iff type failures stranger).mpr
        ⟨before, after, same, usual, strange⟩
      exact (refuses found).mpr wording

end Forming

/-- Every batch is what forms of its own failures. -/
theorem ofFailures_failures (batch : Batch) :
    ofFailures batch.type batch.failures = .ok batch :=
  (ofFailures_eq_ok_iff batch).mpr ⟨batch.nonempty, batch.uniform, rfl, rfl⟩

/-! ## References -/

/-- The collection, in closed form. -/
theorem collectRefs_eq (units : List FailedUnit) :
    collectRefs units =
      if .panic ∈ units.map (·.ack) then none else some (units.filterMap (·.ack.ref?)) := by
  induction units with
  | nil => rfl
  | cons unit rest inductionHypothesis =>
      rw [collectRefs, inductionHypothesis, List.map_cons, List.filterMap_cons]
      cases unit.ack with
      | panic => simp
      | none => simp [AckAnswer.ref?]
      | ref reference => by_cases spoilt : .panic ∈ rest.map (·.ack) <;> simp [spoilt, AckAnswer.ref?]

/-- Only the answers of the units count. -/
theorem collectRefs_congr {units others : List FailedUnit}
    (alike : units.map (·.ack) = others.map (·.ack)) : collectRefs units = collectRefs others := by
  have refs (units : List FailedUnit) :
      units.filterMap (·.ack.ref?) = (units.map (·.ack)).filterMap AckAnswer.ref? := by
    rw [List.filterMap_map]
    rfl
  rw [collectRefs_eq, collectRefs_eq, refs, refs, alike]

theorem collectRefs_append (units others : List FailedUnit) :
    collectRefs (units ++ others) =
      (collectRefs units).bind fun refs => (collectRefs others).map (refs ++ ·) := by
  simp only [collectRefs_eq, List.map_append, List.mem_append, List.filterMap_append]
  by_cases first : .panic ∈ units.map (·.ack)
  · simp [first]
  · by_cases second : .panic ∈ others.map (·.ack) <;> simp [first, second]

/-- The answers of the units that are asked. -/
theorem answers_eq {failures others : List Failure}
    (alike : List.Forall₂ Failure.DueAlike failures others) :
    ((failures.filter (·.requiresAck)).map (·.unit)).map (·.ack) =
      ((others.filter (·.requiresAck)).map (·.unit)).map (·.ack) := by
  induction alike with
  | nil => rfl
  | @cons failure other _ _ same _ inductionHypothesis =>
      rcases same with ⟨requires, answers⟩
      cases due : failure.requiresAck with
      | false =>
          have neither : other.requiresAck = false := requires.symm.trans due
          rw [List.filter_cons_of_neg (by simp [due]), List.filter_cons_of_neg (by simp [neither])]
          exact inductionHypothesis
      | true =>
          have both : other.requiresAck = true := requires.symm.trans due
          rw [List.filter_cons_of_pos due, List.filter_cons_of_pos both]
          simp only [List.map_cons, inductionHypothesis, answers due]

section References

variable (batch : Batch)

theorem ackRefs_eq [Decidable (∃ failure ∈ batch.failures, failure.Spoils)] :
    batch.ackRefs =
      if ∃ failure ∈ batch.failures, failure.Spoils then none
      else some (batch.failures.filterMap Failure.dueRef?) := by
  have asked : .panic ∈ ((batch.failures.filter (·.requiresAck)).map (·.unit)).map (·.ack) ↔
      ∃ failure ∈ batch.failures, failure.Spoils := by
    simp [Failure.Spoils, and_assoc]
  have due : ((batch.failures.filter (·.requiresAck)).map (·.unit)).filterMap (·.ack.ref?) =
      batch.failures.filterMap Failure.dueRef? := by
    rw [List.filterMap_map, List.filterMap_filter]
    rfl
  rw [ackRefs, collectRefs_eq, due]
  exact if_congr asked rfl rfl

/-- The collection fails with a unit that is asked, and with no other. -/
theorem ackRefs_eq_none_iff :
    batch.ackRefs = none ↔ ∃ failure ∈ batch.failures, failure.Spoils := by
  classical
  rw [ackRefs_eq]
  split
  · next spoilt => exact iff_of_true rfl spoilt
  · next sound => exact iff_of_false nofun sound

theorem ackRefs_eq_some_iff (refs : List String) :
    batch.ackRefs = some refs ↔
      (∀ failure ∈ batch.failures, ¬ failure.Spoils) ∧
        refs = batch.failures.filterMap Failure.dueRef? := by
  classical
  rw [ackRefs_eq]
  split
  · next spoilt =>
    rcases spoilt with ⟨failure, member, spoils⟩
    exact iff_of_false nofun fun both => both.1 failure member spoils
  · next sound =>
    rw [Option.some.injEq, eq_comm]
    exact (and_iff_right fun failure member spoils => sound ⟨failure, member, spoils⟩).symm

variable {batch} {other : Batch}

/-- What is not asked does not count, whatever it would answer. -/
theorem ackRefs_congr (alike : List.Forall₂ Failure.DueAlike batch.failures other.failures) :
    batch.ackRefs = other.ackRefs :=
  collectRefs_congr (answers_eq alike)

/-- Two batches of one type form a batch together, and its references are theirs. -/
theorem ackRefs_append (sameType : other.type = batch.type) :
    ∃ whole, ofFailures batch.type (batch.failures ++ other.failures) = .ok whole ∧
      whole.ackRefs = batch.ackRefs.bind fun refs => other.ackRefs.map (refs ++ ·) := by
  have uniform : ∀ failure ∈ batch.failures ++ other.failures, failure.type = batch.type := by
    intro failure member
    rcases List.mem_append.mp member with first | second
    · exact batch.uniform failure first
    · exact (other.uniform failure second).trans sameType
  have filled : batch.failures ++ other.failures ≠ [] :=
    List.append_ne_nil_of_left_ne_nil batch.nonempty _
  refine ⟨_, ofFailures_of_uniform filled uniform, ?_⟩
  rw [ackRefs, List.filter_append, List.map_append, collectRefs_append]
  rfl

end References

/-- Batches are formed of exactly the non-empty lists of failures of one type, which they
hold as they are, and a refusal names the type of the first failure that is in the way.
Whatever a service over an in-memory queue dispatches, at any moment, was formed in this
way and handed in by somebody, and in a run it was formed from what a step submitted.  The
references of a batch are those of the failures that require acknowledgement and whose unit
has one, in order and with repetitions, unless one of the units that are asked fails to
answer; nobody else is asked; and the references of two batches together are those of the
first followed by those of the second. -/
theorem formed_and_acknowledged :
    (∀ type failures,
      (∀ batch, ofFailures type failures = .ok batch ↔
        failures ≠ [] ∧ (∀ failure ∈ failures, failure.type = type) ∧
          batch.type = type ∧ batch.failures = failures) ∧
      ∀ error, ofFailures type failures = .error error ↔
        (failures = [] ∧ error = .emptyBatch) ∨
          ∃ before stranger after, failures = before ++ stranger :: after ∧
            (∀ failure ∈ before, failure.type = type) ∧ stranger.type ≠ type ∧
            error = .mixedBatch type stranger.type) ∧
    (∀ origin : Deployment, origin.OverQueue →
      (∀ reached, Deployment.Reaches true origin reached → ∀ batch ∈ reached.journal.begun,
        batch.failures ≠ [] ∧ (∀ failure ∈ batch.failures, failure.type = batch.type) ∧
          Deployment.HandedIn origin reached batch) ∧
      ∀ steps, ∀ batch ∈ (origin.run 0 steps).2.journal.begun,
        batch.failures ≠ [] ∧ (∀ failure ∈ batch.failures, failure.type = batch.type) ∧
          ∃ step draft, some step ∈ steps ∧ step.draft? = some draft ∧
            ofFailures draft.type draft.failures = .ok batch) ∧
    ∀ batch : Batch,
      ofFailures batch.type batch.failures = .ok batch ∧
      (batch.ackRefs = none ↔ ∃ failure ∈ batch.failures, failure.Spoils) ∧
      (∀ refs, batch.ackRefs = some refs ↔
        (∀ failure ∈ batch.failures, ¬ failure.Spoils) ∧
          refs = batch.failures.filterMap Failure.dueRef?) ∧
      (∀ other : Batch, List.Forall₂ Failure.DueAlike batch.failures other.failures →
        batch.ackRefs = other.ackRefs) ∧
      ∀ other : Batch, other.type = batch.type →
        ∃ whole, ofFailures batch.type (batch.failures ++ other.failures) = .ok whole ∧
          whole.ackRefs = batch.ackRefs.bind fun refs => other.ackRefs.map (refs ++ ·) := by
  refine ⟨fun type failures => ⟨ofFailures_eq_ok_iff, ofFailures_eq_error_iff⟩, ?_, ?_⟩
  · intro origin overQueue
    exact ⟨fun reached reaches batch begun =>
        ⟨batch.nonempty, batch.uniform, overQueue.handedIn reaches begun⟩,
      fun steps batch begun => ⟨batch.nonempty, batch.uniform, overQueue.formed steps begun⟩⟩
  · intro batch
    exact ⟨batch.ofFailures_failures, batch.ackRefs_eq_none_iff, batch.ackRefs_eq_some_iff,
      fun _ => ackRefs_congr, fun _ => ackRefs_append⟩

/-- Three messages have failed, one of them twice.  One unit fails to answer for its
reference, but its failure requires no acknowledgement. -/
def assorted : Draft :=
  let failure (unit : FailedUnit) (requiresAck : Bool) : Failure :=
    { type := .processing, cause := "timeout", message := "no answer", unit, requiresAck }
  ⟨.processing,
    [failure ⟨"m", .ref "q"⟩ true, failure (.plain "raw") true, failure ⟨"broken", .panic⟩ false,
      failure ⟨"m", .ref "q"⟩ true]⟩

/-- The failures of messages, formed. -/
def assortedBatch : Batch :=
  ⟨.processing, assorted.failures, List.cons_ne_nil _ _, by decide⟩

/-- The batch is dispatched, and its message is acknowledged as often as it has failed.  A
failure of another type behind it would have been refused. -/
theorem formed_and_acknowledged_assorted :
    assortedBatch.ackRefs = some ["q", "q"] ∧
      (∃ whole, ofFailures .processing (assorted.failures ++ assorted.failures) = .ok whole ∧
        whole.ackRefs = some ["q", "q", "q", "q"]) ∧
      ofFailures .processing (assorted.failures ++ Draft.single.failures) =
        .error (.mixedBatch .processing .indexing) ∧
      (HandlerRegistry.runtimeOf {}).OverQueue ∧
      assortedBatch ∈ ((HandlerRegistry.runtimeOf {}).run 0
        [some (.submit assorted)]).2.journal.begun ∧
      ∃ step draft, some step ∈ [some (Step.submit assorted)] ∧ step.draft? = some draft ∧
        ofFailures draft.type draft.failures = .ok assortedBatch := by
  rcases formed_and_acknowledged with ⟨forms, dispatched, references⟩
  rcases references assortedBatch with ⟨_, _, collected, _, together⟩
  have refs : assortedBatch.ackRefs = some ["q", "q"] := by
    refine (collected _).mpr ⟨?_, rfl⟩
    unfold Failure.Spoils
    decide
  have mixed := ((forms .processing (assorted.failures ++ Draft.single.failures)).2
    (.mixedBatch .processing .indexing)).mpr (Or.inr ⟨assorted.failures, _, [], rfl, by decide,
      nofun, rfl⟩)
  rcases together assortedBatch rfl with ⟨whole, formed, wholeRefs⟩
  have made : Deployment.assemble {} {} ⟨[]⟩ = .ok (HandlerRegistry.runtimeOf {}) := by rfl
  have overQueue : (HandlerRegistry.runtimeOf {}).OverQueue := .assembled made
  have begun : assortedBatch ∈ ((HandlerRegistry.runtimeOf {}).run 0
      [some (.submit assorted)]).2.journal.begun := by decide +kernel
  refine ⟨refs, ⟨whole, formed, ?_⟩, mixed, overQueue, begun,
    ((dispatched _ overQueue).2 _ _ begun).2.2⟩
  rw [wholeRefs, refs]
  rfl

end Batch
end FailureDispatch

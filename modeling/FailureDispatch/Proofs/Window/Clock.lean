import FailureDispatch.Proofs.Custody.Closing
import FailureDispatch.Proofs.Fairness.Service
import FailureDispatch.Proofs.Ledger.SoleConsumer

/-!
# What happens, and when

Everybody who can act does so before the clock moves, and the clock does not skip the end
of a wait.  `Beat` says what can happen next on these terms, where no call takes batches
from the queue, and `Timed` keeps a record of everything that is written to the journal,
with the time of each entry.

Runs are made of beats (`beats_run`).
-/

namespace FailureDispatch

/-- Entries of a journal, each with the time at which it was made. -/
abbrev Record := List (Nat × Occurrence)

namespace Occurrence

def isAcceptance (entry : Occurrence) : Bool := entry.accepted?.isSome

def isOpening (entry : Occurrence) : Bool := entry.begun?.isSome

def isEnding : Occurrence → Bool
  | dispatchEnded _ => true
  | _ => false

/-- Whether the entry says that the service has terminated. -/
def isFinal : Occurrence → Bool
  | entered .terminated => true
  | _ => false

end Occurrence

namespace Journal

theorem countP_isAcceptance (journal : Journal) :
    journal.countP Occurrence.isAcceptance = journal.accepted.length :=
  List.length_filterMap_eq_countP.symm

theorem countP_isOpening (journal : Journal) :
    journal.countP Occurrence.isOpening = journal.begun.length :=
  List.length_filterMap_eq_countP.symm

/-- The service terminates as often as it enters its final state. -/
theorem countP_isFinal (journal : Journal) :
    journal.countP Occurrence.isFinal = journal.states.count .terminated := by
  rw [states, List.count, List.countP_filterMap]
  congr 1
  funext entry
  cases entry with
  | entered state => cases state <;> rfl
  | _ => rfl

end Journal

namespace Record

/-- The times of the entries of a kind. -/
def timesOf (kind : Occurrence → Bool) (record : Record) : List Nat :=
  (record.filter fun entry => kind entry.2).map Prod.fst

/-- Entries that are made at the same time. -/
def stamped (time : Nat) (trace : Journal) : Record := trace.map fun entry => (time, entry)

section Times

variable (kind : Occurrence → Bool)

theorem timesOf_append (first second : Record) :
    timesOf kind (first ++ second) = timesOf kind first ++ timesOf kind second := by
  simp only [timesOf, List.filter_append, List.map_append]

/-- What is written at one time has one time. -/
theorem timesOf_stamped (time : Nat) (trace : Journal) :
    timesOf kind (stamped time trace) = List.replicate (trace.countP kind) time := by
  simp only [timesOf, stamped, List.filter_map, List.map_map, List.countP_eq_length_filter]
  exact List.map_const'

theorem map_snd_stamped (time : Nat) (trace : Journal) :
    (stamped time trace).map Prod.snd = trace := by
  simp only [stamped, List.map_map]
  exact List.map_id trace

theorem length_timesOf (record : Record) :
    (record.timesOf kind).length = (record.map Prod.snd).countP kind := by
  rw [timesOf, List.length_map, List.countP_map, List.countP_eq_length_filter]
  rfl

end Times

end Record

namespace Deployment

/-- What happens next.  Time passes only where nobody can act, and not beyond the end of
anybody's wait. -/
inductive Beat (before : Deployment) : Deployment → Prop where
  | acts {after : Deployment} (happening : Happening before after) (alone : Move false before after)
      (still : after.now = before.now) : Beat before after
  | rings {time : Nat} (settled : before.Settled) (next : before.nextAlarm? = some time) :
      Beat before (before.ring time)
  | passes {time : Nat} (settled : before.Settled) (later : before.now ≤ time)
      (early : ∀ alarm, before.nextAlarm? = some alarm → time < alarm) :
      Beat before { before with now := time }

/-- As long as there is a worker, the queue is open. -/
def Available (deployment : Deployment) : Prop :=
  deployment.service.worker.isGone = false → ¬ deployment.Shut

instance (deployment : Deployment) : Decidable deployment.Available :=
  inferInstanceAs (Decidable (_ → _))

/-- A deployment comes about from another beat by beat, while the queue is open, and the
record is that of what has been written meanwhile. -/
inductive Timed (origin : Deployment) : Record → Deployment → Prop where
  | starts : Timed origin [] origin
  | goesOn {record : Record} {before after : Deployment} {trace : Journal}
      (earlier : Timed origin record before) (beat : Beat before after)
      (written : after.journal = before.journal ++ trace) (available : after.Available) :
      Timed origin (record ++ Record.stamped before.now trace) after

section Beats

variable {before after origin reached : Deployment} {record : Record}

theorem lt_of_nextAlarm? {time : Nat} (next : before.nextAlarm? = some time) :
    before.now < time := by
  have member := List.min?_mem next
  exact of_decide_eq_true (List.mem_filter.mp member).2

theorem Beat.happening (beat : Beat before after) : Happening before after := by
  cases beat with
  | acts happening _ _ => exact happening
  | rings _ next => exact .rings _ (Nat.le_of_lt (lt_of_nextAlarm? next))
  | passes _ later _ => exact .passes _ later

theorem Beat.move (beat : Beat before after) : Move false before after := by
  cases beat with
  | acts _ alone _ => exact alone
  | rings _ next => exact .act (.clock _ _ (Nat.le_of_lt (lt_of_nextAlarm? next)))
  | passes _ later _ => exact .act (.clock _ [] later)

theorem Beat.requests (request : Request before after) (still : after.now = before.now) :
    Beat before after :=
  .acts (.requests request) (.act request.act) still

theorem Beat.le_now (beat : Beat before after) : before.now ≤ after.now := by
  cases beat with
  | acts _ _ still => exact Nat.le_of_eq still.symm
  | @rings time _ next =>
      rw [ring, wakeAll_eq]
      exact Nat.le_of_lt (lt_of_nextAlarm? next)
  | passes _ later _ => exact later

namespace Timed

theorem happens (timed : Timed origin record reached) : Happens origin reached := by
  induction timed with
  | starts => exact .refl
  | goesOn _ beat _ _ inductionHypothesis => exact inductionHypothesis.tail beat.happening

theorem reaches (timed : Timed origin record reached) : Reaches false origin reached := by
  induction timed with
  | starts => exact .refl
  | goesOn _ beat _ _ inductionHypothesis => exact inductionHypothesis.tail beat.move

/-- The record is that of the journal. -/
theorem journal_eq (timed : Timed origin record reached) :
    reached.journal = origin.journal ++ record.map Prod.snd := by
  induction timed with
  | starts => exact (List.append_nil _).symm
  | goesOn _ _ written _ inductionHypothesis =>
      rw [written, inductionHypothesis, List.map_append, Record.map_snd_stamped, List.append_assoc]

/-- Nothing has been written in the future. -/
theorem le_now (timed : Timed origin record reached) :
    ∀ entry ∈ record, entry.1 ≤ reached.now := by
  induction timed with
  | starts =>
      intro entry member
      cases member
  | @goesOn _ before _ _ _ beat _ _ inductionHypothesis =>
      intro entry member
      rcases List.mem_append.mp member with earlier | new
      · exact Nat.le_trans (inductionHypothesis entry earlier) beat.le_now
      · rcases List.mem_map.mp new with ⟨_, _, same⟩
        rw [← same]
        exact beat.le_now

theorem available (timed : Timed origin record reached) (available : origin.Available) :
    reached.Available := by
  cases timed with
  | starts => exact available
  | goesOn _ _ _ available => exact available

theorem trans {later : Record} {last : Deployment} (timed : Timed origin record reached)
    (others : Timed reached later last) : Timed origin (record ++ later) last := by
  induction others with
  | starts => exact (List.append_nil record).symm ▸ timed
  | goesOn _ beat written available inductionHypothesis =>
      rw [← List.append_assoc]
      exact inductionHypothesis.goesOn beat written available

end Timed

end Beats

/-! ## Turns -/

section Turns

variable {origin before : Deployment} {record : Record}

theorem now_tick (sound : before.OnCourse) : before.tick.now = before.now := by
  rcases sound.buffered with ⟨queue, buffered⟩
  have turned := tick_turned buffered sound.course
  generalize before.tick = after at turned ⊢
  cases turned with
  | nobody _ => rfl
  | @worker _ progress _ _ _ _ gates _ turn => cases progress <;> rfl
  | caller _ turn =>
      rcases turn.byCaller buffered with ⟨_, _, _, _, _, _, _, _, same⟩
      rw [same]
      rfl

theorem beat_tick (sound : before.OnCourse) : Beat before before.tick :=
  .acts .turn .turn (now_tick sound)

theorem reaches_giveTurns (turns : Nat) (before : Deployment) :
    Reaches false before (giveTurns turns before) := by
  induction turns generalizing before with
  | zero => exact .refl
  | succ turns inductionHypothesis =>
      by_cases settled : before.Settled
      · rw [giveTurns_of_settled settled]
      · rw [giveTurns_succ settled]
        exact .head .turn (inductionHypothesis before.tick)

/-- What has been written meanwhile, where the clock has stood still. -/
def entries (before after : Deployment) : Record :=
  .stamped before.now (after.journal.drop before.journal.length)

theorem entries_self (before : Deployment) : before.entries before = [] := by
  rw [entries, List.drop_length]
  rfl

theorem entries_trans {next last : Deployment} (first : before.journal <+: next.journal)
    (second : next.journal <+: last.journal) (still : next.now = before.now) :
    before.entries last = before.entries next ++ next.entries last := by
  rcases first with ⟨trace, began⟩
  rcases second with ⟨rest, ended⟩
  simp only [entries, Record.stamped, still, ← ended, ← began, List.append_assoc,
    List.drop_left, ← List.map_append]
  rw [← List.append_assoc, List.drop_left]

/-- The record goes on with what has been written. -/
theorem Timed.adds {after : Deployment} (timed : Timed origin record before)
    (sound : origin.OnCourse) (beat : Beat before after) (available : after.Available) :
    Timed origin (record ++ before.entries after) after := by
  have moved : Reaches false before after := .single beat.move
  have prefixed := moved.journal_prefix (sound.reaches timed.reaches)
  exact timed.goesOn beat (List.prefix_iff_eq_append.mp prefixed).symm available

/-- All turns are taken at the same time. -/
theorem Timed.turns (timed : Timed origin record before) (sound : origin.OnCourse) (turns : Nat)
    (available : ∀ taken ≤ turns, (giveTurns taken before).Available) :
    Timed origin (record ++ before.entries (giveTurns turns before)) (giveTurns turns before) := by
  induction turns generalizing record before with
  | zero =>
      rw [giveTurns, entries_self, List.append_nil]
      exact timed
  | succ turns inductionHypothesis =>
      by_cases settled : before.Settled
      · rw [giveTurns_of_settled settled, entries_self, List.append_nil]
        exact timed
      · have taken (turns : Nat) : giveTurns (turns + 1) before = giveTurns turns before.tick :=
          giveTurns_succ settled turns
        have here := sound.reaches timed.reaches
        have first : Reaches false before before.tick := .single .turn
        have second : Reaches false before.tick (giveTurns turns before.tick) :=
          reaches_giveTurns turns before.tick
        have usable (number : Nat) (few : number ≤ turns) :
            (giveTurns number before.tick).Available := by
          have later := available (number + 1) (Nat.succ_le_succ few)
          rwa [taken number] at later
        have next := timed.adds sound (beat_tick here) (usable 0 (Nat.zero_le turns))
        have later := inductionHypothesis next usable
        rw [taken, entries_trans (first.journal_prefix here) (second.journal_prefix here.tick)
          (now_tick here), ← List.append_assoc]
        exact later

/-- After a beat some turns are taken. -/
theorem Timed.proceeds {after : Deployment} (timed : Timed origin record before)
    (sound : origin.OnCourse) (beat : Beat before after) (turns : Nat)
    (available : ∀ taken ≤ turns, (giveTurns taken after).Available) :
    Timed origin (record ++ before.entries after ++ after.entries (giveTurns turns after))
      (giveTurns turns after) :=
  (timed.adds sound beat (available 0 (Nat.zero_le turns))).turns sound turns available

end Turns

/-! ## Runs -/

section Runs

variable {before after : Deployment} {id : Nat}

/-- A deployment comes about from another beat by beat. -/
abbrev Beats : Deployment → Deployment → Prop := Relation.ReflTransGen Beat

theorem beats_settle (sound : before.OnCourse) : Beats before before.settle :=
  (sound.keeps_settle (fun _ course beats => beats.tail (beat_tick course)) .refl).2

theorem beats_passTime (sound : before.OnCourse) (settled : before.Settled) (remaining : Nat) :
    Beats before (passTime remaining before) := by
  fun_induction passTime remaining before with
  | case1 remaining before none =>
      refine .single (.passes settled (Nat.le_add_right _ _) ?_)
      intro alarm next
      rw [none] at next
      cases next
  | case2 remaining before time next due inductionHypothesis =>
      have rings : Beat before (before.ring time) := .rings settled next
      have rung : (before.ring time).OnCourse := sound.move rings.move
      have settles := beats_settle rung
      exact ((Relation.ReflTransGen.single rings).trans settles).trans
        (inductionHypothesis (rung.reaches (reaches_settle true _)) (settled_settle _))
  | case3 remaining before time next beyond =>
      refine .single (.passes settled (Nat.le_add_right _ _) ?_)
      intro alarm same
      rw [next] at same
      cases same
      exact Nat.lt_of_not_le fun within => beyond ⟨lt_of_nextAlarm? next, within⟩

theorem beats_spawn (sound : before.OnCourse) (numbered : Numbered id before) {call : Call}
    (new : call.isNew = true) (apart : call.place?.isSome = false)
    (started : call.isJoin = true → before.service.state ≠ .new) :
    Beats before (before.spawn id call) := by
  have consumes (others : Bool) : call.place?.isSome = true → others = true := by
    rw [apart]
    intro impossible
    cases impossible
  rcases numbered.settle sound with ⟨soundSettled, settled⟩
  have begins : Beat before.settle ((before.settle.addJob id call).wake (.caller id)) := by
    have fresh : ∀ entry ∈ before.settle.jobs, entry.1 ≠ id :=
      fun entry member => Nat.ne_of_lt (settled.1 entry member)
    have owned := fun joins => started_settle sound (started joins)
    refine .acts (.begins fresh ⟨new, consumes true, owned⟩)
      (.begins fresh ⟨new, consumes false, owned⟩) ?_
    rw [wake_eq]
    rfl
  exact ((beats_settle sound).tail begins).trans (beats_settle (soundSettled.move begins.move))

/-- What a step comes to is made of beats, unless it takes a batch from the queue. -/
theorem Taken.beats {step : Step} (taken : Taken before id step after) (sound : before.OnCourse)
    (numbered : Numbered id before) (apart : step.consumes = false) : Beats before after := by
  cases taken with
  | acts atOnce _ =>
      exact .single (.requests atOnce.request atOnce.still)
  | settles => exact beats_settle sound
  | advances duration =>
      have soundSettled := sound.reaches (reaches_settle true before)
      exact (beats_settle sound).trans
        (beats_passTime soundSettled (settled_settle before) duration)
  | aborts _ known =>
      have aborts : Beat before _ := .acts (.aborts known) (.abort known) (by rw [wake_eq]; rfl)
      exact (Relation.ReflTransGen.single aborts).trans (beats_settle (sound.move aborts.move))
  | begins new _ consumes single =>
      apply beats_spawn sound numbered new (consumes.trans apart)
      intro joins
      rw [single] at joins
      cases joins
  | @joins door stopFirst given asked =>
      have held := Holder.ne_nobody given
      have handed : Act before { before with holder := .nobody } := .handOver .nobody held
      have hands : Beat before { before with holder := .nobody } :=
        .acts (.handsOver .nobody held) (.act handed) rfl
      exact (Relation.ReflTransGen.single hands).trans
        (beats_spawn (sound.act handed) (numbered.act sound handed) rfl rfl
          fun _ => sound.held held)

/-- A run in which no call takes batches from the queue is made of beats. -/
theorem beats_run (sound : before.OnCourse) (numbered : Numbered id before)
    (steps : List (Option Step)) (alone : ∀ step, some step ∈ steps → step.consumes = false) :
    Beats before (before.run id steps).2 := by
  induction steps generalizing id before with
  | nil => exact .refl
  | cons step rest inductionHypothesis =>
      have later (step : Step) (member : some step ∈ rest) : step.consumes = false :=
        alone step (List.mem_cons_of_mem _ member)
      cases step with
      | none => exact inductionHypothesis sound (numbered.mono (Nat.le_succ id)) later
      | some step =>
          have taken : Taken before id step (before.take id step).2 := take_taken id step
          have reached : Reaches true before (before.take id step).2 ∧ Numbered (id + 1) _ :=
            taken.reaches sound numbered fun _ => rfl
          exact (taken.beats sound numbered (alone step List.mem_cons_self)).trans
            (inductionHypothesis (sound.reaches reached.1) reached.2 later)

end Runs

end Deployment
end FailureDispatch

import FailureDispatch.Proofs.Custody.Dealing
import FailureDispatch.Proofs.Drain.Completeness

/-!
# Services that nobody can stop

The handle of a service is lost when nobody holds it and no call owns it.  A service
whose handle is lost has been told to stop, or its worker is gone, with one exception:
whoever aborts a call that waits for a worker which goes on takes the handle away and
stops nothing.  Such a service is lost for good, because nothing that can still happen tells
its worker to stop.

What is lost when is settled over dealings, where a call may be aborted before it has had a
turn.  Runs say at which step it was lost.
-/

namespace FailureDispatch
namespace Deployment

/-- Nobody holds the service, and no call under way owns its handle. -/
structure Lost (deployment : Deployment) : Prop where
  nobody : deployment.holder = .nobody
  unowned : ∀ entry ∈ deployment.jobs, entry.2.call.isJoin = false

/-- The handle of a service that has been started is lost, and nobody has told the worker
to stop. -/
structure Abandoned (deployment : Deployment) : Prop where
  nobody : deployment.holder = .nobody
  unasked : deployment.Unasked
  started : deployment.service.state ≠ .new

/-! ## What becomes of an abandoned service -/

namespace Abandoned

variable {before after : Deployment}

theorem around (abandoned : before.Abandoned) (holder : after.holder = before.holder)
    (jobs : after.jobs = before.jobs) (service : after.service = before.service) :
    after.Abandoned :=
  ⟨holder.trans abandoned.nobody, abandoned.unasked.around jobs service,
    service ▸ abandoned.started⟩

theorem tick (abandoned : before.Abandoned) (regular : before.Regular) :
    before.tick.Abandoned :=
  ⟨before.holder_tick.trans abandoned.nobody, abandoned.unasked.tick regular,
    regular.started (.single .turn) abandoned.started⟩

theorem begins (abandoned : before.Abandoned) (id : Nat) {call : Call}
    (single : call.isJoin = false) :
    ((before.addJob id call).wake (.caller id)).Abandoned := by
  have unasked := abandoned.unasked.begins id single
  rw [wake_eq] at unasked ⊢
  exact ⟨abandoned.nobody, unasked, abandoned.started⟩

theorem abort (abandoned : before.Abandoned) {other : Nat} {job : Job}
    (known : before.job? other = some job) :
    ((before.setJob other { job with doomed := true }).wake (.caller other)).Abandoned := by
  have unasked := abandoned.unasked.abort known
  rw [wake_eq] at unasked ⊢
  exact ⟨abandoned.nobody, unasked, abandoned.started⟩

theorem acts (abandoned : before.Abandoned) (regular : before.Regular)
    (atOnce : AtOnce before after) : after.Abandoned := by
  have jobs := (regular.works_of_act atOnce.act).jobs
  rcases atOnce.custody with ⟨holder, service⟩ | ⟨held, _⟩ | ⟨new, _⟩
  · exact abandoned.around holder jobs service
  · exact absurd abandoned.nobody held
  · exact absurd new abandoned.started

theorem whim (abandoned : before.Abandoned) (whim : Whim before after) : after.Abandoned := by
  cases whim with
  | answers later scripted => exact abandoned.around rfl rfl rfl
  | main later scripted here | drain later scripted here =>
      rw [wake_eq]
      exact ⟨abandoned.nobody, ⟨abandoned.unasked.untold, abandoned.unasked.nobody⟩,
        abandoned.started⟩

/-- Where the handle is lost no dealing finds it. -/
theorem dealing (abandoned : before.Abandoned) (regular : before.Regular)
    (dealing : Dealing before after) : after.Abandoned := by
  cases dealing with
  | turn => exact abandoned.tick regular
  | @calls id _ _ _ single => exact abandoned.begins id single
  | joins _ given _ _ => exact absurd abandoned.nobody (Holder.ne_nobody given)
  | aborts known => exact abandoned.abort known
  | acts atOnce => exact abandoned.acts regular atOnce
  | waits actors _ =>
      rw [wakeAll_eq]
      exact abandoned.around rfl rfl rfl
  | whims whim => exact abandoned.whim whim

/-- Nothing that can still happen brings an abandoned service back. -/
theorem dealings (abandoned : before.Abandoned) (regular : before.Regular)
    (dealings : Dealings before after) : after.Abandoned := by
  induction dealings with
  | refl => exact abandoned
  | tail earlier dealing inductionHypothesis =>
      exact inductionHypothesis.dealing (regular.persists (regular.dealings earlier)) dealing

end Abandoned

/-! ## Beginnings -/

/-- A service as its users get it: one over any queue that nobody has started, or one that
belongs to a runtime. -/
inductive Delivered : Deployment → Prop where
  | untouched {origin} (untouched : origin.Untouched) : Delivered origin
  | assembled {settings registry acknowledger origin}
      (made : assemble settings registry acknowledger = .ok origin) : Delivered origin

theorem untouched_prepared (settings : Settings) (registry : HandlerRegistry)
    (acknowledger : Script) : (prepared settings registry acknowledger).Untouched := by
  have aside : Journal.Unspoken (registry.handlers.flatMap HandlerRegistry.registrationTrace) := by
    induction registry.handlers with
    | nil => exact .nil
    | cons handler rest inductionHypothesis =>
        exact ⟨inductionHypothesis.states_eq, inductionHypothesis.contacts_eq⟩
  exact ⟨rfl, rfl, rfl, rfl, rfl, aside⟩

/-- What is assembled belongs to a runtime. -/
theorem held_of_assemble {settings : Settings} {registry : HandlerRegistry}
    {acknowledger : Script} {origin : Deployment}
    (made : assemble settings registry acknowledger = .ok origin) : origin.holder = .runtime := by
  rcases eq_of_assemble made with ⟨_, same⟩
  rw [same, announce]
  dsimp only
  split <;> rfl

/-- A service begins tidy and guarded. -/
theorem Delivered.begins {origin : Deployment} (delivered : origin.Delivered) :
    Tidy 0 origin ∧ origin.Guarded := by
  cases delivered with
  | untouched untouched =>
      refine ⟨⟨untouched.regular, ?_⟩, .idle untouched.worker⟩
      rw [untouched.jobs]
      exact fun entry member => absurd member List.not_mem_nil
  | @assembled settings registry acknowledger origin made =>
      rcases eq_of_assemble made with ⟨waits, same⟩
      rcases (unstarted_prepared settings registry acknowledger).announced waits settings with
        ⟨_, reaches, numbered⟩
      rw [← same] at reaches numbered
      have regular := (untouched_prepared settings registry acknowledger).regular.persists
        (evolves_of_reaches reaches)
      refine ⟨⟨regular, numbered.1⟩, .held ?_⟩
      rw [held_of_assemble made]
      intro impossible
      cases impossible

/-! ## Orphans -/

/-- The worker has been told to stop and the service shows it, or the worker is gone. -/
inductive Dismissed (deployment : Deployment) : Prop where
  | told (told : deployment.service.stopRequested = true)
      (started : deployment.service.state ≠ .starting)
      (stopping : deployment.service.state ≠ .running)
  | gone (gone : deployment.service.worker.isGone = true)

/-- A started service whose handle is lost can be guarded only by having been dismissed. -/
theorem Guarded.dismissed {deployment : Deployment} (guarded : deployment.Guarded)
    (regular : deployment.Regular) (started : deployment.service.state ≠ .new)
    (lost : deployment.Lost) : deployment.Dismissed := by
  cases guarded with
  | held holds => exact absurd lost.nobody holds
  | given known guards =>
      have unowned := lost.unowned _ (mem_of_job? known)
      rw [guards.joins] at unowned
      cases unowned
  | told told =>
      apply Dismissed.told told
      all_goals
        intro going
        rcases regular.lawful.stop_and_end.1 told with state | state | state <;>
          (rw [going] at state; cases state)
  | idle here => exact absurd (regular.lawful.at_worker here).1 started
  | gone gone => exact .gone gone

/-- A lost service that has not been dismissed will never be told to stop. -/
theorem Lost.abandoned {deployment : Deployment} (lost : deployment.Lost)
    (regular : deployment.Regular) (started : deployment.service.state ≠ .new)
    (going : ¬ deployment.Dismissed) : deployment.Abandoned := by
  refine ⟨lost.nobody, ⟨?_, lost.unowned⟩, started⟩
  cases told : deployment.service.stopRequested with
  | false => rfl
  | true => exact absurd (Guarded.dismissed (.told told) regular started lost) going

theorem Abandoned.lost {deployment : Deployment} (abandoned : deployment.Abandoned) :
    deployment.Lost :=
  ⟨abandoned.nobody, abandoned.unasked.nobody⟩

/-- In whatever way the handle of a started service has been lost, the service has been
dismissed, unless the call that waited for the worker was aborted while nobody had told the
worker to stop.  Then nobody ever will.  In a run it is a step that aborts the call. -/
theorem orphaned_only_by_abort {origin : Deployment} (delivered : origin.Delivered) :
    (∀ reached, Dealings origin reached → reached.service.state ≠ .new → reached.Lost →
      reached.Dismissed ∨
        (Bereft origin reached ∧
          ∀ later, Dealings reached later → later.Lost ∧ later.service.stopRequested = false)) ∧
    ∀ steps : List (Option Step), (origin.run 0 steps).2.service.state ≠ .new →
      (origin.run 0 steps).2.Lost →
      (origin.run 0 steps).2.Dismissed ∨
        ((∃ earlier other later, steps = earlier ++ some (.abort other) :: later ∧
            (origin.run 0 earlier).2.Exposed other) ∧
          ∀ further, (origin.run 0 (steps ++ further)).2.Lost ∧
            (origin.run 0 (steps ++ further)).2.service.stopRequested = false) := by
  rcases delivered.begins with ⟨tidy, guarded⟩
  constructor
  · intro reached dealings started lost
    have regular := tidy.regular.persists (tidy.regular.dealings dealings)
    by_cases dismissed : reached.Dismissed
    · exact Or.inl dismissed
    · rcases guarded.dealings tidy.regular dealings with kept | bereft
      · exact Or.inl (kept.dismissed regular started lost)
      · refine Or.inr ⟨bereft, fun later further => ?_⟩
        have kept := (lost.abandoned regular started dismissed).dealings regular further
        exact ⟨kept.lost, kept.unasked.untold⟩
  · intro steps started lost
    have there := tidy.run steps
    by_cases dismissed : (origin.run 0 steps).2.Dismissed
    · exact Or.inl dismissed
    · rcases guarded.run tidy steps with kept | exposed
      · exact Or.inl (kept.dismissed there.regular started lost)
      · refine Or.inr ⟨exposed, fun further => ?_⟩
        rw [run_append]
        have kept := (lost.abandoned there.regular started dismissed).dealings there.regular
          (dealings_run there further)
        exact ⟨kept.lost, kept.unasked.untold⟩

/-- A service is started, somebody begins to join, and the call is aborted while it waits. -/
def joinAborted : List (Option Step) := [some .start, some .join, some (.abort 1)]

/-- The handle of a service that has been started is given to a call that joins. -/
def joinGiven : Deployment :=
  (({ (narrow.run 0 [some .start]).2 with holder := .nobody }).addJob 1
    (.join .service false)).wake (.caller 1)

/-- The call that joins is aborted before it has had a turn, and is torn down at its turn. -/
def joinUnpolled : Deployment :=
  ((joinGiven.setJob 1 { call := .join .service false, doomed := true }).wake (.caller 1)).settle

theorem dealings_joinUnpolled : Dealings narrow joinUnpolled := by
  have untouched : narrow.Untouched := ⟨rfl, rfl, rfl, rfl, rfl, .nil⟩
  have tidy := (Delivered.untouched untouched).begins.1
  have given : Dealing (narrow.run 0 [some .start]).2 joinGiven :=
    .joins false rfl .refl (by decide +kernel)
  have known : joinGiven.job? 1 = some { call := .join .service false } := by decide +kernel
  exact (((dealings_run tidy [some .start]).tail given).tail (.aborts known)).trans (dealings_settle _)

/-- Aborted while it waits, the call loses the handle, and nobody will ever stop the worker.
Aborted before its first turn, it stops the service. -/
theorem orphaned_only_by_abort_joinAborted :
    (((narrow.run 0 joinAborted).2.service.state ≠ .new ∧ (narrow.run 0 joinAborted).2.Lost) ∧
      (∃ earlier other later, joinAborted = earlier ++ some (.abort other) :: later ∧
        (narrow.run 0 earlier).2.Exposed other) ∧
      ∀ further, (narrow.run 0 (joinAborted ++ further)).2.service.stopRequested = false) ∧
    (Dealings narrow joinUnpolled ∧ joinUnpolled.service.state ≠ .new ∧ joinUnpolled.Lost) ∧
      joinUnpolled.Dismissed := by
  have untouched : narrow.Untouched := ⟨rfl, rfl, rfl, rfl, rfl, .nil⟩
  rcases orphaned_only_by_abort (.untouched untouched) with ⟨dealt, ran⟩
  constructor
  · have started : (narrow.run 0 joinAborted).2.service.state ≠ .new := by decide +kernel
    have lost : (narrow.run 0 joinAborted).2.Lost := by
      constructor <;> decide +kernel
    refine ⟨⟨started, lost⟩, ?_⟩
    rcases ran joinAborted started lost with (⟨told, _, _⟩ | gone) | ⟨exposed, forever⟩
    · have untold : (narrow.run 0 joinAborted).2.service.stopRequested = false := by
        decide +kernel
      rw [untold] at told
      cases told
    · have going : (narrow.run 0 joinAborted).2.service.worker.isGone = false := by
        decide +kernel
      rw [going] at gone
      cases gone
    · exact ⟨exposed, fun further => (forever further).2⟩
  · have started : joinUnpolled.service.state ≠ .new := by decide +kernel
    have lost : joinUnpolled.Lost := by
      constructor <;> decide +kernel
    refine ⟨⟨dealings_joinUnpolled, started, lost⟩, ?_⟩
    rcases dealt joinUnpolled dealings_joinUnpolled started lost with dismissed | ⟨_, forever⟩
    · exact dismissed
    · have told : joinUnpolled.service.stopRequested = true := by decide +kernel
      rw [(forever joinUnpolled .refl).2] at told
      cases told

/-- A service can lose its handle and go on running: it is settled, its handle does not
exist any more, and its worker waits for batches and has not been told to stop. -/
theorem running_without_handle :
    narrow.Delivered ∧ (narrow.run 0 joinAborted).2.Settled ∧
      (narrow.run 0 joinAborted).2.Lost ∧
      (narrow.run 0 joinAborted).2.service.state = .running ∧
      (narrow.run 0 joinAborted).2.service.stopRequested = false ∧
      (narrow.run 0 joinAborted).2.service.worker.isGone = false := by
  refine ⟨.untouched ⟨rfl, rfl, rfl, rfl, rfl, .nil⟩, ?_, ⟨?_, ?_⟩, ?_, ?_, ?_⟩ <;>
    decide +kernel

end Deployment
end FailureDispatch

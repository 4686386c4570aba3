import FailureDispatch.Proofs.Custody.Guarded

/-!
# Dealings with a single handle

A handle cannot be copied.  It comes from a start, it is dropped, or it is given to a call that
joins, and whoever aborts such a call takes it away with the call.  `Dealing` admits whatever
can happen to a service on these terms, in any order: nothing requires that somebody who has
called has had a turn before the call is aborted, or that anybody is settled before the clock
moves.

Runs are made of dealings (`dealings_run`).
-/

namespace FailureDispatch
namespace Deployment

/-- Some turns have been taken. -/
abbrev Turns : Deployment → Deployment → Prop :=
  Relation.ReflTransGen fun before after => after = before.tick

/-- Whatever can happen where there is a single handle.  When it is given away, others may have a
turn before the call to which it is given stands in line. -/
inductive Dealing (before : Deployment) : Deployment → Prop where
  | turn : Dealing before before.tick
  | calls {id : Nat} {call : Call} (fresh : ∀ entry ∈ before.jobs, entry.1 ≠ id)
      (new : call.isNew = true) (single : call.isJoin = false) :
      Dealing before ((before.addJob id call).wake (.caller id))
  | joins {id : Nat} {door : Door} {middle : Deployment} (stopFirst : Bool)
      (given : before.holder.door? = some door)
      (turns : Turns { before with holder := .nobody } middle)
      (fresh : ∀ entry ∈ middle.jobs, entry.1 ≠ id) :
      Dealing before ((middle.addJob id (.join door stopFirst)).wake (.caller id))
  | aborts {id : Nat} {job : Job} (known : before.job? id = some job) :
      Dealing before ((before.setJob id { job with doomed := true }).wake (.caller id))
  | acts {after : Deployment} (atOnce : AtOnce before after) : Dealing before after
  | waits {now : Nat} (actors : List Actor) (later : before.now ≤ now) :
      Dealing before ({ before with now }.wakeAll actors)
  | whims {after : Deployment} (whim : Whim before after) : Dealing before after

/-- A deployment comes about from another by dealings. -/
abbrev Dealings : Deployment → Deployment → Prop := Relation.ReflTransGen Dealing

section Dealings

variable {before after middle : Deployment} {id : Nat}

theorem Turns.reaches (turns : Turns before after) : Reaches true before after := by
  induction turns with
  | refl => exact .refl
  | tail _ same inductionHypothesis =>
      rw [same]
      exact inductionHypothesis.tail .turn

theorem Turns.keeps {property : Deployment → Prop} (turns : Turns before after)
    (ticks : ∀ deployment, property deployment → property deployment.tick)
    (holds : property before) : property after := by
  induction turns with
  | refl => exact holds
  | tail _ same inductionHypothesis =>
      rw [same]
      exact ticks _ inductionHypothesis

/-- A dealing is made of events. -/
theorem Dealing.evolves (dealing : Dealing before after) (regular : before.Regular) :
    Evolves before after := by
  cases dealing with
  | turn => exact .single .turn
  | @calls id call _ _ single =>
      refine .single (.begins id call ?_)
      intro joins
      rw [single] at joins
      cases joins
  | @joins id door middle stopFirst given turns _ =>
      have held := Holder.ne_nobody given
      have hands : Event before { before with holder := .nobody } := .act (.handOver .nobody held)
      have whole := (Relation.ReflTransGen.single hands).trans (evolves_of_reaches turns.reaches)
      exact whole.tail (.begins id _ fun _ => regular.started whole (regular.held held))
  | aborts known => exact .single (.abort known)
  | acts atOnce => exact .single (.act atOnce.act)
  | waits actors later => exact .single (.act (.clock _ actors later))
  | whims whim => exact .single (.whim whim)

theorem Regular.dealings (regular : before.Regular) (dealings : Dealings before after) :
    Evolves before after := by
  induction dealings with
  | refl => exact .refl
  | tail _ dealing inductionHypothesis =>
      exact inductionHypothesis.trans (dealing.evolves (regular.persists inductionHypothesis))

/-! ## Runs -/

theorem turns_settle (deployment : Deployment) : Turns deployment deployment.settle :=
  settle_keeps (fun _ turns => turns.tail rfl) .refl

theorem dealings_of_turns (turns : Turns before after) : Dealings before after :=
  turns.keeps (fun _ dealings => dealings.tail .turn) .refl

theorem dealings_settle (deployment : Deployment) : Dealings deployment deployment.settle :=
  dealings_of_turns (turns_settle deployment)

theorem dealings_passTime (remaining : Nat) (deployment : Deployment) :
    Dealings deployment (passTime remaining deployment) := by
  fun_induction passTime remaining deployment with
  | case1 | case3 => exact .single (.waits [] (Nat.le_add_right _ _))
  | case2 remaining deployment time _ due inductionHypothesis =>
      have rung : Dealing deployment (deployment.ring time) := .waits _ (Nat.le_of_lt due.1)
      exact ((Relation.ReflTransGen.single rung).trans (dealings_settle _)).trans
        inductionHypothesis

/-- What a step comes to is made of dealings. -/
theorem Taken.dealings {step : Step} (taken : Taken before id step after) (tidy : Tidy id before) :
    Dealings before after := by
  have fresh {deployment : Deployment} (there : Tidy id deployment) :
      ∀ entry ∈ deployment.jobs, entry.1 ≠ id :=
    fun entry member => Nat.ne_of_lt (there.below entry member)
  cases taken with
  | acts atOnce _ => exact .single (.acts atOnce)
  | settles => exact dealings_settle before
  | advances duration => exact (dealings_settle before).trans (dealings_passTime duration _)
  | aborts _ known => exact (Relation.ReflTransGen.single (.aborts known)).trans (dealings_settle _)
  | begins new _ _ single =>
      have calls : Dealing before.settle _ := .calls (fresh tidy.settle) new single
      exact ((dealings_settle before).tail calls).trans (dealings_settle _)
  | @joins door stopFirst given _ =>
      have handed := (tidy.hand (Holder.ne_nobody given)).settle
      have joins : Dealing before _ := .joins stopFirst given (turns_settle _) (fresh handed)
      exact (Relation.ReflTransGen.single joins).trans (dealings_settle _)

/-- A run is made of dealings. -/
theorem dealings_run (tidy : Tidy id before) (steps : List (Option Step)) :
    Dealings before (before.run id steps).2 := by
  induction steps generalizing id before with
  | nil => exact .refl
  | cons step rest inductionHypothesis =>
      cases step with
      | none => exact inductionHypothesis (tidy.mono (Nat.le_succ id))
      | some step =>
          have taken : Taken before id step (before.take id step).2 := take_taken id step
          exact (taken.dealings tidy).trans (inductionHypothesis (tidy.taken taken))

/-! ## Guards -/

/-- Somewhere on the way the call was aborted that was all that could stop the service. -/
def Bereft (origin reached : Deployment) : Prop :=
  ∃ middle other job, Dealings origin middle ∧ middle.job? other = some job ∧
    middle.Exposed other ∧
    Dealings ((middle.setJob other { job with doomed := true }).wake (.caller other)) reached

namespace Guarded

/-- What a queue answers makes no difference to who can stop the service. -/
theorem whim (guarded : before.Guarded) (whim : Whim before after) : after.Guarded := by
  cases whim with
  | answers later scripted => exact guarded.around rfl rfl rfl
  | main later scripted here | drain later scripted here =>
      rw [wake_eq]
      cases guarded with
      | held holds => exact .held holds
      | given known guards => exact .given known guards
      | told told => exact .told told
      | idle idle =>
          rw [here] at idle
          cases idle
      | gone gone =>
          rw [here] at gone
          cases gone

/-- A dealing leaves the service guarded, unless it aborts the call that is all that could stop
it. -/
theorem dealing (regular : before.Regular) (guarded : before.Guarded)
    (dealing : Dealing before after) :
    after.Guarded ∨ ∃ other job, before.job? other = some job ∧ before.Exposed other ∧
      after = (before.setJob other { job with doomed := true }).wake (.caller other) := by
  cases dealing with
  | turn => exact Or.inl (guarded.tick regular)
  | calls fresh _ _ => exact Or.inl (begins (job?_of_fresh fresh) (Or.inl guarded))
  | joins _ _ _ fresh => exact Or.inl (begins (job?_of_fresh fresh) (Or.inr rfl))
  | aborts known =>
      rcases guarded.abort known with kept | exposed
      · exact Or.inl kept
      · exact Or.inr ⟨_, _, known, exposed, rfl⟩
  | acts atOnce => exact Or.inl (guarded.acts regular atOnce)
  | waits actors _ =>
      rw [wakeAll_eq]
      exact Or.inl (guarded.around rfl rfl rfl)
  | whims whim => exact Or.inl (guarded.whim whim)

/-- Whatever has been dealt, the service is guarded, unless the call that was all that could stop
it has been aborted. -/
theorem dealings (regular : before.Regular) (guarded : before.Guarded)
    (dealings : Dealings before after) : after.Guarded ∨ Bereft before after := by
  induction dealings with
  | refl => exact Or.inl guarded
  | @tail middle after earlier dealing inductionHypothesis =>
      rcases inductionHypothesis with kept | ⟨first, other, job, begins, known, exposed, rest⟩
      · have there := regular.persists (regular.dealings earlier)
        rcases kept.dealing there dealing with kept | ⟨other, job, known, exposed, same⟩
        · exact Or.inl kept
        · exact Or.inr ⟨middle, other, job, earlier, known, exposed, same ▸ .refl⟩
      · exact Or.inr ⟨first, other, job, begins, known, exposed, rest.tail dealing⟩

end Guarded

end Dealings

end Deployment
end FailureDispatch

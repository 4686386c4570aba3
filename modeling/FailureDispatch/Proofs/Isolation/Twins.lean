import FailureDispatch.Proofs.Isolation.Lockstep
import FailureDispatch.Proofs.Isolation.Siblings

/-!
# Twin deployments

Twins are equal except for the scripts in which their staffs differ and for what
the journals say of the outcomes of calls.  `bare` takes both away, so whatever
else can be asked of twins has one answer.

Twins are kindred, with siblings for staffs, and what has nothing to do with the
scripts keeps them so.  Where the worker serves a batch, the twins do different
things, and it is the account of the siblings that keeps them together.  It counts
that no call waits: a call that waited in the one and not in the other would put
them out of step.
-/

namespace FailureDispatch

/-- The worker is not in the middle of a call. -/
def Worker.Between : Worker → Prop
  | dispatching _ dispatch => dispatch.current = none
  | _ => True

theorem Worker.between_dispatching (phase : Phase) (batch : Batch) (pending : List HandlerRef) :
    (Worker.dispatching phase ⟨batch, pending, none⟩).Between := rfl

theorem Worker.between_of_isFree (worker : Worker) (free : worker.isFree = true) :
    worker.Between := by
  cases worker with
  | dispatching phase dispatch => cases free
  | _ => trivial

/-- The staffs differ in the script of one handler, and the journals in what tells how
calls came out. -/
def Likeness.siblings (name : String) (index : Nat) : Likeness where
  staffs := Staff.Siblings name index
  journals := Journal.Alike name
  workers := Worker.Between
  length_eq := by
    intro left right siblings
    have same := congrArg (fun staff => staff.handlers.length) siblings.bare
    simpa only [Staff.bare, List.length_modify] using same.symm
  name_eq := by
    intro left right siblings
    exact (congrArg (fun staff => staff.fallback.name) siblings.bare).symm
  refl := Journal.Alike.refl name
  append := fun alike goesOn => alike.append goesOn
  free := Worker.between_of_isFree

namespace Deployment

/-- The deployment without the scripts that may differ and without its journal. -/
def bare (index : Nat) (deployment : Deployment) : Deployment :=
  { deployment with
    service := deployment.service.withStaff (deployment.service.staff.bare index)
    journal := [] }

structure Twins (name : String) (index : Nat) (left right : Deployment) : Prop where
  bare : left.bare index = right.bare index
  staff : left.service.staff.Siblings name index right.service.staff
  alike : left.journal.Alike name right.journal
  between : left.service.worker.Between

section Siblings

variable {name : String} {index : Nat} {left right : Deployment}

theorem Twins.kindred (twins : Twins name index left right) :
    Kindred (.siblings name index) left right where
  refitted := (congrArg
    (fun deployment : Deployment => deployment.refit right.service.staff right.journal)
    twins.bare).symm
  staffs := twins.staff
  journals := twins.alike
  stands := twins.between

namespace Kindred

variable (kindred : Kindred (.siblings name index) left right)
include kindred

theorem twins : Twins name index left right where
  bare := by
    have same := congrArg (Deployment.bare index) kindred.refitted
    have staff : (left.service.staff).bare index = (right.service.staff).bare index :=
      kindred.staffs.bare
    rw [same, Deployment.bare, staff]
    rfl
  staff := kindred.staffs
  alike := kindred.journals
  between := kindred.stands

/-! ## Batches in hand -/

theorem begin_siblings (phase : Phase) (batch : Batch) :
    Kindred (.siblings name index) (left.beginDispatch phase batch)
      (right.beginDispatch phase batch) := by
  have siblings : left.service.staff.Siblings name index right.service.staff := kindred.staffs
  rcases siblings.choose batch with ⟨chosen, trace, later⟩
  have alike : Journal.Alike name
      (Selection.choose left.service.staff.handlers left.service.staff.fallback batch).trace
      (Selection.choose right.service.staff.handlers right.service.staff.fallback batch).trace := by
    rw [trace]
    exact .refl name _
  exact kindred.beginDispatch phase rfl rfl chosen later alike
    (Worker.between_dispatching phase batch _)

/-- With a batch in hand the twins call the same handler, each its own. -/
theorem advance_siblings {phase : Phase} {dispatch : Dispatch}
    (between : (Worker.dispatching phase dispatch).Between) :
    Paired (.siblings name index) (left.advanceDispatch phase dispatch)
      (right.advanceDispatch phase dispatch) := by
  -- The turn ends the batch or makes one call from beginning to end.
  have idle : dispatch.current = none := between
  have siblings : left.service.staff.Siblings name index right.service.staff := kindred.staffs
  unfold Deployment.advanceDispatch
  rw [idle]
  dsimp only
  cases dispatch.pending with
  | nil => exact ⟨rfl, (kindred.note _).free phase.isFree_resume⟩
  | cons ref rest =>
      have called := siblings.call dispatch.batch ref
      have served := kindred.served _ _ called.staff called.alike
      dsimp only
      rw [callHandler_of_prompt siblings.left.acknowledger fun _ => siblings.left.handler,
        callHandler_of_prompt siblings.right.acknowledger fun _ => siblings.right.handler]
      exact ⟨rfl, served.setWorker (Worker.between_dispatching phase _ rest)⟩

end Kindred

end Siblings

/-- Twins are twins again after every turn with a batch in hand. -/
theorem serves_siblings (name : String) (index : Nat) : (Likeness.siblings name index).Serves where
  goesOn := by
    intro left right kindred phase dispatch here
    have between : left.service.worker.Between := kindred.stands
    rw [here] at between
    exact kindred.advance_siblings between
  takes := by
    intro left right kindred _ phase batch
    exact ⟨_, _, (kindred.noteAll _).begin_siblings phase batch, rfl, rfl, Nat.le_refl _⟩

end Deployment
end FailureDispatch

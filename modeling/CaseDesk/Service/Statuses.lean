/-
  The service for statuses.  Removing a status removes its conditions.
-/
import CaseDesk.Service.Dictionary

namespace CaseDesk.Statuses

/-- The names of the methods. -/
def method : Operation → String
  | .list => "ListStatuses"
  | .create => "CreateStatus"
  | .update => "UpdateStatus"
  | .delete => "DeleteStatus"
  | .locate => "LocateStatus"

/-- How an input revises a status. -/
def revise (mask : FieldMask) (input : CaseStatusInput) (old : CaseStatus) :
    Except ServiceError CaseStatus := do
  let name ← Require.masked mask "name" (Require.text "name" input.name) old.name
  return { old with
    name
    description := Require.replaced mask "description" input.description old.description }

/-- The rules of the service. -/
def desk : Desk Unit Unit Int CaseStatusInput CaseStatus :=
  { Desk.root "Statuses" method .statuses (fun _ _ => true) revise with
    cleared := fun key => Shelf.statusConditions.modify fun table => (table.removeScope key.id).2 }

/-- The messages of the service. -/
def messages : Messages Unit Unit Int CaseStatusInput CaseStatus :=
  .of method CaseStatus.schema CaseStatusInput.schema .none .none (.id "id") (some "status")

end CaseDesk.Statuses

/-
  The service for groups of close reasons.  Removing a group removes its
  reasons.
-/
import CaseDesk.Service.Dictionary

namespace CaseDesk.CloseReasons

/-- The names of the methods. -/
def method : Operation → String
  | .list => "ListCloseReasons"
  | .create => "CreateCloseReason"
  | .update => "UpdateCloseReason"
  | .delete => "DeleteCloseReason"
  | .locate => "LocateCloseReason"

/-- How an input revises a group. -/
def revise (mask : FieldMask) (input : CloseReasonInput) (old : CloseReason) :
    Except ServiceError CloseReason := do
  let name ← Require.masked mask "name" (Require.text "name" input.name) old.name
  return { old with
    name
    description := Require.replaced mask "description" input.description old.description }

/-- The rules of the service. -/
def desk : Desk Unit Unit Int CloseReasonInput CloseReason :=
  { Desk.root "CloseReasons" method .closeReasons (fun _ _ => true) revise with
    cleared := fun key => Shelf.reasons.modify fun table => (table.removeScope key.id).2 }

/-- The messages of the service. -/
def messages : Messages Unit Unit Int CloseReasonInput CloseReason :=
  .of method CloseReason.schema CloseReasonInput.schema .none .none (.id "id") (some "close_reason")

end CaseDesk.CloseReasons

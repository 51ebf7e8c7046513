/-
  The service for the reasons of a group of close reasons.
-/
import CaseDesk.Service.Dictionary

namespace CaseDesk.Reasons

/-- The names of the methods. -/
def method : Operation → String
  | .list => "ListReasons"
  | .create => "CreateReason"
  | .update => "UpdateReason"
  | .delete => "DeleteReason"
  | .locate => "LocateReason"

/-- How an input revises a reason. -/
def revise (mask : FieldMask) (input : ReasonInput) (old : Reason) :
    Except ServiceError Reason := do
  let name ← Require.masked mask "name" (Require.text "name" input.name) old.name
  return { old with
    name
    description := Require.replaced mask "description" input.description old.description }

/-- The rules of the service. -/
def desk : Desk Int Unit ChildKey ReasonInput Reason :=
  .child "Reasons" method .reasons ⟨"close_reason_id", .closeReasons⟩
    (fun id => { closeReasonId := id }) (fun _ _ _ _ input => .ok input) revise

/-- The messages of the service. -/
def messages : Messages Int Unit ChildKey ReasonInput Reason :=
  .of method Reason.schema ReasonInput.schema (.id "close_reason_id") .none
    (ChildKey.part "close_reason_id") (some "reason")

end CaseDesk.Reasons

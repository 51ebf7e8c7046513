/-
  The service for the conditions of a status.

  Of the conditions of a status one is initial.  The first one is, whatever its
  input says; making another one initial takes the flag from the rest.  The
  flag cannot be given up, and its holder cannot be removed before the others.
-/
import CaseDesk.Service.Dictionary

namespace CaseDesk.StatusConditions

/-- The names of the methods. -/
def method : Operation → String
  | .list => "ListStatusConditions"
  | .create => "CreateStatusCondition"
  | .update => "UpdateStatusCondition"
  | .delete => "DeleteStatusCondition"
  | .locate => "LocateStatusCondition"

/-- How an input changes a condition, the flag included. -/
def apply (mask : FieldMask) (input : StatusConditionInput) (old : StatusCondition) :
    Except ServiceError StatusCondition := do
  let name ← Require.masked mask "name" (Require.text "name" input.name) old.name
  return { old with
    name
    description := Require.replaced mask "description" input.description old.description
    initial := Require.replaced mask "initial" input.initial old.initial
    final := Require.replaced mask "final" input.final old.final }

/-- How an input revises the condition with an id; an initial one stays initial. -/
def revise (id : Int) (mask : FieldMask) (input : StatusConditionInput) (old : StatusCondition) :
    Except ServiceError StatusCondition := do
  let new ← apply mask input old
  if old.initial ∧ ¬ new.initial then throw (.stillInitial id)
  return new

/-- The parent of the conditions. -/
def parent : Parent CaseStatus := ⟨"status_id", .statuses⟩

/-- A new condition, initial if it is the first of its status. -/
def draft (tables : Tables) (status : Int) (input : Option StatusConditionInput) :
    Except ServiceError StatusCondition := do
  let input ← Require.input input
  let status ← parent.require tables status
  let new ← apply .full input { statusId := status }
  return if (tables.statusConditions.scopeRows status).isEmpty then { new with initial := true }
    else new

/-- Takes the flag from a condition, unless it is the one to keep it. -/
def clearInitial (keep : Int) (condition : StatusCondition) : Bool × StatusCondition :=
  if condition.id ≠ keep ∧ condition.initial then (true, { condition with initial := false })
  else (false, condition)

/-- Leaves the flag to a condition that has become initial. -/
def settled (before : Option (Row StatusCondition)) (after : Row StatusCondition) :
    Tables → Tables :=
  if after.value.initial ∧ ¬ before.any (·.value.initial) then
    Shelf.statusConditions.modify fun table =>
      (table.modifyScope after.value.statusId (clearInitial after.value.id)).2
  else id

/-- The condition that a removal is about; the initial one may only go last. -/
def removal (tables : Tables) (key : ChildKey) :
    Except ServiceError (RowKey × (Caller → StatusCondition → Except ServiceError Unit)) := do
  let status ← parent.require tables key.parent
  return ({ id := key.id, scope := some status }, fun _ condition =>
    if condition.initial ∧ 1 < (tables.statusConditions.scopeRows status).length then
      .error (.initialCondition key.id status)
    else .ok ())

/-- The rules of the service. -/
def desk : Desk Int Unit ChildKey StatusConditionInput StatusCondition :=
  { Desk.child "StatusConditions" method .statusConditions parent (fun id => { statusId := id })
      (fun _ _ _ _ input => .ok input) apply with
    draft := fun tables _ status input => draft tables status input
    revision := fun tables key input mask => do
      let input ← Require.input input
      let status ← parent.require tables key.parent
      return ({ id := key.id, scope := some status }, fun _ old => revise key.id mask input old)
    removal
    settled }

/-- The messages of the service. -/
def messages : Messages Int Unit ChildKey StatusConditionInput StatusCondition :=
  .of method StatusCondition.schema StatusConditionInput.schema (.id "status_id") .none
    (ChildKey.part "status_id") (some "status_condition")

end CaseDesk.StatusConditions

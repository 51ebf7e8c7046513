/-
  The service for the conditions of agreements.

  A condition holds priorities that exist, each once and under its current
  name, and none that another condition of the same agreement holds.
-/
import CaseDesk.Service.Dictionary

namespace CaseDesk.SlaConditions

/-- The names of the methods. -/
def method : Operation → String
  | .list => "ListSlaConditions"
  | .create => "CreateSlaCondition"
  | .update => "UpdateSlaCondition"
  | .delete => "DeleteSlaCondition"
  | .locate => "LocateSlaCondition"

/-- The references with distinct ids, of each id the first. -/
def distinctIds (seen : List Int) : List Lookup → List Lookup
  | [] => []
  | r :: rest =>
    if seen.contains r.id then distinctIds seen rest else r :: distinctIds (r.id :: seen) rest

/-- The priority with an id, under its current name. -/
def resolve (priorities : Table Priority) (id : Int) : Except ServiceError Lookup :=
  match priorities.row? id with
  | some row => .ok ⟨row.value.id, row.value.name⟩
  | none => .error (.priorityUnknown id)

/-- A priority that a condition holds and that is asked for, the first in the condition's order. -/
def taken? (asked : List Lookup) (condition : SlaCondition) : Option Lookup :=
  condition.priorities.find? fun held => asked.any (·.id == held.id)

/-- The first condition in a list, other than the one with id `own`, that holds a priority asked
    for. -/
def conflict? (own : Int) (asked : List Lookup) : List (Row SlaCondition) → Option (Lookup × Int)
  | [] => none
  | row :: rest =>
    if row.value.id = own then conflict? own asked rest
    else match taken? asked row.value with
      | some held => some (held, row.value.id)
      | none => conflict? own asked rest

/-- Replaces the priorities asked for by references to those that exist, and makes sure that they
    are free within the agreement. -/
def prepare (tables : Tables) (sla own : Int) (mask : FieldMask) (input : SlaConditionInput) :
    Except ServiceError SlaConditionInput := do
  if mask.selects "priorities" then
    let priorities ← (distinctIds [] input.priorities).mapM (resolve tables.priorities ·.id)
    match conflict? own priorities (tables.slaConditions.scopeRows sla) with
    | some (held, condition) => throw (.priorityTaken held.id condition sla)
    | none => return { input with priorities }
  else return input

/-- How a prepared input revises a condition. -/
def revise (mask : FieldMask) (input : SlaConditionInput) (old : SlaCondition) :
    Except ServiceError SlaCondition := do
  let name ← Require.masked mask "name" (Require.text "name" input.name) old.name
  let reactionTime ← Require.masked mask "reaction_time"
    (Require.duration "reaction_time" input.reactionTime) old.reactionTime
  let resolutionTime ← Require.masked mask "resolution_time"
    (Require.duration "resolution_time" input.resolutionTime) old.resolutionTime
  return { old with
    name, reactionTime, resolutionTime
    priorities := Require.replaced mask "priorities" input.priorities old.priorities }

/-- The rules of the service. -/
def desk : Desk Int Unit ChildKey SlaConditionInput SlaCondition :=
  .child "SlaConditions" method .slaConditions ⟨"sla_id", .slas⟩ (fun id => { slaId := id })
    prepare revise

/-- The messages of the service. -/
def messages : Messages Int Unit ChildKey SlaConditionInput SlaCondition :=
  .of method SlaCondition.schema SlaConditionInput.schema (.id "sla_id") .none (ChildKey.part "sla_id")
    (some "sla_condition")

end CaseDesk.SlaConditions

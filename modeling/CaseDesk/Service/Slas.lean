/-
  The service for agreements.

  An agreement whose validity window has two ends must not end before it
  starts.  Removing an agreement removes its conditions.
-/
import CaseDesk.Service.Dictionary

namespace CaseDesk.Slas

/-- The names of the methods. -/
def method : Operation → String
  | .list => "ListSlas"
  | .create => "CreateSla"
  | .update => "UpdateSla"
  | .delete => "DeleteSla"
  | .locate => "LocateSla"

/-- How an input revises an agreement. -/
def revise (mask : FieldMask) (input : SlaInput) (old : Sla) : Except ServiceError Sla := do
  let name ← Require.masked mask "name" (Require.text "name" input.name) old.name
  let validFrom := Require.replaced mask "valid_from" input.validFrom old.validFrom
  let validTo := Require.replaced mask "valid_to" input.validTo old.validTo
  let reactionTime ← Require.masked mask "reaction_time"
    (Require.duration "reaction_time" input.reactionTime) old.reactionTime
  let resolutionTime ← Require.masked mask "resolution_time"
    (Require.duration "resolution_time" input.resolutionTime) old.resolutionTime
  if 0 < validFrom ∧ 0 < validTo ∧ validTo < validFrom then throw .windowReversed
  return { old with
    name, validFrom, validTo, reactionTime, resolutionTime
    description := Require.replaced mask "description" input.description old.description
    calendar := Require.replaced mask "calendar" (input.calendar.filter (0 < ·.id)) old.calendar }

/-- The rules of the service. -/
def desk : Desk Unit Unit Int SlaInput Sla :=
  { Desk.root "Slas" method .slas (fun _ _ => true) revise with
    cleared := fun key => Shelf.slaConditions.modify fun table => (table.removeScope key.id).2 }

/-- The messages of the service. -/
def messages : Messages Unit Unit Int SlaInput Sla :=
  .of method Sla.schema SlaInput.schema .none .none (.id "id") (some "sla")

end CaseDesk.Slas

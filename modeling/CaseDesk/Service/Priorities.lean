/-
  The service for priorities.

  A colour is written `#RRGGBB`.  Conditions of agreements refer to priorities:
  changing a priority renames the references to it, and removing it removes
  them.
-/
import CaseDesk.Service.Dictionary

namespace CaseDesk.Priorities

/-- The names of the methods. -/
def method : Operation → String
  | .list => "ListPriorities"
  | .create => "CreatePriority"
  | .update => "UpdatePriority"
  | .delete => "DeletePriority"
  | .locate => "LocatePriority"

/-- Hexadecimal digits in either case. -/
def isHexDigit (c : Char) : Bool :=
  ('0' ≤ c && c ≤ '9') || ('A' ≤ c && c ≤ 'F') || ('a' ≤ c && c ≤ 'f')

/-- Whether a text is a number sign with six hexadecimal digits. -/
def isColor : List Char → Bool
  | '#' :: digits => digits.length == 6 && digits.all isHexDigit
  | _ => false

/-- A colour with capital digits, or nothing. -/
def requireColor (raw : String) : Except ServiceError String :=
  let text := Text.trim raw
  if text = "" then .ok ""
  else if isColor text.toList then .ok (String.ofList (text.toList.map Char.toUpper))
  else .error (.colorMalformed text)

/-- How an input revises a priority. -/
def revise (mask : FieldMask) (input : PriorityInput) (old : Priority) :
    Except ServiceError Priority := do
  let name ← Require.masked mask "name" (Require.text "name" input.name) old.name
  let color ← Require.masked mask "color" (requireColor input.color) old.color
  return { old with
    name, color
    description := Require.replaced mask "description" input.description old.description }

/-- Renames the references to a priority in a condition. -/
def rename (id : Int) (name : String) (condition : SlaCondition) : Bool × SlaCondition :=
  (condition.priorities.any fun p => p.id == id && p.name != name,
    { condition with
      priorities := condition.priorities.map fun p => if p.id = id then { p with name } else p })

/-- Removes the references to a priority from a condition. -/
def detach (id : Int) (condition : SlaCondition) : Bool × SlaCondition :=
  (condition.priorities.any (·.id == id),
    { condition with priorities := condition.priorities.filter (·.id != id) })

/-- Renames the references to a priority that was there before. -/
def settled (before : Option (Row Priority)) (after : Row Priority) : Tables → Tables :=
  match before with
  | none => id
  | some _ => Shelf.slaConditions.modify fun table =>
    (table.modifyAll (rename after.value.id after.value.name)).2

/-- The rules of the service. -/
def desk : Desk Unit Unit Int PriorityInput Priority :=
  { Desk.root "Priorities" method .priorities (fun _ _ => true) revise with
    settled
    cleared := fun key => Shelf.slaConditions.modify fun table =>
      (table.modifyAll (detach key.id)).2 }

/-- The messages of the service. -/
def messages : Messages Unit Unit Int PriorityInput Priority :=
  .of method Priority.schema PriorityInput.schema .none .none (.id "id") (some "priority")

end CaseDesk.Priorities

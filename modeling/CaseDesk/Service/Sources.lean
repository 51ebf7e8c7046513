/-
  The service for the sources of cases.  Every source has one of six types, and
  lists can be filtered by types.
-/
import CaseDesk.Service.Dictionary

namespace CaseDesk.Sources

/-- The names of the methods. -/
def method : Operation → String
  | .list => "ListSources"
  | .create => "CreateSource"
  | .update => "UpdateSource"
  | .delete => "DeleteSource"
  | .locate => "LocateSource"

/-- The types that a source can have. -/
inductive SourceType where
  | call
  | chat
  | socialMedia
  | email
  | api
  | manual
  deriving DecidableEq, Repr

/-- The type with a number. -/
def SourceType.ofNumber? : Int → Option SourceType
  | 1 => some .call
  | 2 => some .chat
  | 3 => some .socialMedia
  | 4 => some .email
  | 5 => some .api
  | 6 => some .manual
  | _ => none

/-- The number of a type, which has to be given and known. -/
def requireType (number : Int) : Except ServiceError Int :=
  if number = 0 then .error .sourceTypeMissing
  else match SourceType.ofNumber? number with
    | some _ => .ok number
    | none => .error (.sourceTypeUnknown number)

/-- How an input revises a source. -/
def revise (mask : FieldMask) (input : SourceInput) (old : Source) :
    Except ServiceError Source := do
  let name ← Require.masked mask "name" (Require.text "name" input.name) old.name
  let sourceType ← Require.masked mask "type" (requireType input.sourceType) old.sourceType
  return { old with
    name, sourceType
    description := Require.replaced mask "description" input.description old.description }

/-- Whether a source has one of the types; no types at all stand for any. -/
def ofTypes (types : List Int) (source : Source) : Bool :=
  types.isEmpty || types.contains source.sourceType

/-- The rules of the service. -/
def desk : Desk Unit (List Int) Int SourceInput Source :=
  .root "Sources" method .sources ofTypes revise

/-- The types that a list is filtered by. -/
def typeFilter : PartSchema (List Int) where
  blank := []
  fields := [{ name := "type", lens := .whole, form := .int32s, label := "r#type" }]

/-- The messages of the service. -/
def messages : Messages Unit (List Int) Int SourceInput Source :=
  .of method Source.schema SourceInput.schema .none typeFilter (.id "id") (some "source")

end CaseDesk.Sources

/-
  Statuses of cases.
-/
import CaseDesk.Record.Basic

namespace CaseDesk

/-- A status that cases can have. -/
structure CaseStatus where
  id : Int := 0
  name : String := ""
  description : String := ""
  audit : Audit := {}
  deriving DecidableEq, Repr

/-- When and by whom a status was made and last changed. -/
def CaseStatus.auditLens : Lens CaseStatus Audit where
  get r := r.audit
  set a r := { r with audit := a }

/-- The message for a status. -/
def CaseStatus.schema : Schema CaseStatus where
  name := "Status"
  blank := {}
  fields := [
    .of "id" .int64 (·.id) fun v r => { r with id := v },
    .of "name" .text (·.name) fun v r => { r with name := v },
    .of "description" .text (·.description) fun v r => { r with description := v }] ++
    Audit.fields.map (·.within auditLens)

instance : Record CaseStatus where
  kind := "status"
  schema := CaseStatus.schema
  id := { get r := r.id, set n r := { r with id := n } }
  audit := CaseStatus.auditLens
  scope _ := none
  searchText r := r.name
  sortKeys := [
    ("name", fun r => .ofText r.name)]
  projectable := [
    ("name", fun r out => { out with name := r.name }),
    ("description", fun r out => { out with description := r.description })]

/-- What a request may set of a status. -/
structure CaseStatusInput where
  name : String := ""
  description : String := ""
  deriving DecidableEq, Repr

/-- The message for what a request may set of a status. -/
def CaseStatusInput.schema : Schema CaseStatusInput where
  name := "InputStatus"
  blank := {}
  fields := [
    .of "name" .text (·.name) fun v r => { r with name := v },
    .of "description" .text (·.description) fun v r => { r with description := v }]

end CaseDesk

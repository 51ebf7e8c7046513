/-
  Reasons for closing a case.
-/
import CaseDesk.Record.Basic

namespace CaseDesk

/-- A reason for closing a case, in its group. -/
structure Reason where
  id : Int := 0
  name : String := ""
  description : String := ""
  closeReasonId : Int := 0
  audit : Audit := {}
  deriving DecidableEq, Repr

/-- When and by whom a close reason was made and last changed. -/
def Reason.auditLens : Lens Reason Audit where
  get r := r.audit
  set a r := { r with audit := a }

/-- The message for a close reason. -/
def Reason.schema : Schema Reason where
  name := "Reason"
  blank := {}
  fields := [
    .of "id" .int64 (·.id) fun v r => { r with id := v },
    .of "name" .text (·.name) fun v r => { r with name := v },
    .of "description" .text (·.description) fun v r => { r with description := v },
    .of "close_reason_id" .int64 (·.closeReasonId) fun v r => { r with closeReasonId := v }] ++
    Audit.fields.map (·.within auditLens)

instance : Record Reason where
  kind := "reason"
  schema := Reason.schema
  id := { get r := r.id, set n r := { r with id := n } }
  audit := Reason.auditLens
  scope r := some r.closeReasonId
  searchText r := r.name
  sortKeys := [
    ("name", fun r => .ofText r.name)]
  projectable := [
    ("name", fun r out => { out with name := r.name }),
    ("description", fun r out => { out with description := r.description }),
    ("close_reason_id", fun r out => { out with closeReasonId := r.closeReasonId })]

/-- What a request may set of a close reason. -/
structure ReasonInput where
  name : String := ""
  description : String := ""
  deriving DecidableEq, Repr

/-- The message for what a request may set of a close reason. -/
def ReasonInput.schema : Schema ReasonInput where
  name := "InputReason"
  blank := {}
  fields := [
    .of "name" .text (·.name) fun v r => { r with name := v },
    .of "description" .text (·.description) fun v r => { r with description := v }]

end CaseDesk

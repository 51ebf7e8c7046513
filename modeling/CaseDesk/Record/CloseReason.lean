/-
  Groups of close reasons.
-/
import CaseDesk.Record.Basic

namespace CaseDesk

/-- A group of reasons for closing a case. -/
structure CloseReason where
  id : Int := 0
  name : String := ""
  description : String := ""
  audit : Audit := {}
  deriving DecidableEq, Repr

/-- When and by whom a group of close reasons was made and last changed. -/
def CloseReason.auditLens : Lens CloseReason Audit where
  get r := r.audit
  set a r := { r with audit := a }

/-- The message for a group of close reasons. -/
def CloseReason.schema : Schema CloseReason where
  name := "CloseReason"
  blank := {}
  fields := [
    .of "id" .int64 (·.id) fun v r => { r with id := v },
    .of "name" .text (·.name) fun v r => { r with name := v },
    .of "description" .text (·.description) fun v r => { r with description := v }] ++
    Audit.fields.map (·.within auditLens)

instance : Record CloseReason where
  kind := "close reason"
  schema := CloseReason.schema
  id := { get r := r.id, set n r := { r with id := n } }
  audit := CloseReason.auditLens
  scope _ := none
  searchText r := r.name
  sortKeys := [
    ("name", fun r => .ofText r.name)]
  projectable := [
    ("name", fun r out => { out with name := r.name }),
    ("description", fun r out => { out with description := r.description })]

/-- What a request may set of a group of close reasons. -/
structure CloseReasonInput where
  name : String := ""
  description : String := ""
  deriving DecidableEq, Repr

/-- The message for what a request may set of a group of close reasons. -/
def CloseReasonInput.schema : Schema CloseReasonInput where
  name := "InputCloseReason"
  blank := {}
  fields := [
    .of "name" .text (·.name) fun v r => { r with name := v },
    .of "description" .text (·.description) fun v r => { r with description := v }]

end CaseDesk

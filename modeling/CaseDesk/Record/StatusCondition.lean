/-
  Conditions within a status.
-/
import CaseDesk.Record.Basic

namespace CaseDesk

/-- A condition within a status; one of them is initial, and any may be final. -/
structure StatusCondition where
  id : Int := 0
  name : String := ""
  description : String := ""
  initial : Bool := false
  final : Bool := false
  statusId : Int := 0
  audit : Audit := {}
  deriving DecidableEq, Repr

/-- When and by whom a condition of a status was made and last changed. -/
def StatusCondition.auditLens : Lens StatusCondition Audit where
  get r := r.audit
  set a r := { r with audit := a }

/-- The message for a condition of a status. -/
def StatusCondition.schema : Schema StatusCondition where
  name := "StatusCondition"
  blank := {}
  fields := [
    .of "id" .int64 (·.id) fun v r => { r with id := v },
    .of "name" .text (·.name) fun v r => { r with name := v },
    .of "description" .text (·.description) fun v r => { r with description := v },
    .of "initial" .flag (·.initial) fun v r => { r with initial := v },
    (Field.of "final" .flag (·.final) fun v r => { r with final := v }).labelled "r#final",
    .of "status_id" .int64 (·.statusId) fun v r => { r with statusId := v }] ++
    Audit.fields.map (·.within auditLens)

instance : Record StatusCondition where
  kind := "status condition"
  schema := StatusCondition.schema
  id := { get r := r.id, set n r := { r with id := n } }
  audit := StatusCondition.auditLens
  scope r := some r.statusId
  searchText r := r.name
  sortKeys := [
    ("name", fun r => .ofText r.name),
    ("initial", fun r => .flag r.initial),
    ("final", fun r => .flag r.final)]
  projectable := [
    ("name", fun r out => { out with name := r.name }),
    ("description", fun r out => { out with description := r.description }),
    ("initial", fun r out => { out with initial := r.initial }),
    ("final", fun r out => { out with final := r.final }),
    ("status_id", fun r out => { out with statusId := r.statusId })]

/-- What a request may set of a condition of a status. -/
structure StatusConditionInput where
  name : String := ""
  description : String := ""
  initial : Bool := false
  final : Bool := false
  deriving DecidableEq, Repr

/-- The message for what a request may set of a condition of a status. -/
def StatusConditionInput.schema : Schema StatusConditionInput where
  name := "InputStatusCondition"
  blank := {}
  fields := [
    .of "name" .text (·.name) fun v r => { r with name := v },
    .of "description" .text (·.description) fun v r => { r with description := v },
    .of "initial" .flag (·.initial) fun v r => { r with initial := v },
    (Field.of "final" .flag (·.final) fun v r => { r with final := v }).labelled "r#final"]

end CaseDesk

/-
  Conditions of service level agreements.
-/
import CaseDesk.Record.Basic

namespace CaseDesk

/-- A condition of an agreement: the times that cases of some priorities have instead. -/
structure SlaCondition where
  id : Int := 0
  name : String := ""
  priorities : List Lookup := []
  reactionTime : Int := 0
  resolutionTime : Int := 0
  slaId : Int := 0
  audit : Audit := {}
  deriving DecidableEq, Repr

/-- When and by whom a condition of an agreement was made and last changed. -/
def SlaCondition.auditLens : Lens SlaCondition Audit where
  get r := r.audit
  set a r := { r with audit := a }

/-- The message for a condition of an agreement. -/
def SlaCondition.schema : Schema SlaCondition where
  name := "SlaCondition"
  blank := {}
  fields := [
    .of "id" .int64 (·.id) fun v r => { r with id := v },
    .of "name" .text (·.name) fun v r => { r with name := v },
    .of "priorities" Lookup.schema.many (·.priorities) fun v r => { r with priorities := v },
    .of "reaction_time" .int64 (·.reactionTime) fun v r => { r with reactionTime := v },
    .of "resolution_time" .int64 (·.resolutionTime) fun v r => { r with resolutionTime := v },
    .of "sla_id" .int64 (·.slaId) fun v r => { r with slaId := v }] ++
    Audit.fields.map (·.within auditLens)

instance : Record SlaCondition where
  kind := "sla condition"
  schema := SlaCondition.schema
  id := { get r := r.id, set n r := { r with id := n } }
  audit := SlaCondition.auditLens
  scope r := some r.slaId
  searchText r := r.name
  sortKeys := [
    ("name", fun r => .ofText r.name),
    ("reaction_time", fun r => .int r.reactionTime),
    ("resolution_time", fun r => .int r.resolutionTime)]
  projectable := [
    ("name", fun r out => { out with name := r.name }),
    ("priorities", fun r out => { out with priorities := r.priorities }),
    ("reaction_time", fun r out => { out with reactionTime := r.reactionTime }),
    ("resolution_time", fun r out => { out with resolutionTime := r.resolutionTime }),
    ("sla_id", fun r out => { out with slaId := r.slaId })]

/-- What a request may set of a condition of an agreement. -/
structure SlaConditionInput where
  name : String := ""
  priorities : List Lookup := []
  reactionTime : Int := 0
  resolutionTime : Int := 0
  deriving DecidableEq, Repr

/-- The message for what a request may set of a condition of an agreement. -/
def SlaConditionInput.schema : Schema SlaConditionInput where
  name := "InputSlaCondition"
  blank := {}
  fields := [
    .of "name" .text (·.name) fun v r => { r with name := v },
    .of "priorities" Lookup.schema.many (·.priorities) fun v r => { r with priorities := v },
    .of "reaction_time" .int64 (·.reactionTime) fun v r => { r with reactionTime := v },
    .of "resolution_time" .int64 (·.resolutionTime) fun v r => { r with resolutionTime := v }]

end CaseDesk

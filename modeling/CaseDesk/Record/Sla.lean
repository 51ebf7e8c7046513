/-
  Service level agreements.
-/
import CaseDesk.Record.Basic

namespace CaseDesk

/-- A service level agreement: how soon to react to a case and to resolve it, and from when to when the
    agreement is valid; a time of zero leaves that end open. -/
structure Sla where
  id : Int := 0
  name : String := ""
  description : String := ""
  validFrom : Int := 0
  validTo : Int := 0
  calendar : Option Lookup := none
  reactionTime : Int := 0
  resolutionTime : Int := 0
  audit : Audit := {}
  deriving DecidableEq, Repr

/-- When and by whom an agreement was made and last changed. -/
def Sla.auditLens : Lens Sla Audit where
  get r := r.audit
  set a r := { r with audit := a }

/-- The message for an agreement. -/
def Sla.schema : Schema Sla where
  name := "Sla"
  blank := {}
  fields := [
    .of "id" .int64 (·.id) fun v r => { r with id := v },
    .of "name" .text (·.name) fun v r => { r with name := v },
    .of "description" .text (·.description) fun v r => { r with description := v },
    .of "valid_from" .int64 (·.validFrom) fun v r => { r with validFrom := v },
    .of "valid_to" .int64 (·.validTo) fun v r => { r with validTo := v },
    .of "calendar" Lookup.schema.single (·.calendar) fun v r => { r with calendar := v },
    .of "reaction_time" .int64 (·.reactionTime) fun v r => { r with reactionTime := v },
    .of "resolution_time" .int64 (·.resolutionTime) fun v r => { r with resolutionTime := v }] ++
    Audit.fields.map (·.within auditLens)

instance : Record Sla where
  kind := "sla"
  schema := Sla.schema
  id := { get r := r.id, set n r := { r with id := n } }
  audit := Sla.auditLens
  scope _ := none
  searchText r := r.name
  sortKeys := [
    ("name", fun r => .ofText r.name),
    ("valid_from", fun r => .int r.validFrom),
    ("valid_to", fun r => .int r.validTo),
    ("reaction_time", fun r => .int r.reactionTime),
    ("resolution_time", fun r => .int r.resolutionTime)]
  projectable := [
    ("name", fun r out => { out with name := r.name }),
    ("description", fun r out => { out with description := r.description }),
    ("valid_from", fun r out => { out with validFrom := r.validFrom }),
    ("valid_to", fun r out => { out with validTo := r.validTo }),
    ("calendar", fun r out => { out with calendar := r.calendar }),
    ("reaction_time", fun r out => { out with reactionTime := r.reactionTime }),
    ("resolution_time", fun r out => { out with resolutionTime := r.resolutionTime })]

/-- What a request may set of an agreement. -/
structure SlaInput where
  name : String := ""
  description : String := ""
  validFrom : Int := 0
  validTo : Int := 0
  calendar : Option Lookup := none
  reactionTime : Int := 0
  resolutionTime : Int := 0
  deriving DecidableEq, Repr

/-- The message for what a request may set of an agreement. -/
def SlaInput.schema : Schema SlaInput where
  name := "InputSla"
  blank := {}
  fields := [
    .of "name" .text (·.name) fun v r => { r with name := v },
    .of "description" .text (·.description) fun v r => { r with description := v },
    .of "valid_from" .int64 (·.validFrom) fun v r => { r with validFrom := v },
    .of "valid_to" .int64 (·.validTo) fun v r => { r with validTo := v },
    .of "calendar" Lookup.schema.single (·.calendar) fun v r => { r with calendar := v },
    .of "reaction_time" .int64 (·.reactionTime) fun v r => { r with reactionTime := v },
    .of "resolution_time" .int64 (·.resolutionTime) fun v r => { r with resolutionTime := v }]

end CaseDesk

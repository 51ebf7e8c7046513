/-
  Priorities of cases.
-/
import CaseDesk.Record.Basic

namespace CaseDesk

/-- A priority that cases can have, with the colour it is shown in. -/
structure Priority where
  id : Int := 0
  name : String := ""
  description : String := ""
  color : String := ""
  audit : Audit := {}
  deriving DecidableEq, Repr

/-- When and by whom a priority was made and last changed. -/
def Priority.auditLens : Lens Priority Audit where
  get r := r.audit
  set a r := { r with audit := a }

/-- The message for a priority. -/
def Priority.schema : Schema Priority where
  name := "Priority"
  blank := {}
  fields := [
    .of "id" .int64 (·.id) fun v r => { r with id := v },
    .of "name" .text (·.name) fun v r => { r with name := v },
    .of "description" .text (·.description) fun v r => { r with description := v },
    .of "color" .text (·.color) fun v r => { r with color := v }] ++
    Audit.fields.map (·.within auditLens)

instance : Record Priority where
  kind := "priority"
  schema := Priority.schema
  id := { get r := r.id, set n r := { r with id := n } }
  audit := Priority.auditLens
  scope _ := none
  searchText r := r.name
  sortKeys := [
    ("name", fun r => .ofText r.name),
    ("color", fun r => .ofText r.color)]
  projectable := [
    ("name", fun r out => { out with name := r.name }),
    ("description", fun r out => { out with description := r.description }),
    ("color", fun r out => { out with color := r.color })]

/-- What a request may set of a priority. -/
structure PriorityInput where
  name : String := ""
  description : String := ""
  color : String := ""
  deriving DecidableEq, Repr

/-- The message for what a request may set of a priority. -/
def PriorityInput.schema : Schema PriorityInput where
  name := "InputPriority"
  blank := {}
  fields := [
    .of "name" .text (·.name) fun v r => { r with name := v },
    .of "description" .text (·.description) fun v r => { r with description := v },
    .of "color" .text (·.color) fun v r => { r with color := v }]

end CaseDesk

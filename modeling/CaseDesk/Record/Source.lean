/-
  Sources that cases come from.
-/
import CaseDesk.Record.Basic

namespace CaseDesk

/-- A source of cases, with the number of its type. -/
structure Source where
  id : Int := 0
  name : String := ""
  description : String := ""
  sourceType : Int := 0
  audit : Audit := {}
  deriving DecidableEq, Repr

/-- When and by whom a source was made and last changed. -/
def Source.auditLens : Lens Source Audit where
  get r := r.audit
  set a r := { r with audit := a }

/-- The message for a source. -/
def Source.schema : Schema Source where
  name := "Source"
  blank := {}
  fields := [
    .of "id" .int64 (·.id) fun v r => { r with id := v },
    .of "name" .text (·.name) fun v r => { r with name := v },
    .of "description" .text (·.description) fun v r => { r with description := v },
    (Field.of "type" .int32 (·.sourceType) fun v r => { r with sourceType := v }).labelled "r#type"] ++
    Audit.fields.map (·.within auditLens)

instance : Record Source where
  kind := "source"
  schema := Source.schema
  id := { get r := r.id, set n r := { r with id := n } }
  audit := Source.auditLens
  scope _ := none
  searchText r := r.name
  sortKeys := [
    ("name", fun r => .ofText r.name),
    ("type", fun r => .int r.sourceType)]
  projectable := [
    ("name", fun r out => { out with name := r.name }),
    ("description", fun r out => { out with description := r.description }),
    ("type", fun r out => { out with sourceType := r.sourceType })]

/-- What a request may set of a source. -/
structure SourceInput where
  name : String := ""
  description : String := ""
  sourceType : Int := 0
  deriving DecidableEq, Repr

/-- The message for what a request may set of a source. -/
def SourceInput.schema : Schema SourceInput where
  name := "InputSource"
  blank := {}
  fields := [
    .of "name" .text (·.name) fun v r => { r with name := v },
    .of "description" .text (·.description) fun v r => { r with description := v },
    (Field.of "type" .int32 (·.sourceType) fun v r => { r with sourceType := v }).labelled "r#type"]

end CaseDesk

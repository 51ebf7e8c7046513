/-
  Links attached to cases.
-/
import CaseDesk.Record.Basic

namespace CaseDesk

/-- A link that is attached to a case.  The version and the tag are filled in for answers only. -/
structure CaseLink where
  id : Int := 0
  ver : Int := 0
  etag : String := ""
  name : String := ""
  url : String := ""
  audit : Audit := {}
  author : Option Lookup := none
  caseId : Int := 0
  deriving DecidableEq, Repr

/-- When and by whom a link was made and last changed. -/
def CaseLink.auditLens : Lens CaseLink Audit where
  get r := r.audit
  set a r := { r with audit := a }

/-- The message for a link. -/
def CaseLink.schema : Schema CaseLink where
  name := "CaseLink"
  blank := {}
  fields := [
    .of "id" .int64 (·.id) fun v r => { r with id := v },
    .of "ver" .int32 (·.ver) fun v r => { r with ver := v },
    .of "etag" .text (·.etag) fun v r => { r with etag := v },
    .of "name" .text (·.name) fun v r => { r with name := v },
    .of "url" .text (·.url) fun v r => { r with url := v }] ++
    Audit.fields.map (·.within auditLens) ++ [
    .of "author" Lookup.schema.single (·.author) fun v r => { r with author := v },
    .of "case_id" .int64 (·.caseId) fun v r => { r with caseId := v }]

instance : Record CaseLink where
  kind := "link"
  schema := CaseLink.schema
  id := { get r := r.id, set n r := { r with id := n } }
  audit := CaseLink.auditLens
  scope r := some r.caseId
  searchText r := r.name
  sortKeys := [
    ("name", fun r => .ofText r.name),
    ("url", fun r => .ofText r.url)]
  projectable := [
    ("name", fun r out => { out with name := r.name }),
    ("url", fun r out => { out with url := r.url }),
    ("author", fun r out => { out with author := r.author }),
    ("case_id", fun r out => { out with caseId := r.caseId })]

/-- What a request may set of a link. -/
structure CaseLinkInput where
  name : String := ""
  url : String := ""
  deriving DecidableEq, Repr

/-- The message for what a request may set of a link. -/
def CaseLinkInput.schema : Schema CaseLinkInput where
  name := "InputCaseLink"
  blank := {}
  fields := [
    .of "name" .text (·.name) fun v r => { r with name := v },
    .of "url" .text (·.url) fun v r => { r with url := v }]

end CaseDesk

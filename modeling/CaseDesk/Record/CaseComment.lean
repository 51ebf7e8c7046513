/-
  Comments on cases.
-/
import CaseDesk.Record.Basic

namespace CaseDesk

/-- A comment on a case.  The version, the tag and whether the caller may edit are filled in for answers
    only. -/
structure CaseComment where
  id : Int := 0
  ver : Int := 0
  etag : String := ""
  text : String := ""
  audit : Audit := {}
  edited : Bool := false
  canEdit : Bool := false
  author : Option Lookup := none
  caseId : Int := 0
  deriving DecidableEq, Repr

/-- When and by whom a comment was made and last changed. -/
def CaseComment.auditLens : Lens CaseComment Audit where
  get r := r.audit
  set a r := { r with audit := a }

/-- The message for a comment. -/
def CaseComment.schema : Schema CaseComment where
  name := "CaseComment"
  blank := {}
  fields := [
    .of "id" .int64 (·.id) fun v r => { r with id := v },
    .of "ver" .int32 (·.ver) fun v r => { r with ver := v },
    .of "etag" .text (·.etag) fun v r => { r with etag := v },
    .of "text" .text (·.text) fun v r => { r with text := v }] ++
    Audit.fields.map (·.within auditLens) ++ [
    .of "edited" .flag (·.edited) fun v r => { r with edited := v },
    .of "can_edit" .flag (·.canEdit) fun v r => { r with canEdit := v },
    .of "author" Lookup.schema.single (·.author) fun v r => { r with author := v },
    .of "case_id" .int64 (·.caseId) fun v r => { r with caseId := v }]

instance : Record CaseComment where
  kind := "comment"
  schema := CaseComment.schema
  id := { get r := r.id, set n r := { r with id := n } }
  audit := CaseComment.auditLens
  scope r := some r.caseId
  searchText r := r.text
  sortKeys := [
    ("edited", fun r => .flag r.edited)]
  projectable := [
    ("text", fun r out => { out with text := r.text }),
    ("edited", fun r out => { out with edited := r.edited }),
    ("author", fun r out => { out with author := r.author }),
    ("case_id", fun r out => { out with caseId := r.caseId })]

/-- What a request may set of a comment. -/
structure CaseCommentInput where
  text : String := ""
  deriving DecidableEq, Repr

/-- The message for what a request may set of a comment. -/
def CaseCommentInput.schema : Schema CaseCommentInput where
  name := "InputCaseComment"
  blank := {}
  fields := [
    .of "text" .text (·.text) fun v r => { r with text := v }]

end CaseDesk

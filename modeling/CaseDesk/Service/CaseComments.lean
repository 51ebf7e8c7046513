/-
  The service for the comments of cases.

  The caller who publishes a comment is its author, and only the author may
  change or remove it.  A tag that names a version has to name the current one.
-/
import CaseDesk.Service.Desk
import CaseDesk.Service.Require

namespace CaseDesk.CaseComments

/-- The names of the methods. -/
def method : Operation → String
  | .list => "ListComments"
  | .create => "PublishComment"
  | .update => "UpdateComment"
  | .delete => "DeleteComment"
  | .locate => "LocateComment"

/-- A comment as it is answered to a caller. -/
def present (caller : Caller) (fields : List String) (row : Row CaseComment) : CaseComment :=
  let comment := Record.project fields row.value
  { comment with
    ver := row.ver
    etag := Etag.encode ⟨.comment, comment.id, some row.ver⟩
    canEdit := caller.isUser row.value.author }

/-- A comment on a page, as it is answered to a caller. -/
def listed (caller : Caller) (fields : List String) : Row CaseComment → CaseComment :=
  present caller (fieldNames fields)

/-- Only the author passes. -/
def requireAuthor (caller : Caller) (comment : CaseComment) : Except ServiceError Unit :=
  if caller.isUser comment.author then .ok () else .error (.notTheAuthor comment.id)

/-- A new comment by the caller. -/
def draft (caller : Caller) (caseTag : String) (input : Option CaseCommentInput) :
    Except ServiceError CaseComment := do
  let tag ← Require.tag .wholeCase caseTag
  let input ← Require.input input
  let text ← Require.text "text" input.text
  return { caseId := tag.id, text, author := some caller.user }

/-- The comment that an update is about, and its new text. -/
def revision (commentTag : String) (input : Option CaseCommentInput) (mask : FieldMask) :
    Except ServiceError (RowKey × (Caller → CaseComment → Except ServiceError CaseComment)) := do
  let tag ← Require.tag .comment commentTag
  let input ← Require.input input
  if ¬ mask.selects "text" then throw .maskSelectsNothing
  return ({ id := tag.id, ver := tag.ver }, fun caller old => do
    requireAuthor caller old
    let text ← Require.text "text" input.text
    return { old with text, edited := true })

/-- The rules of the service. -/
def desk : Desk String Unit String CaseCommentInput CaseComment where
  service := "CaseComments"
  method
  shelf := .comments
  listScope _ caseTag := do return some (← Require.tag .wholeCase caseTag).id
  keeps _ _ := true
  draft _ caller caseTag input := draft caller caseTag input
  revision _ commentTag input mask := revision commentTag input mask
  removal _ commentTag := do
    let tag ← Require.tag .comment commentTag
    return ({ id := tag.id, ver := tag.ver }, requireAuthor)
  address _ commentTag := do return { id := (← Require.tag .comment commentTag).id }
  narrowed _ query := query
  listed
  present

/-- The messages of the service. -/
def messages : Messages String Unit String CaseCommentInput CaseComment :=
  .of method CaseComment.schema CaseCommentInput.schema (.text "case_etag") .none (.text "etag")
    none

end CaseDesk.CaseComments

/-
  The service for the links of cases.

  A link holds an absolute hierarchical URL.  A link without a name of its own
  goes by its URL.  A tag that names a version has to name the current one.
-/
import CaseDesk.Service.Desk
import CaseDesk.Service.Require
import CaseDesk.Url.Parse

namespace CaseDesk.CaseLinks

/-- The names of the methods. -/
def method : Operation → String
  | .list => "ListLinks"
  | .create => "CreateLink"
  | .update => "UpdateLink"
  | .delete => "DeleteLink"
  | .locate => "LocateLink"

/-- Names a link together with its case. -/
structure LinkKey where
  caseTag : String := ""
  linkTag : String := ""
  deriving DecidableEq, Repr

/-- The fields that name a link. -/
def LinkKey.part : PartSchema LinkKey where
  blank := {}
  fields := [
    .of "case_etag" .text (·.caseTag) fun v k => { k with caseTag := v },
    .of "etag" .text (·.linkTag) fun v k => { k with linkTag := v }]

/-- An absolute hierarchical URL, as it is given but without blanks around it. -/
def requireUrl (raw : String) : Except ServiceError String := do
  let text ← Require.text "url" raw
  match Url.parse text.toList with
  | .error e => throw (.urlMalformed e)
  | .ok url => if url.hierarchical then return text else throw (.urlNotHierarchical text)

/-- A link as it is answered. -/
def present (_ : Caller) (fields : List String) (row : Row CaseLink) : CaseLink :=
  let link := Record.project fields row.value
  { link with ver := row.ver, etag := Etag.encode ⟨.link, link.id, some row.ver⟩ }

/-- A link on a page, as it is answered. -/
def listed (caller : Caller) (fields : List String) : Row CaseLink → CaseLink :=
  present caller (fieldNames fields)

/-- How an input revises a link. -/
def revise (mask : FieldMask) (input : CaseLinkInput) (old : CaseLink) :
    Except ServiceError CaseLink := do
  let url ← Require.masked mask "url" (requireUrl input.url) old.url
  let name := Require.replaced mask "name" (Text.trim input.name) old.name
  return { old with url, name := if name = "" then url else name }

/-- The link that a key names, at the version that its tag names. -/
def rowKey (key : LinkKey) : Except ServiceError RowKey := do
  let caseTag ← Require.tag .wholeCase key.caseTag
  let tag ← Require.tag .link key.linkTag
  return { id := tag.id, scope := some caseTag.id, ver := tag.ver }

/-- The rules of the service. -/
def desk : Desk String Unit LinkKey CaseLinkInput CaseLink where
  service := "CaseLinks"
  method
  shelf := .links
  listScope _ caseTag := do return some (← Require.tag .wholeCase caseTag).id
  keeps _ _ := true
  draft _ caller caseTag input := do
    let tag ← Require.tag .wholeCase caseTag
    let input ← Require.input input
    revise .full input { caseId := tag.id, author := some caller.user }
  revision _ key input mask := do
    let row ← rowKey key
    let input ← Require.input input
    return (row, fun _ old => revise mask input old)
  removal _ key := do return (← rowKey key, fun _ _ => .ok ())
  address _ key := do return { (← rowKey key) with ver := none }
  narrowed _ query := query
  listed
  present

/-- The messages of the service. -/
def messages : Messages String Unit LinkKey CaseLinkInput CaseLink :=
  .of method CaseLink.schema CaseLinkInput.schema (.text "case_etag") .none LinkKey.part none

end CaseDesk.CaseLinks

/-
  The registry of the ten services.

  * `services`: every service, in the order in which routes are tried.
  * `service?`: the service with a given name.
  * `lookupPath`: the method that a request path such as
    `/webitel.cases.Slas/ListSlas` calls.
-/
import CaseDesk.Registry.Entry
import CaseDesk.Text.Blank

namespace CaseDesk.Registry

/-- The service for service level agreements. -/
def slas : ServiceEntry where
  name := "Slas"
  objclass := "dictionaries"
  methods := [
    { name := "ListSlas", access := .read
      input := "ListSlasRequest", output := "SlaList"
      bindings := [⟨.get, "/cases/slas"⟩] },
    { name := "CreateSla", access := .create
      input := "CreateSlaRequest", output := "Sla"
      bindings := [⟨.post, "/cases/slas"⟩] },
    { name := "UpdateSla", access := .update
      input := "UpdateSlaRequest", output := "Sla"
      bindings := [⟨.put, "/cases/slas/\x7bid\x7d"⟩, ⟨.patch, "/cases/slas/\x7bid\x7d"⟩] },
    { name := "DeleteSla", access := .delete
      input := "DeleteSlaRequest", output := "Sla"
      bindings := [⟨.delete, "/cases/slas/\x7bid\x7d"⟩] },
    { name := "LocateSla", access := .read
      input := "LocateSlaRequest", output := "LocateSlaResponse"
      bindings := [⟨.get, "/cases/slas/\x7bid\x7d"⟩] }]

/-- The service for the conditions of an agreement. -/
def slaConditions : ServiceEntry where
  name := "SlaConditions"
  objclass := "dictionaries"
  methods := [
    { name := "ListSlaConditions", access := .read
      input := "ListSlaConditionsRequest", output := "SlaConditionList"
      bindings := [⟨.get, "/cases/slas/\x7bsla_id\x7d/sla_conditions"⟩] },
    { name := "CreateSlaCondition", access := .create
      input := "CreateSlaConditionRequest", output := "SlaCondition"
      bindings := [⟨.post, "/cases/slas/\x7bsla_id\x7d/sla_conditions"⟩] },
    { name := "UpdateSlaCondition", access := .update
      input := "UpdateSlaConditionRequest", output := "SlaCondition"
      bindings := [⟨.put, "/cases/slas/\x7bsla_id\x7d/sla_conditions/\x7bid\x7d"⟩,
        ⟨.patch, "/cases/slas/\x7bsla_id\x7d/sla_conditions/\x7bid\x7d"⟩] },
    { name := "DeleteSlaCondition", access := .delete
      input := "DeleteSlaConditionRequest", output := "SlaCondition"
      bindings := [⟨.delete, "/cases/slas/\x7bsla_id\x7d/sla_conditions/\x7bid\x7d"⟩] },
    { name := "LocateSlaCondition", access := .read
      input := "LocateSlaConditionRequest", output := "LocateSlaConditionResponse"
      bindings := [⟨.get, "/cases/slas/\x7bsla_id\x7d/sla_conditions/\x7bid\x7d"⟩] }]

/-- The service for groups of close reasons. -/
def closeReasons : ServiceEntry where
  name := "CloseReasons"
  objclass := "dictionaries"
  methods := [
    { name := "ListCloseReasons", access := .read
      input := "ListCloseReasonsRequest", output := "CloseReasonList"
      bindings := [⟨.get, "/cases/close_reasons"⟩] },
    { name := "CreateCloseReason", access := .create
      input := "CreateCloseReasonRequest", output := "CloseReason"
      bindings := [⟨.post, "/cases/close_reasons"⟩] },
    { name := "UpdateCloseReason", access := .update
      input := "UpdateCloseReasonRequest", output := "CloseReason"
      bindings := [⟨.put, "/cases/close_reasons/\x7bid\x7d"⟩,
        ⟨.patch, "/cases/close_reasons/\x7bid\x7d"⟩] },
    { name := "DeleteCloseReason", access := .delete
      input := "DeleteCloseReasonRequest", output := "CloseReason"
      bindings := [⟨.delete, "/cases/close_reasons/\x7bid\x7d"⟩] },
    { name := "LocateCloseReason", access := .read
      input := "LocateCloseReasonRequest", output := "LocateCloseReasonResponse"
      bindings := [⟨.get, "/cases/close_reasons/\x7bid\x7d"⟩] }]

/-- The service for the reasons of a group. -/
def reasons : ServiceEntry where
  name := "Reasons"
  objclass := "dictionaries"
  methods := [
    { name := "ListReasons", access := .read
      input := "ListReasonsRequest", output := "ReasonList"
      bindings := [⟨.get, "/cases/close_reasons/\x7bclose_reason_id\x7d/reasons"⟩] },
    { name := "CreateReason", access := .create
      input := "CreateReasonRequest", output := "Reason"
      bindings := [⟨.post, "/cases/close_reasons/\x7bclose_reason_id\x7d/reasons"⟩] },
    { name := "UpdateReason", access := .update
      input := "UpdateReasonRequest", output := "Reason"
      bindings := [⟨.put, "/cases/close_reasons/\x7bclose_reason_id\x7d/reasons/\x7bid\x7d"⟩,
        ⟨.patch, "/cases/close_reasons/\x7bclose_reason_id\x7d/reasons/\x7bid\x7d"⟩] },
    { name := "DeleteReason", access := .delete
      input := "DeleteReasonRequest", output := "Reason"
      bindings := [⟨.delete, "/cases/close_reasons/\x7bclose_reason_id\x7d/reasons/\x7bid\x7d"⟩] },
    { name := "LocateReason", access := .read
      input := "LocateReasonRequest", output := "LocateReasonResponse"
      bindings := [⟨.get, "/cases/close_reasons/\x7bclose_reason_id\x7d/reasons/\x7bid\x7d"⟩] }]

/-- The service for the sources that cases come from. -/
def sources : ServiceEntry where
  name := "Sources"
  objclass := "dictionaries"
  methods := [
    { name := "ListSources", access := .read
      input := "ListSourcesRequest", output := "SourceList"
      bindings := [⟨.get, "/cases/sources"⟩] },
    { name := "CreateSource", access := .create
      input := "CreateSourceRequest", output := "Source"
      bindings := [⟨.post, "/cases/sources"⟩] },
    { name := "UpdateSource", access := .update
      input := "UpdateSourceRequest", output := "Source"
      bindings := [⟨.put, "/cases/sources/\x7bid\x7d"⟩, ⟨.patch, "/cases/sources/\x7bid\x7d"⟩] },
    { name := "DeleteSource", access := .delete
      input := "DeleteSourceRequest", output := "Source"
      bindings := [⟨.delete, "/cases/sources/\x7bid\x7d"⟩] },
    { name := "LocateSource", access := .read
      input := "LocateSourceRequest", output := "LocateSourceResponse"
      bindings := [⟨.get, "/cases/sources/\x7bid\x7d"⟩] }]

/-- The service for statuses. -/
def statuses : ServiceEntry where
  name := "Statuses"
  objclass := "dictionaries"
  methods := [
    { name := "ListStatuses", access := .read
      input := "ListStatusesRequest", output := "StatusList"
      bindings := [⟨.get, "/cases/statuses"⟩] },
    { name := "CreateStatus", access := .create
      input := "CreateStatusRequest", output := "Status"
      bindings := [⟨.post, "/cases/statuses"⟩] },
    { name := "UpdateStatus", access := .update
      input := "UpdateStatusRequest", output := "Status"
      bindings := [⟨.put, "/cases/statuses/\x7bid\x7d"⟩, ⟨.patch, "/cases/statuses/\x7bid\x7d"⟩] },
    { name := "DeleteStatus", access := .delete
      input := "DeleteStatusRequest", output := "Status"
      bindings := [⟨.delete, "/cases/statuses/\x7bid\x7d"⟩] },
    { name := "LocateStatus", access := .read
      input := "LocateStatusRequest", output := "LocateStatusResponse"
      bindings := [⟨.get, "/cases/statuses/\x7bid\x7d"⟩] }]

/-- The service for the conditions of a status. -/
def statusConditions : ServiceEntry where
  name := "StatusConditions"
  objclass := "dictionaries"
  methods := [
    { name := "ListStatusConditions", access := .read
      input := "ListStatusConditionsRequest", output := "StatusConditionList"
      bindings := [⟨.get, "/cases/statuses/\x7bstatus_id\x7d/conditions"⟩] },
    { name := "CreateStatusCondition", access := .create
      input := "CreateStatusConditionRequest", output := "StatusCondition"
      bindings := [⟨.post, "/cases/statuses/\x7bstatus_id\x7d/conditions"⟩] },
    { name := "UpdateStatusCondition", access := .update
      input := "UpdateStatusConditionRequest", output := "StatusCondition"
      bindings := [⟨.put, "/cases/statuses/\x7bstatus_id\x7d/conditions/\x7bid\x7d"⟩,
        ⟨.patch, "/cases/statuses/\x7bstatus_id\x7d/conditions/\x7bid\x7d"⟩] },
    { name := "DeleteStatusCondition", access := .delete
      input := "DeleteStatusConditionRequest", output := "StatusCondition"
      bindings := [⟨.delete, "/cases/statuses/\x7bstatus_id\x7d/conditions/\x7bid\x7d"⟩] },
    { name := "LocateStatusCondition", access := .read
      input := "LocateStatusConditionRequest", output := "LocateStatusConditionResponse"
      bindings := [⟨.get, "/cases/statuses/\x7bstatus_id\x7d/conditions/\x7bid\x7d"⟩] }]

/-- The service for priorities. -/
def priorities : ServiceEntry where
  name := "Priorities"
  objclass := "dictionaries"
  methods := [
    { name := "ListPriorities", access := .read
      input := "ListPrioritiesRequest", output := "PriorityList"
      bindings := [⟨.get, "/cases/priorities"⟩] },
    { name := "CreatePriority", access := .create
      input := "CreatePriorityRequest", output := "Priority"
      bindings := [⟨.post, "/cases/priorities"⟩] },
    { name := "UpdatePriority", access := .update
      input := "UpdatePriorityRequest", output := "Priority"
      bindings := [⟨.put, "/cases/priorities/\x7bid\x7d"⟩,
        ⟨.patch, "/cases/priorities/\x7bid\x7d"⟩] },
    { name := "DeletePriority", access := .delete
      input := "DeletePriorityRequest", output := "Priority"
      bindings := [⟨.delete, "/cases/priorities/\x7bid\x7d"⟩] },
    { name := "LocatePriority", access := .read
      input := "LocatePriorityRequest", output := "LocatePriorityResponse"
      bindings := [⟨.get, "/cases/priorities/\x7bid\x7d"⟩] }]

/-- The service for the comments of a case. -/
def caseComments : ServiceEntry where
  name := "CaseComments"
  objclass := "cases"
  methods := [
    { name := "ListComments", access := .read
      input := "ListCommentsRequest", output := "CaseCommentList"
      bindings := [⟨.get, "/cases/\x7bcase_etag\x7d/comments"⟩] },
    { name := "PublishComment", access := .create
      input := "PublishCommentRequest", output := "CaseComment"
      bindings := [⟨.post, "/cases/\x7bcase_etag\x7d/comments"⟩] },
    { name := "UpdateComment", access := .update
      input := "UpdateCommentRequest", output := "CaseComment"
      bindings := [⟨.put, "/cases/comments/\x7betag\x7d"⟩,
        ⟨.patch, "/cases/comments/\x7betag\x7d"⟩] },
    { name := "DeleteComment", access := .delete
      input := "DeleteCommentRequest", output := "CaseComment"
      bindings := [⟨.delete, "/cases/comments/\x7betag\x7d"⟩] },
    { name := "LocateComment", access := .read
      input := "LocateCommentRequest", output := "CaseComment"
      bindings := [⟨.get, "/cases/comments/\x7betag\x7d"⟩] }]

/-- The service for the links of a case. -/
def caseLinks : ServiceEntry where
  name := "CaseLinks"
  objclass := "cases"
  methods := [
    { name := "ListLinks", access := .read
      input := "ListLinksRequest", output := "CaseLinkList"
      bindings := [⟨.get, "/cases/\x7bcase_etag\x7d/links"⟩] },
    { name := "CreateLink", access := .create
      input := "CreateLinkRequest", output := "CaseLink"
      bindings := [⟨.post, "/cases/\x7bcase_etag\x7d/links"⟩] },
    { name := "UpdateLink", access := .update
      input := "UpdateLinkRequest", output := "CaseLink"
      bindings := [⟨.put, "/cases/\x7bcase_etag\x7d/links/\x7betag\x7d"⟩,
        ⟨.patch, "/cases/\x7bcase_etag\x7d/links/\x7betag\x7d"⟩] },
    { name := "DeleteLink", access := .delete
      input := "DeleteLinkRequest", output := "CaseLink"
      bindings := [⟨.delete, "/cases/\x7bcase_etag\x7d/links/\x7betag\x7d"⟩] },
    { name := "LocateLink", access := .read
      input := "LocateLinkRequest", output := "CaseLink"
      bindings := [⟨.get, "/cases/\x7bcase_etag\x7d/links/\x7betag\x7d"⟩] }]

/-- Every service. -/
def services : List ServiceEntry :=
  [slas, slaConditions, closeReasons, reasons, sources,
    statuses, statusConditions, priorities, caseComments, caseLinks]

/-- The service with a given name. -/
def service? (name : String) : Option ServiceEntry := services.find? (·.name == name)

/-- The method with a given name of a service with a given name. -/
def method? (service method : String) : Option (ServiceEntry × Method) := do
  let s ← service? service
  return (s, ← s.method? method)

/-- A text without `start` in front. -/
def dropStart? : (start text : List Char) → Option (List Char)
  | [], text => some text
  | c :: start, d :: text => if c = d then dropStart? start text else none
  | _ :: _, [] => none

/-- The method that a request path calls: slashes, the service's full name, a slash and the
    method's name. -/
def lookupPath (path : String) : Option (ServiceEntry × Method) := do
  let (qualifiedName, method) ← Text.cutOnce '/' (path.toList.dropWhile (· == '/'))
  let rest ← dropStart? packageName.toList qualifiedName
  let name ← dropStart? ['.'] rest
  method? (String.ofList name) (String.ofList method)

end CaseDesk.Registry

/-
  Calls: the fifty methods of the ten services.

  * `ServiceName`: the services.
  * `Call`, `Answer`: a request to a service, and its reply.
  * `serve`: what a call does to the tables, and what it is answered with.
  * `Call.read`, `Answer.write`: calls and answers as messages.
-/
import CaseDesk.Service.CaseComments
import CaseDesk.Service.CaseLinks
import CaseDesk.Service.CloseReasons
import CaseDesk.Service.Priorities
import CaseDesk.Service.Reasons
import CaseDesk.Service.SlaConditions
import CaseDesk.Service.Slas
import CaseDesk.Service.Sources
import CaseDesk.Service.StatusConditions
import CaseDesk.Service.Statuses

namespace CaseDesk

/-- The services. -/
inductive ServiceName where
  | slas
  | slaConditions
  | closeReasons
  | reasons
  | sources
  | statuses
  | statusConditions
  | priorities
  | caseComments
  | caseLinks
  deriving DecidableEq, Repr

/-- A request to one of the services. -/
inductive Call where
  | slas (r : Request Unit Unit Int SlaInput)
  | slaConditions (r : Request Int Unit ChildKey SlaConditionInput)
  | closeReasons (r : Request Unit Unit Int CloseReasonInput)
  | reasons (r : Request Int Unit ChildKey ReasonInput)
  | sources (r : Request Unit (List Int) Int SourceInput)
  | statuses (r : Request Unit Unit Int CaseStatusInput)
  | statusConditions (r : Request Int Unit ChildKey StatusConditionInput)
  | priorities (r : Request Unit Unit Int PriorityInput)
  | caseComments (r : Request String Unit String CaseCommentInput)
  | caseLinks (r : Request String Unit CaseLinks.LinkKey CaseLinkInput)
  deriving DecidableEq, Repr

/-- A reply of one of the services. -/
inductive Answer where
  | slas (r : Reply Sla)
  | slaConditions (r : Reply SlaCondition)
  | closeReasons (r : Reply CloseReason)
  | reasons (r : Reply Reason)
  | sources (r : Reply Source)
  | statuses (r : Reply CaseStatus)
  | statusConditions (r : Reply StatusCondition)
  | priorities (r : Reply Priority)
  | caseComments (r : Reply CaseComment)
  | caseLinks (r : Reply CaseLink)
  deriving DecidableEq, Repr

/-- Serves a call. -/
def serve (ctx : Context) : Call → Action Answer
  | .slas r => .slas <$> Slas.desk.serve ctx r
  | .slaConditions r => .slaConditions <$> SlaConditions.desk.serve ctx r
  | .closeReasons r => .closeReasons <$> CloseReasons.desk.serve ctx r
  | .reasons r => .reasons <$> Reasons.desk.serve ctx r
  | .sources r => .sources <$> Sources.desk.serve ctx r
  | .statuses r => .statuses <$> Statuses.desk.serve ctx r
  | .statusConditions r => .statusConditions <$> StatusConditions.desk.serve ctx r
  | .priorities r => .priorities <$> Priorities.desk.serve ctx r
  | .caseComments r => .caseComments <$> CaseComments.desk.serve ctx r
  | .caseLinks r => .caseLinks <$> CaseLinks.desk.serve ctx r

/-- What a call is answered with, and the tables after it. -/
def Call.run (call : Call) (ctx : Context) (tables : Tables) :
    Except ServiceError Answer × Tables :=
  (serve ctx call).run.run tables

namespace ServiceName

/-- All services, in the order of the registry. -/
def all : List ServiceName :=
  [slas, slaConditions, closeReasons, reasons, sources, statuses, statusConditions, priorities,
    caseComments, caseLinks]

/-- The name of a service in the registry. -/
def word : ServiceName → String
  | slas => Slas.desk.service
  | slaConditions => SlaConditions.desk.service
  | closeReasons => CloseReasons.desk.service
  | reasons => Reasons.desk.service
  | sources => Sources.desk.service
  | statuses => Statuses.desk.service
  | statusConditions => StatusConditions.desk.service
  | priorities => Priorities.desk.service
  | caseComments => CaseComments.desk.service
  | caseLinks => CaseLinks.desk.service

/-- The name of a method of a service. -/
def methodWord : ServiceName → Operation → String
  | slas => Slas.method
  | slaConditions => SlaConditions.method
  | closeReasons => CloseReasons.method
  | reasons => Reasons.method
  | sources => Sources.method
  | statuses => Statuses.method
  | statusConditions => StatusConditions.method
  | priorities => Priorities.method
  | caseComments => CaseComments.method
  | caseLinks => CaseLinks.method

/-- The service and the operation that names stand for. -/
def find? (service method : String) : Option (ServiceName × Operation) := do
  let s ← all.find? (·.word == service)
  let op ← [Operation.list, .create, .update, .delete, .locate].find? (s.methodWord · == method)
  return (s, op)

end ServiceName

/-- The call of a method, its message read by `read`. -/
def Call.read {ε : Type} (read : {α : Type} → Schema α → Except ε α) (op : Operation) :
    ServiceName → Except ε Call
  | .slas => .slas <$> Slas.messages.readRequest read op
  | .slaConditions => .slaConditions <$> SlaConditions.messages.readRequest read op
  | .closeReasons => .closeReasons <$> CloseReasons.messages.readRequest read op
  | .reasons => .reasons <$> Reasons.messages.readRequest read op
  | .sources => .sources <$> Sources.messages.readRequest read op
  | .statuses => .statuses <$> Statuses.messages.readRequest read op
  | .statusConditions => .statusConditions <$> StatusConditions.messages.readRequest read op
  | .priorities => .priorities <$> Priorities.messages.readRequest read op
  | .caseComments => .caseComments <$> CaseComments.messages.readRequest read op
  | .caseLinks => .caseLinks <$> CaseLinks.messages.readRequest read op

/-- An answer, its message written by `write`. -/
def Answer.write {γ : Type} (write : {α : Type} → Schema α → α → γ) : Answer → γ
  | .slas r => Slas.messages.writeReply write r
  | .slaConditions r => SlaConditions.messages.writeReply write r
  | .closeReasons r => CloseReasons.messages.writeReply write r
  | .reasons r => Reasons.messages.writeReply write r
  | .sources r => Sources.messages.writeReply write r
  | .statuses r => Statuses.messages.writeReply write r
  | .statusConditions r => StatusConditions.messages.writeReply write r
  | .priorities r => Priorities.messages.writeReply write r
  | .caseComments r => CaseComments.messages.writeReply write r
  | .caseLinks r => CaseLinks.messages.writeReply write r

end CaseDesk

/-
  What a call can do.

  * `Call.service`, `Call.operation`: the method that a call is made to.
  * `ServiceName.registered`: what the registry asks for it.
  * `Call.Step`: a call is a step of the desk that it is made to
    (`Call.step_run`).
  * `StatusConditions.leaves`, `Priorities.leaves`: what the two desks leave
    alone that settle more than their own row.
  * `Reachable`: the tables that calls lead to from empty ones.
-/
import CaseDesk.Proofs.Desks
import CaseDesk.Service.Call

namespace CaseDesk

namespace Call

/-! ## Calls -/

/-- The service that a call is made to. -/
def service : Call → ServiceName
  | slas _ => .slas
  | slaConditions _ => .slaConditions
  | closeReasons _ => .closeReasons
  | reasons _ => .reasons
  | sources _ => .sources
  | statuses _ => .statuses
  | statusConditions _ => .statusConditions
  | priorities _ => .priorities
  | caseComments _ => .caseComments
  | caseLinks _ => .caseLinks

/-- What a call asks for. -/
def operation : Call → Operation
  | slas r => r.operation
  | slaConditions r => r.operation
  | closeReasons r => r.operation
  | reasons r => r.operation
  | sources r => r.operation
  | statuses r => r.operation
  | statusConditions r => r.operation
  | priorities r => r.operation
  | caseComments r => r.operation
  | caseLinks r => r.operation

end Call

/-! ## Registered methods -/

/-- What an operation does with records. -/
def Operation.access : Operation → Access
  | list | locate => .read
  | create => .create
  | update => .update
  | delete => .delete

/-- The class of the records of a service. -/
def ServiceName.objclass : ServiceName → String
  | caseComments | caseLinks => "cases"
  | _ => "dictionaries"

/-- Every method is registered under the name that its service gives it, and needs the access that
    its operation has on the class of the records of the service. -/
theorem ServiceName.registered (service : ServiceName) (op : Operation) :
    ∃ s m, Registry.method? service.word (service.methodWord op) = some (s, m) ∧
      s.objclass = service.objclass ∧ m.access = op.access ∧ m.name = service.methodWord op := by
  cases service <;> cases op <;> exact ⟨_, _, rfl, rfl, rfl, rfl⟩

namespace Call

/-! ## Steps -/

/-- What a call can come to: a step of the desk that it is made to. -/
inductive Step (ctx : Context) (s : Tables) :
    Call → Except ServiceError Answer → Tables → Prop
  | slas {r out s'} (h : Slas.desk.Step ctx s r out s') :
      Step ctx s (.slas r) (.slas <$> out) s'
  | slaConditions {r out s'} (h : SlaConditions.desk.Step ctx s r out s') :
      Step ctx s (.slaConditions r) (.slaConditions <$> out) s'
  | closeReasons {r out s'} (h : CloseReasons.desk.Step ctx s r out s') :
      Step ctx s (.closeReasons r) (.closeReasons <$> out) s'
  | reasons {r out s'} (h : Reasons.desk.Step ctx s r out s') :
      Step ctx s (.reasons r) (.reasons <$> out) s'
  | sources {r out s'} (h : Sources.desk.Step ctx s r out s') :
      Step ctx s (.sources r) (.sources <$> out) s'
  | statuses {r out s'} (h : Statuses.desk.Step ctx s r out s') :
      Step ctx s (.statuses r) (.statuses <$> out) s'
  | statusConditions {r out s'} (h : StatusConditions.desk.Step ctx s r out s') :
      Step ctx s (.statusConditions r) (.statusConditions <$> out) s'
  | priorities {r out s'} (h : Priorities.desk.Step ctx s r out s') :
      Step ctx s (.priorities r) (.priorities <$> out) s'
  | caseComments {r out s'} (h : CaseComments.desk.Step ctx s r out s') :
      Step ctx s (.caseComments r) (.caseComments <$> out) s'
  | caseLinks {r out s'} (h : CaseLinks.desk.Step ctx s r out s') :
      Step ctx s (.caseLinks r) (.caseLinks <$> out) s'

/-- **A call is a step of its desk.** -/
theorem step_run (call : Call) (ctx : Context) (s : Tables) :
    Step ctx s call (call.run ctx s).1 (call.run ctx s).2 := by
  change Step ctx s call ((serve ctx call).exec s).1 ((serve ctx call).exec s).2
  cases call <;> simp only [serve, Action.exec_map]
  case slas r => exact .slas (Slas.desk.step_serve ctx s r)
  case slaConditions r => exact .slaConditions (SlaConditions.desk.step_serve ctx s r)
  case closeReasons r => exact .closeReasons (CloseReasons.desk.step_serve ctx s r)
  case reasons r => exact .reasons (Reasons.desk.step_serve ctx s r)
  case sources r => exact .sources (Sources.desk.step_serve ctx s r)
  case statuses r => exact .statuses (Statuses.desk.step_serve ctx s r)
  case statusConditions r => exact .statusConditions (StatusConditions.desk.step_serve ctx s r)
  case priorities r => exact .priorities (Priorities.desk.step_serve ctx s r)
  case caseComments r => exact .caseComments (CaseComments.desk.step_serve ctx s r)
  case caseLinks r => exact .caseLinks (CaseLinks.desk.step_serve ctx s r)

/-- A call that fails changes nothing. -/
theorem Step.unchanged_of_error {call : Call} {ctx : Context} {s s' : Tables}
    {out : Except ServiceError Answer} (h : call.Step ctx s out s') {e : ServiceError}
    (he : out = .error e) : s' = s := by
  cases h with
  | slas h | slaConditions h | closeReasons h | reasons h | sources h | statuses h
  | statusConditions h | priorities h | caseComments h | caseLinks h =>
    exact h.unchanged_of_error (map_eq_error.1 he)

/-- A call that only reads changes nothing. -/
theorem Step.unchanged_of_read {call : Call} {ctx : Context} {s s' : Tables}
    {out : Except ServiceError Answer} (h : call.Step ctx s out s')
    (hr : call.operation = .list ∨ call.operation = .locate) : s' = s := by
  cases h with
  | slas h | slaConditions h | closeReasons h | reasons h | sources h | statuses h
  | statusConditions h | priorities h | caseComments h | caseLinks h =>
    exact h.unchanged_of_read hr

end Call

/-! ## What desks leave alone -/

theorem StatusConditions.leaves {α : Type} {part : Tables → α}
    (h : ∀ t s, part (Shelf.statusConditions.set t s) = part s := by intros; rfl) :
    desk.Leaves part where
  own := h
  settled before row s := by
    change part (settled before row s) = part s
    unfold settled
    split
    · exact h _ s
    · rfl

theorem Priorities.leaves {α : Type} {part : Tables → α}
    (hown : ∀ t s, part (Shelf.priorities.set t s) = part s := by intros; rfl)
    (h : ∀ t s, part (Shelf.slaConditions.set t s) = part s := by intros; rfl) :
    desk.Leaves part where
  own := hown
  settled before row s := by
    cases before with
    | none => rfl
    | some _ => exact h _ s
  cleared _ s := h _ s

/-- The tables that calls lead to from empty ones. -/
inductive Reachable : Tables → Prop
  | start : Reachable {}
  | call {s : Tables} (h : Reachable s) (ctx : Context) (call : Call) : Reachable (call.run ctx s).2

end CaseDesk

/-
  The state of the desk: the ten tables that the services share, and what a
  service can do with them.

  * `Tables`, `Shelf`: the tables, and each of them as a part of the whole.
  * `Action`: work on the tables that can fail.  A failure does not undo what
    was done before it.
-/
import CaseDesk.Record.CaseComment
import CaseDesk.Record.CaseLink
import CaseDesk.Record.CaseStatus
import CaseDesk.Record.CloseReason
import CaseDesk.Record.Priority
import CaseDesk.Record.Reason
import CaseDesk.Record.Sla
import CaseDesk.Record.SlaCondition
import CaseDesk.Record.Source
import CaseDesk.Record.StatusCondition
import CaseDesk.Table

namespace CaseDesk

/-- The tables of the desk. -/
structure Tables where
  slas : Table Sla := {}
  slaConditions : Table SlaCondition := {}
  closeReasons : Table CloseReason := {}
  reasons : Table Reason := {}
  sources : Table Source := {}
  statuses : Table CaseStatus := {}
  statusConditions : Table StatusCondition := {}
  priorities : Table Priority := {}
  comments : Table CaseComment := {}
  links : Table CaseLink := {}
  deriving DecidableEq, Repr

/-- One of the tables. -/
abbrev Shelf (ρ : Type) : Type := Lens Tables (Table ρ)

namespace Shelf

/-- The agreements. -/
def slas : Shelf Sla where
  get s := s.slas
  set t s := { s with slas := t }

/-- The conditions of agreements. -/
def slaConditions : Shelf SlaCondition where
  get s := s.slaConditions
  set t s := { s with slaConditions := t }

/-- The groups of close reasons. -/
def closeReasons : Shelf CloseReason where
  get s := s.closeReasons
  set t s := { s with closeReasons := t }

/-- The close reasons. -/
def reasons : Shelf Reason where
  get s := s.reasons
  set t s := { s with reasons := t }

/-- The sources. -/
def sources : Shelf Source where
  get s := s.sources
  set t s := { s with sources := t }

/-- The statuses. -/
def statuses : Shelf CaseStatus where
  get s := s.statuses
  set t s := { s with statuses := t }

/-- The conditions of statuses. -/
def statusConditions : Shelf StatusCondition where
  get s := s.statusConditions
  set t s := { s with statusConditions := t }

/-- The priorities. -/
def priorities : Shelf Priority where
  get s := s.priorities
  set t s := { s with priorities := t }

/-- The comments. -/
def comments : Shelf CaseComment where
  get s := s.comments
  set t s := { s with comments := t }

/-- The links. -/
def links : Shelf CaseLink where
  get s := s.links
  set t s := { s with links := t }

end Shelf

/-- Work on the tables that can fail. -/
abbrev Action (α : Type) : Type := ExceptT ServiceError (StateM Tables) α

namespace Action

variable {α ρ : Type}

/-- Only looks at the tables. -/
def reading (look : Tables → Except ServiceError α) : Action α :=
  ExceptT.mk fun tables => (look tables, tables)

/-- Works on one table. -/
def onShelf (shelf : Shelf ρ) (work : Table ρ → Except ServiceError α × Table ρ) : Action α :=
  ExceptT.mk fun tables =>
    let (outcome, table) := work (shelf.get tables)
    (outcome, shelf.set table tables)

/-- Changes the tables without fail. -/
def changing (change : Tables → Tables) : Action Unit :=
  ExceptT.mk fun tables => (.ok (), change tables)

end Action

end CaseDesk

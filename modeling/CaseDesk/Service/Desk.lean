/-
  Desks: the five operations of a service, from the rules that make it
  different from others.

  Every operation lets the caller pass first.  Then come the rules of the desk
  for the request, and last the work on its table.

  * list: a page of the records in a place, cut down to the fields asked for
    either in the table or when the page is answered;
  * create: a draft made from the input is stamped and inserted;
  * update: the record that the key names is revised and stamped;
  * delete: the record that the key names is removed if the rules allow it;
  * locate: the record that the key names.

  What a desk changes beyond its own record stands in `settled` and `cleared`.
-/
import CaseDesk.Access.Caller
import CaseDesk.Service.Request
import CaseDesk.Service.Tables

namespace CaseDesk

/-- What a call comes with besides its request. -/
structure Context where
  caller : Option Caller
  now : Int
  limits : PageLimits

/-- The rules of a service. -/
structure Desk (P F K I ρ : Type) where
  /-- The name of the service. -/
  service : String
  /-- The names of its methods. -/
  method : Operation → String
  /-- The table of its records. -/
  shelf : Shelf ρ
  /-- The parent whose records a list is about, where there is one. -/
  listScope : Tables → P → Except ServiceError (Option Int)
  /-- Whether the filter of a list keeps a record. -/
  keeps : F → ρ → Bool
  /-- The new record that an input at a place gives. -/
  draft : Tables → Caller → P → Option I → Except ServiceError ρ
  /-- The row that an update is about, and how an input under a mask revises it. -/
  revision : Tables → K → Option I → FieldMask →
    Except ServiceError (RowKey × (Caller → ρ → Except ServiceError ρ))
  /-- The row that a removal is about, and whether it may go. -/
  removal : Tables → K → Except ServiceError (RowKey × (Caller → ρ → Except ServiceError Unit))
  /-- The row that a key names. -/
  address : Tables → K → Except ServiceError RowKey
  /-- What the query of a list makes of the fields asked for. -/
  narrowed : List String → ListQuery → ListQuery
  /-- How a row on a page is answered to a caller, with the fields asked for. -/
  listed : Caller → List String → Row ρ → ρ
  /-- How a single row is answered to a caller, with the names of the fields asked for. -/
  present : Caller → List String → Row ρ → ρ
  /-- What else changes after a row was created, or changed from what it was before. -/
  settled : Option (Row ρ) → Row ρ → Tables → Tables := fun _ _ tables => tables
  /-- What else changes after the row with a key was removed. -/
  cleared : RowKey → Tables → Tables := fun _ tables => tables

namespace Desk

variable {P F K I ρ : Type} [Record ρ]

/-- Lets the caller pass. -/
def enter (d : Desk P F K I ρ) (ctx : Context) (op : Operation) : Action Caller :=
  .reading fun _ => authorize ctx.caller d.service (d.method op)

/-- The query of a list request. -/
def query (d : Desk P F K I ρ) (ctx : Context) (r : ListRequest P F) :
    Except ServiceError ListQuery :=
  match (ListQuery.plain r.page r.size ctx.limits).searching r.q with
  | .ok query => .ok ((d.narrowed r.fields (query.sortedBy r.sort)).among r.ids)
  | .error e => .error (.store e)

/-- A page of the records in a place. -/
def list (d : Desk P F K I ρ) (ctx : Context) (r : ListRequest P F) : Action (ListReply ρ) := do
  let caller ← d.enter ctx .list
  let scope ← Action.reading fun tables => d.listScope tables r.place
  let query ← Action.reading fun _ => d.query ctx r
  let page := (d.shelf.get (← get)).listWhere scope query (d.keeps r.filter)
  return { page := page.page, next := page.next
           items := page.items.map (d.listed caller r.fields) }

/-- Makes a new record. -/
def create (d : Desk P F K I ρ) (ctx : Context) (r : CreateRequest P I) : Action ρ := do
  let caller ← d.enter ctx .create
  let draft ← Action.reading fun tables => d.draft tables caller r.place r.input
  let row ← Action.onShelf d.shelf fun table =>
    let (row, table) := table.insert (Record.touchCreated caller.user ctx.now draft)
    (.ok row, table)
  Action.changing (d.settled none row)
  return d.present caller [] row

/-- Changes a record. -/
def update (d : Desk P F K I ρ) (ctx : Context) (r : UpdateRequest K I) : Action ρ := do
  let caller ← d.enter ctx .update
  let (key, revise) ← Action.reading fun tables =>
    d.revision tables r.key r.input (.ofTexts r.mask)
  let before := (d.shelf.get (← get)).row? key.id
  let row ← Action.onShelf d.shelf fun table =>
    table.update key (.ofRevision fun old => do
      return Record.touchUpdated caller.user ctx.now (← revise caller old))
  Action.changing (d.settled before row)
  return d.present caller [] row

/-- Removes a record. -/
def delete (d : Desk P F K I ρ) (ctx : Context) (r : DeleteRequest K) : Action ρ := do
  let caller ← d.enter ctx .delete
  let (key, allow) ← Action.reading fun tables => d.removal tables r.key
  let row ← Action.onShelf d.shelf fun table => table.removeIf key (allow caller)
  Action.changing (d.cleared key)
  return d.present caller [] row

/-- Finds a record. -/
def locate (d : Desk P F K I ρ) (ctx : Context) (r : LocateRequest K) : Action ρ := do
  let caller ← d.enter ctx .locate
  let key ← Action.reading fun tables => d.address tables r.key
  let row ← Action.reading fun tables =>
    match (d.shelf.get tables).find key with
    | .ok row => .ok row
    | .error e => .error (.store e)
  return d.present caller (fieldNames r.fields) row

/-- Serves a request. -/
def serve (d : Desk P F K I ρ) (ctx : Context) : Request P F K I → Action (Reply ρ)
  | .list r => .page <$> d.list ctx r
  | .create r => .record <$> d.create ctx r
  | .update r => .record <$> d.update ctx r
  | .delete r => .record <$> d.delete ctx r
  | .locate r => .located <$> d.locate ctx r

end Desk

end CaseDesk

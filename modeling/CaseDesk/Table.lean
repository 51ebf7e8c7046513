/-
  Tables of records.

  A table has one slot for every record ever inserted, in order.  The slot's
  position is the record's id, counted from 1; removing a record empties its
  slot, so that no id is used twice.  A row is a record with a version, which
  starts at 1 and is counted up by every change, in 32 bits: after the largest
  version comes the smallest.

  * `RowKey`: addresses a row by id, perhaps by the parent it has to have and
    the version it has to be at.
  * `find`: the row that a key addresses, or why there is none: a wrong parent
    counts as a missing row and comes before a wrong version.
  * `insert`, `update`, `removeIf`, `remove`: one row.  A failed edit or a
    failed check leaves the table alone.
  * `removeScope`, `modifyScope`, `modifyAll`: all rows of a parent, all rows.
  * `list`: a page of the rows that a query asks for.

  Operations that can fail give the table after them beside their outcome.
-/
import CaseDesk.Listing.Query
import CaseDesk.Record.Basic

namespace CaseDesk

/-- Versions of 32 bits are read as numbers. -/
instance versionToInt : Coe Int32 Int := ⟨Int32.toInt⟩

/-- A record with its version. -/
structure Row (ρ : Type) where
  ver : Int32
  value : ρ
  deriving DecidableEq, Repr

/-- Addresses a row. -/
structure RowKey where
  id : Int
  scope : Option Int := none
  ver : Option Int := none
  deriving DecidableEq, Repr

/-- A page of a list. -/
structure Page (α : Type) where
  page : Nat
  next : Bool
  items : List α
  deriving DecidableEq, Repr

/-- One slot for every record ever inserted. -/
structure Table (ρ : Type) where
  slots : List (Option (Row ρ)) := []
  deriving DecidableEq, Repr

/-- Changes a copy of a record and says whether the change is accepted; a copy that is not
    accepted is dropped, however far the change got. -/
abbrev Edit (ρ : Type) : Type := ρ → Except ServiceError Unit × ρ

/-- The edit that replaces a record by what a function makes of it. -/
def Edit.ofRevision {ρ : Type} (revise : ρ → Except ServiceError ρ) : Edit ρ := fun old =>
  match revise old with
  | .ok new => (.ok (), new)
  | .error e => (.error e, old)

namespace Table

variable {ρ : Type}

/-- The rows in the order of their ids. -/
def rows (t : Table ρ) : List (Row ρ) := t.slots.filterMap id

/-- The row with an id. -/
def row? (t : Table ρ) (id : Int) : Option (Row ρ) :=
  if 1 ≤ id then (t.slots[(id - 1).toNat]?).join else none

/-- Whether there is a row with an id. -/
def contains (t : Table ρ) (id : Int) : Bool := (t.row? id).isSome

/-- Puts a row, or nothing, into the slot of an id. -/
def put (t : Table ρ) (id : Int) (row : Option (Row ρ)) : Table ρ :=
  ⟨t.slots.set (id - 1).toNat row⟩

variable [Record ρ]

/-- Whether a record belongs to a parent. -/
def inScope (scope : Int) (r : ρ) : Bool := Record.scope r == some scope

/-- Whether a row is the one that a key addresses. -/
def check (key : RowKey) (row : Row ρ) : Except StoreError Unit :=
  if key.scope.any fun scope => !inScope scope row.value then
    .error (.notFound (Record.kind ρ) key.id)
  else match key.ver with
    | some expected =>
      if expected = row.ver then .ok ()
      else .error (.versionMismatch (Record.kind ρ) key.id expected row.ver)
    | none => .ok ()

/-- The row that a key addresses. -/
def find (t : Table ρ) (key : RowKey) : Except StoreError (Row ρ) :=
  match t.row? key.id with
  | none => .error (.notFound (Record.kind ρ) key.id)
  | some row => do
    check key row
    return row

/-- Adds a record under the next id. -/
def insert (t : Table ρ) (r : ρ) : Row ρ × Table ρ :=
  let row := { ver := 1, value := Record.withId (t.slots.length + 1) r }
  (row, ⟨t.slots ++ [some row]⟩)

/-- Changes a row; its id stays whatever the edit does. -/
def update (t : Table ρ) (key : RowKey) (edit : Edit ρ) :
    Except ServiceError (Row ρ) × Table ρ :=
  match t.find key with
  | .error e => (.error (.store e), t)
  | .ok row =>
    match edit row.value with
    | (.error e, _) => (.error e, t)
    | (.ok (), value) =>
      let row := { ver := row.ver + 1, value := Record.withId key.id value }
      (.ok row, t.put key.id (some row))

/-- Removes a row that a check accepts. -/
def removeIf (t : Table ρ) (key : RowKey) (accept : ρ → Except ServiceError Unit) :
    Except ServiceError (Row ρ) × Table ρ :=
  match t.find key with
  | .error e => (.error (.store e), t)
  | .ok row =>
    match accept row.value with
    | .error e => (.error e, t)
    | .ok () => (.ok row, t.put key.id none)

/-- Removes a row. -/
def remove (t : Table ρ) (key : RowKey) : Except ServiceError (Row ρ) × Table ρ :=
  t.removeIf key fun _ => .ok ()

/-- The rows of a parent in the order of their ids. -/
def scopeRows (t : Table ρ) (scope : Int) : List (Row ρ) :=
  t.rows.filter fun row => inScope scope row.value

/-- Removes the rows of a parent and counts them. -/
def removeScope (t : Table ρ) (scope : Int) : Nat × Table ρ :=
  ((t.scopeRows scope).length, ⟨t.slots.map fun slot => slot.filter fun row => !inScope scope row.value⟩)

/-- A row after a bulk change, which says whether it changed the record. -/
def changeRow (change : ρ → Bool × ρ) (row : Row ρ) : Row ρ :=
  let (changed, value) := change row.value
  { ver := if changed then row.ver + 1 else row.ver, value }

/-- Applies a bulk change to the rows that are selected, and counts those that it says it
    changed.  Only they get a new version. -/
def modifyWhere (t : Table ρ) (select : ρ → Bool) (change : ρ → Bool × ρ) : Nat × Table ρ :=
  (t.rows.countP fun row => select row.value && (change row.value).1,
    ⟨t.slots.map fun slot => slot.map fun row =>
      if select row.value then changeRow change row else row⟩)

/-- Applies a bulk change to the rows of a parent. -/
def modifyScope (t : Table ρ) (scope : Int) (change : ρ → Bool × ρ) : Nat × Table ρ :=
  t.modifyWhere (inScope scope) change

/-- Applies a bulk change to all rows. -/
def modifyAll (t : Table ρ) (change : ρ → Bool × ρ) : Nat × Table ρ :=
  t.modifyWhere (fun _ => true) change

/-! ## Lists -/

/-- How two records compare by sort terms: by the first term on whose field both have a key and
    differ, else by their ids. -/
def compareBy : List SortTerm → ρ → ρ → Ordering
  | [], a, b => compare (Record.idOf a) (Record.idOf b)
  | term :: terms, a, b =>
    match Record.sortKey? term.field a, Record.sortKey? term.field b with
    | some x, some y =>
      (match term.order with
        | .asc => x.cmp y
        | .desc => (x.cmp y).swap).then (compareBy terms a b)
    | _, _ => compareBy terms a b

/-- Whether a query asks for a record of a parent. -/
def wanted (scope : Option Int) (query : ListQuery) (keep : ρ → Bool) (r : ρ) : Bool :=
  scope.all (inScope · r) && query.acceptsId (Record.idOf r) &&
    query.acceptsText (Record.searchText r) && keep r

/-- The rows that a query asks for, in the order of its sort terms. -/
def matching (t : Table ρ) (scope : Option Int) (query : ListQuery) (keep : ρ → Bool) :
    List (Row ρ) :=
  let found := t.rows.filter fun row => wanted scope query keep row.value
  if query.sort.isEmpty then found
  else found.mergeSort fun a b => compareBy query.sort a.value b.value != .gt

/-- The page that a query asks for, of the rows that `keep` accepts. -/
def listWhere (t : Table ρ) (scope : Option Int) (query : ListQuery) (keep : ρ → Bool) :
    Page (Row ρ) :=
  let found := t.matching scope query keep
  let items := (found.drop query.offset).take query.size
  { page := query.page
    next := decide (min (query.offset + items.length) ListQuery.maxCount < found.length)
    items := items.map fun row => { row with value := Record.project query.fields row.value } }

/-- The page that a query asks for. -/
def list (t : Table ρ) (scope : Option Int) (query : ListQuery) : Page (Row ρ) :=
  t.listWhere scope query fun _ => true

end Table

end CaseDesk

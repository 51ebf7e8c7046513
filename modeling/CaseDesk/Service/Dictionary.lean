/-
  Dictionaries: services whose records are named by their ids.

  A root dictionary holds records that stand by themselves; a child dictionary
  holds records that belong to a record of another dictionary, which has to
  exist in every call.

  * `Desk.root`: the rules of a root dictionary, from how inputs revise records.
  * `Desk.child`: the rules of a child dictionary.  An input may be prepared
    against the tables before the record is looked at.
-/
import CaseDesk.Service.Desk
import CaseDesk.Service.Require

namespace CaseDesk

/-- Names a record together with its parent. -/
structure ChildKey where
  parent : Int := 0
  id : Int := 0
  deriving DecidableEq, Repr

/-- The fields that name a child record, the parent's id under a name of its own. -/
def ChildKey.part (parent : String) : PartSchema ChildKey where
  blank := {}
  fields := [
    .of parent .int64 (·.parent) fun v k => { k with parent := v },
    .of "id" .int64 (·.id) fun v k => { k with id := v }]

/-- The parent of the records of a child dictionary: where it is kept and what requests call it. -/
structure Parent (π : Type) where
  field : String
  shelf : Shelf π

variable {F I π ρ : Type}

/-- The id of a parent, which has to be positive and to exist. -/
def Parent.require [Record π] (p : Parent π) (tables : Tables) (id : Int) :
    Except ServiceError Int := do
  let id ← Require.id p.field id
  if (p.shelf.get tables).contains id then return id
  else throw (.store (.notFound (Record.kind π) id))

namespace Desk

variable [Record ρ]

/-- The fields asked for are what a list cuts records down to, in the table. -/
def inTable (fields : List String) (query : ListQuery) : ListQuery := query.onto fields

/-- A page shows the records that the table gives. -/
def asGiven (_ : Caller) (_ : List String) (row : Row ρ) : ρ := row.value

/-- A single record is cut down to the fields asked for when it is answered. -/
def projected (_ : Caller) (fields : List String) (row : Row ρ) : ρ :=
  Record.project fields row.value

/-- The rules of a root dictionary. -/
def root (service : String) (method : Operation → String) (shelf : Shelf ρ)
    (keeps : F → ρ → Bool) (revise : FieldMask → I → ρ → Except ServiceError ρ) :
    Desk Unit F Int I ρ where
  service
  method
  shelf
  listScope _ _ := .ok none
  keeps
  draft _ _ _ input := do revise .full (← Require.input input) (Record.schema (ρ := ρ)).blank
  revision _ id input mask := do
    let input ← Require.input input
    return ({ id }, fun _ old => revise mask input old)
  removal _ id := .ok ({ id }, fun _ _ => .ok ())
  address _ id := .ok { id }
  narrowed := inTable
  listed := asGiven
  present := projected

/-- The rules of a child dictionary; `empty` is the record of a parent before an input. -/
def child [Record π] (service : String) (method : Operation → String) (shelf : Shelf ρ)
    (parent : Parent π) (empty : Int → ρ)
    (prepare : Tables → (parent own : Int) → FieldMask → I → Except ServiceError I)
    (revise : FieldMask → I → ρ → Except ServiceError ρ) :
    Desk Int Unit ChildKey I ρ where
  service
  method
  shelf
  listScope tables id := some <$> parent.require tables id
  keeps _ _ := true
  draft tables _ id input := do
    let input ← Require.input input
    let id ← parent.require tables id
    let input ← prepare tables id 0 .full input
    revise .full input (empty id)
  revision tables key input mask := do
    let input ← Require.input input
    let scope ← parent.require tables key.parent
    let input ← prepare tables scope key.id mask input
    return ({ id := key.id, scope := some scope }, fun _ old => revise mask input old)
  removal tables key := do
    let scope ← parent.require tables key.parent
    return ({ id := key.id, scope := some scope }, fun _ _ => .ok ())
  address tables key := do
    let scope ← parent.require tables key.parent
    return { id := key.id, scope := some scope }
  narrowed := inTable
  listed := asGiven
  present := projected

end Desk

end CaseDesk

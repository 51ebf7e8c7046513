/-
  Requests and replies.

  Every service offers the same five operations.  What differs is how a place
  for records is named (`P`: nothing, a parent or a case), how a record is
  named (`K`), what a list may be filtered by besides the usual (`F`) and what
  may be set of a record (`I`).  Each request and each reply is a message, whose
  schema is put together from those parts.
-/
import CaseDesk.Wire.Schema

namespace CaseDesk

/-- What a method does with the records of its service. -/
inductive Operation where
  | list
  | create
  | update
  | delete
  | locate
  deriving DecidableEq, Repr

/-- Asks for a page of the records of a place. -/
structure ListRequest (P F : Type) where
  place : P
  page : Int := 0
  size : Int := 0
  q : String := ""
  sort : String := ""
  fields : List String := []
  ids : List Int := []
  filter : F
  deriving DecidableEq, Repr

/-- Asks for a new record at a place. -/
structure CreateRequest (P I : Type) where
  place : P
  input : Option I := none
  deriving DecidableEq, Repr

/-- Asks for a change of the fields of a record that a mask selects. -/
structure UpdateRequest (K I : Type) where
  key : K
  input : Option I := none
  mask : List String := []
  deriving DecidableEq, Repr

/-- Asks for the removal of a record. -/
structure DeleteRequest (K : Type) where
  key : K
  deriving DecidableEq, Repr

/-- Asks for a record, cut down to some fields. -/
structure LocateRequest (K : Type) where
  key : K
  fields : List String := []
  deriving DecidableEq, Repr

/-- A request to a service. -/
inductive Request (P F K I : Type) where
  | list (r : ListRequest P F)
  | create (r : CreateRequest P I)
  | update (r : UpdateRequest K I)
  | delete (r : DeleteRequest K)
  | locate (r : LocateRequest K)
  deriving DecidableEq, Repr

/-- The operation that a request asks for. -/
def Request.operation {P F K I : Type} : Request P F K I → Operation
  | list _ => .list
  | create _ => .create
  | update _ => .update
  | delete _ => .delete
  | locate _ => .locate

/-- A page of records. -/
structure ListReply (ρ : Type) where
  page : Int := 0
  next : Bool := false
  items : List ρ := []
  deriving DecidableEq, Repr

/-- A record in an envelope of its own. -/
structure LocateReply (ρ : Type) where
  found : Option ρ := none
  deriving DecidableEq, Repr

/-- What a service answers. -/
inductive Reply (ρ : Type) where
  | page (r : ListReply ρ)
  | record (r : ρ)
  | located (r : ρ)
  deriving DecidableEq, Repr

/-! ## Messages -/

/-- The fields of a part of a request, and its value when none are given. -/
structure PartSchema (σ : Type) where
  blank : σ
  fields : List (Field σ)

namespace PartSchema

/-- A part without fields. -/
def none : PartSchema Unit := ⟨(), []⟩

/-- A part that is a single integer. -/
def id (name : String) : PartSchema Int := ⟨0, [{ name, lens := .whole, form := .int64 }]⟩

/-- A part that is a single text. -/
def text (name : String) : PartSchema String := ⟨"", [{ name, lens := .whole, form := .text }]⟩

end PartSchema

variable {P F K I ρ : Type}

/-- The message that asks for a page. -/
def ListRequest.schema (name : String) (place : PartSchema P) (filter : PartSchema F) :
    Schema (ListRequest P F) where
  name
  blank := { place := place.blank, filter := filter.blank }
  fields :=
    place.fields.map (·.within { get := (·.place), set := fun v r => { r with place := v } }) ++ [
      .of "page" .int32 (·.page) fun v r => { r with page := v },
      .of "size" .int32 (·.size) fun v r => { r with size := v },
      .of "q" .text (·.q) fun v r => { r with q := v },
      .of "sort" .text (·.sort) fun v r => { r with sort := v },
      .of "fields" .texts (·.fields) fun v r => { r with fields := v },
      .of "id" .int64s (·.ids) fun v r => { r with ids := v }] ++
    filter.fields.map (·.within { get := (·.filter), set := fun v r => { r with filter := v } })

/-- The message that asks for a new record. -/
def CreateRequest.schema (name : String) (place : PartSchema P) (input : Schema I) :
    Schema (CreateRequest P I) where
  name
  blank := { place := place.blank }
  fields :=
    place.fields.map (·.within { get := (·.place), set := fun v r => { r with place := v } }) ++ [
      .of "input" input.single (·.input) fun v r => { r with input := v }]

/-- The message that asks for a change. -/
def UpdateRequest.schema (name : String) (key : PartSchema K) (input : Schema I) :
    Schema (UpdateRequest K I) where
  name
  blank := { key := key.blank }
  fields :=
    key.fields.map (·.within { get := (·.key), set := fun v r => { r with key := v } }) ++ [
      .of "input" input.single (·.input) fun v r => { r with input := v },
      .of "x_json_mask" .texts (·.mask) fun v r => { r with mask := v }]

/-- The message that asks for a removal. -/
def DeleteRequest.schema (name : String) (key : PartSchema K) : Schema (DeleteRequest K) where
  name
  blank := { key := key.blank }
  fields := key.fields.map (·.within { get := (·.key), set := fun v _ => { key := v } })

/-- The message that asks for a record. -/
def LocateRequest.schema (name : String) (key : PartSchema K) : Schema (LocateRequest K) where
  name
  blank := { key := key.blank }
  fields :=
    key.fields.map (·.within { get := (·.key), set := fun v r => { r with key := v } }) ++ [
      .of "fields" .texts (·.fields) fun v r => { r with fields := v }]

/-- The message that holds a page. -/
def ListReply.schema (name : String) (record : Schema ρ) : Schema (ListReply ρ) where
  name
  blank := {}
  fields := [
    .of "page" .int32 (·.page) fun v r => { r with page := v },
    .of "next" .flag (·.next) fun v r => { r with next := v },
    .of "items" record.many (·.items) fun v r => { r with items := v }]

/-- The message that holds a record under a name. -/
def LocateReply.schema (name field : String) (record : Schema ρ) : Schema (LocateReply ρ) where
  name
  blank := {}
  fields := [.of field record.single (·.found) fun v _ => { found := v }]

/-! ## The messages of a service -/

/-- The messages that a service takes and gives.  Without a schema for located records these are
    answered as they are. -/
structure Messages (P F K I ρ : Type) where
  list : Schema (ListRequest P F)
  create : Schema (CreateRequest P I)
  update : Schema (UpdateRequest K I)
  delete : Schema (DeleteRequest K)
  locate : Schema (LocateRequest K)
  input : Schema I
  record : Schema ρ
  page : Schema (ListReply ρ)
  located : Option (Schema (LocateReply ρ))

namespace Messages

/-- The messages of a service, from the names of its methods, its records and inputs, and the parts
    of its requests; `located` names the field of located records that have an envelope. -/
def of (method : Operation → String) (record : Schema ρ) (input : Schema I)
    (place : PartSchema P) (filter : PartSchema F) (key : PartSchema K) (located : Option String) :
    Messages P F K I ρ where
  list := ListRequest.schema (method .list ++ "Request") place filter
  create := CreateRequest.schema (method .create ++ "Request") place input
  update := UpdateRequest.schema (method .update ++ "Request") key input
  delete := DeleteRequest.schema (method .delete ++ "Request") key
  locate := LocateRequest.schema (method .locate ++ "Request") key
  input
  record
  page := ListReply.schema (record.name ++ "List") record
  located := located.map fun field =>
    LocateReply.schema ("Locate" ++ record.name ++ "Response") field record

/-- The request of an operation, its message read by `read`. -/
def readRequest {ε : Type} (m : Messages P F K I ρ)
    (read : {α : Type} → Schema α → Except ε α) : Operation → Except ε (Request P F K I)
  | .list => .list <$> read m.list
  | .create => .create <$> read m.create
  | .update => .update <$> read m.update
  | .delete => .delete <$> read m.delete
  | .locate => .locate <$> read m.locate

/-- A reply, its message written by `write`. -/
def writeReply {γ : Type} (m : Messages P F K I ρ) (write : {α : Type} → Schema α → α → γ) :
    Reply ρ → γ
  | .page r => write m.page r
  | .record r => write m.record r
  | .located r =>
    match m.located with
    | some s => write s { found := some r }
    | none => write m.record r

end Messages

end CaseDesk

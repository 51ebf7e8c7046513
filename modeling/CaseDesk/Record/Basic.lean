/-
  Records: what the tables hold.

  * `Record`: what all kinds of records have in common: an id, audit stamps,
    perhaps a parent, a text that searches look at, fields to sort by, and
    fields to project onto.
  * `Record.project`: a record cut down to its id and the fields named; no
    names at all keep the whole record.
  * `Record.sortKey?`: the value of a field that rows can be sorted by.
  * `Record.touchCreated`, `Record.touchUpdated`: audit stamps.
-/
import CaseDesk.Listing.Sort
import CaseDesk.Record.Audit

namespace CaseDesk

/-- A kind of record. -/
class Record (ρ : Type) where
  /-- What errors call the kind. -/
  kind : String
  schema : Schema ρ
  id : Lens ρ Int
  audit : Lens ρ Audit
  /-- The id of the parent, for kinds that have one. -/
  scope : ρ → Option Int
  /-- The text that searches look at. -/
  searchText : ρ → String
  /-- What rows can be sorted by, besides the id and the times of the stamps. -/
  sortKeys : List (String × (ρ → SortKey))
  /-- The fields that answers can be cut down to, besides the stamps: under its name, what copies a
      field from one record into another. -/
  projectable : List (String × (ρ → ρ → ρ))

namespace Record

variable {ρ : Type} [Record ρ]

/-- The id of a record. -/
def idOf (r : ρ) : Int := id.get r

/-- The record under another id. -/
def withId (n : Int) (r : ρ) : ρ := id.set n r

/-- Copies a part of the stamps from one record into another. -/
def copyStamp (copy : Audit → Audit → Audit) (source target : ρ) : ρ :=
  audit.modify (copy (audit.get source)) target

/-- The fields that answers can be cut down to, the stamps first. -/
def copies (ρ : Type) [Record ρ] : List (String × (ρ → ρ → ρ)) := [
  ("created_at", copyStamp fun a b => { b with createdAt := a.createdAt }),
  ("created_by", copyStamp fun a b => { b with createdBy := a.createdBy }),
  ("updated_at", copyStamp fun a b => { b with updatedAt := a.updatedAt }),
  ("updated_by", copyStamp fun a b => { b with updatedBy := a.updatedBy })] ++ projectable

/-- Copies the field that a name stands for from one record into another; other names copy
    nothing. -/
def copyField (source target : ρ) (name : String) : ρ :=
  match (copies ρ).lookup name with
  | some copy => copy source target
  | none => target

/-- The record cut down to its id and the fields named; no names keep all of it. -/
def project (names : List String) (r : ρ) : ρ :=
  if names.isEmpty then r
  else names.foldl (copyField r) (withId (idOf r) schema.blank)

/-- The value of a field that rows can be sorted by. -/
def sortKey? (name : String) (r : ρ) : Option SortKey :=
  match name with
  | "id" => some (.int (idOf r))
  | "created_at" => some (.int (audit.get r).createdAt)
  | "updated_at" => some (.int (audit.get r).updatedAt)
  | _ => (sortKeys.lookup name).map (· r)

/-- Stamps a record that `who` creates. -/
def touchCreated (who : Lookup) (time : Int) (r : ρ) : ρ := audit.set (.creation who time) r

/-- Stamps a record that `who` modifies. -/
def touchUpdated (who : Lookup) (time : Int) (r : ρ) : ρ :=
  audit.modify (.modification who time) r

end Record

end CaseDesk

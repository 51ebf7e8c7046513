/-
  References and audit stamps.

  * `Lookup`: a reference to a user, a calendar or a priority, an id with the
    name that goes with it.
  * `Audit`: when and by whom a record was created and last modified.
-/
import CaseDesk.Wire.Schema

namespace CaseDesk

/-- An id with a name. -/
structure Lookup where
  id : Int := 0
  name : String := ""
  deriving DecidableEq, Repr, Inhabited

/-- The fields of a reference. -/
def Lookup.schema : Schema Lookup where
  name := "Lookup"
  blank := {}
  fields := [
    .of "id" .int64 (·.id) fun v r => { r with id := v },
    .of "name" .text (·.name) fun v r => { r with name := v }]

/-- Who created and who last modified a record, and when. -/
structure Audit where
  createdAt : Int := 0
  createdBy : Option Lookup := none
  updatedAt : Int := 0
  updatedBy : Option Lookup := none
  deriving DecidableEq, Repr, Inhabited

namespace Audit

/-- The stamps of a record that `who` creates at a time. -/
def creation (who : Lookup) (time : Int) : Audit := ⟨time, some who, time, some who⟩

/-- The stamps after a modification by `who` at a time. -/
def modification (who : Lookup) (time : Int) (a : Audit) : Audit :=
  { a with updatedAt := time, updatedBy := some who }

/-- The four fields of audit stamps. -/
def fields : List (Field Audit) := [
  .of "created_at" .int64 (·.createdAt) fun v a => { a with createdAt := v },
  .of "created_by" Lookup.schema.single (·.createdBy) fun v a => { a with createdBy := v },
  .of "updated_at" .int64 (·.updatedAt) fun v a => { a with updatedAt := v },
  .of "updated_by" Lookup.schema.single (·.updatedBy) fun v a => { a with updatedBy := v }]

end Audit

end CaseDesk

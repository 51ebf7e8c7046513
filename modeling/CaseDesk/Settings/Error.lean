/-
  Why settings cannot be taken from their layers, and how that is worded.
-/
import CaseDesk.Settings.Value

namespace CaseDesk.Settings

/-- The sections that settings stand in. -/
inductive Section where
  | service
  | listing
  | auth
  deriving DecidableEq, Repr

/-- The key of a section. -/
def Section.key : Section → String
  | service => "service"
  | listing => "listing"
  | auth => "auth"

/-- What a setting or a section has to be. -/
inductive Kind where
  | table (s : Section)
  | text
  | flag
  | port
  | size
  deriving DecidableEq, Repr

/-- How an error names a kind. -/
def Kind.word : Kind → String
  | table .service => "struct ServiceConfig"
  | table .listing => "struct ListingConfig"
  | table .auth => "struct AuthConfig"
  | text => "a string"
  | flag => "a boolean"
  | port => "u16"
  | size => "usize"

/-- The greatest number of a kind. -/
def Kind.greatest : Kind → Nat
  | port => 65535
  | size => 18446744073709551615
  | _ => 0

/-- Why settings cannot be taken: a file is no document, or the value at a key is of another
    kind or is a number out of range. -/
inductive Error where
  | unreadable
  | wrongKind (key : List String) (found : Value) (expected : Kind)
  | outOfRange (key : List String) (found : Value) (expected : Kind)

namespace Error

/-- The key that an error is about. -/
def key : Error → String
  | unreadable => ""
  | wrongKind key _ _ | outOfRange key _ _ => ".".intercalate key

/-- The wording of an error.  What exactly is wrong with a file is left out. -/
def message : Error → String
  | unreadable => ""
  | wrongKind _ found expected =>
    "invalid type: found " ++ found.described ++ ", expected " ++ expected.word
  | outOfRange _ found expected =>
    "invalid value " ++ found.described ++ ", expected " ++ expected.word

end Error

end CaseDesk.Settings

/-
  The settings of the service.

  There are five of them in three sections.  Each has a value of its own when
  no layer gives it one.

  * `Settings.ofValue`: the settings that a table of sections gives.
  * `Settings.ofDocuments`: those of documents, the later ones on top.
  * `Settings.load`: those of the two files and the environment.
  * `Settings.limits`: the page sizes that follow from the settings.
-/
import CaseDesk.Listing.Limits
import CaseDesk.Settings.Environment
import CaseDesk.Settings.Error
import CaseDesk.Toml.Document

namespace CaseDesk

/-- Where the service listens, how it pages lists, and whether it lets in who has no name. -/
structure Settings where
  host : String
  port : Nat
  defaultSize : Nat
  maxSize : Nat
  allowAnonymous : Bool
  deriving DecidableEq, Repr

namespace Settings

open Text

/-! ## Single settings -/

/-- A setting: its section, its key there, its place where the section is given as a list, how
    its value is read, and what it is when it is not given. -/
structure Setting (α : Type) where
  within : Section
  key : String
  position : Nat
  read : List String → Value → Except Error α
  standard : α

/-- Reads a text. -/
def readText (path : List String) : Value → Except Error String
  | .text s => .ok s
  | v => .error (.wrongKind path v .text)

/-- Reads a flag. -/
def readFlag (path : List String) : Value → Except Error Bool
  | .flag b => .ok b
  | v => .error (.wrongKind path v .flag)

/-- Reads a whole number of a kind. -/
def readNumber (kind : Kind) (path : List String) (v : Value) : Except Error Nat :=
  let inRange (n : Int) : Except Error Nat :=
    if 0 ≤ n ∧ n ≤ kind.greatest then .ok n.toNat else .error (.outOfRange path v kind)
  match v with
  | .signed n => inRange n
  | .unsigned n => inRange n
  | _ => .error (.wrongKind path v kind)

/-- The host to listen on: every one, unless set. -/
def host? : Setting String :=
  { within := .service, key := "host", position := 0, read := readText, standard := "0.0.0.0" }

/-- The port to listen on. -/
def port? : Setting Nat :=
  { within := .service, key := "port", position := 1, read := readNumber .port, standard := 50061 }

/-- The page size of a request that asks for none. -/
def defaultSize? : Setting Nat :=
  { within := .listing, key := "default_size", position := 0, read := readNumber .size,
    standard := 16 }

/-- The largest page size that a request may ask for. -/
def maxSize? : Setting Nat :=
  { within := .listing, key := "max_size", position := 1, read := readNumber .size,
    standard := 1000 }

/-- Whether requests without a name count as those of a superuser. -/
def allowAnonymous? : Setting Bool :=
  { within := .auth, key := "allow_anonymous", position := 0, read := readFlag, standard := false }

/-- The value of a setting in a table of sections.  A section may be a table or a list of its
    settings in order. -/
def Setting.of {α : Type} (setting : Setting α) (root : Value) : Except Error α :=
  let within := setting.within.key
  match root.get? within with
  | none => .ok setting.standard
  | some (.table entries) =>
    match Named.get? entries setting.key with
    | none => .ok setting.standard
    | some v => setting.read [within, setting.key] v
  | some (.list items) =>
    match items[setting.position]? with
    | none => .ok setting.standard
    | some v => setting.read [within, integerText setting.position] v
  | some v => .error (.wrongKind [within] v (.table setting.within))

/-! ## All settings -/

/-- The settings that a table of sections gives.  They are read in the order of their keys, and
    the first error counts. -/
def ofValue (root : Value) : Except Error Settings := do
  let allowAnonymous ← allowAnonymous?.of root
  let defaultSize ← defaultSize?.of root
  let maxSize ← maxSize?.of root
  let host ← host?.of root
  let port ← port?.of root
  return { host, port, defaultSize, maxSize, allowAnonymous }

/-- The layer that a document writes. -/
def document (text : String) : Except Error Value :=
  match Toml.read? text with
  | some v => .ok v
  | none => .error .unreadable

/-- The settings of documents, the later ones on top. -/
def ofDocuments (texts : List String) : Except Error Settings := do
  ofValue (Value.ofLayers (← texts.mapM document))

/-- The settings of the standard file, of the local file, and of the environment, each on top
    of the one before; either file may be missing. -/
def load (standardFile localFile : Option String) (environment : Named String) :
    Except Error Settings := do
  let files ← (standardFile.toList ++ localFile.toList).mapM document
  ofValue (Value.ofLayers (files ++ [Environment.layer environment]))

/-- The page sizes that follow from the settings. -/
def limits (settings : Settings) : PageLimits :=
  .ofWishes settings.defaultSize settings.maxSize

end Settings

end CaseDesk

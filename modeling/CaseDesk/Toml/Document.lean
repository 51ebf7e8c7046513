/-
  TOML documents.

  * `Toml.value`: a value, lists and inline tables included.
  * `Toml.Statement`: what a line says: it opens a table, adds a table to a
    list, or gives a key of the open table a value.
  * `Toml.read?`: the table that a document writes, or nothing where the text
    is no document.
-/
import CaseDesk.Toml.Scalar
import CaseDesk.Toml.Tree

namespace CaseDesk.Toml

open Text Text.Scan Settings

/-! ## Keys -/

/-- A path of keys that ends in `key`. -/
structure KeyPath where
  parents : List String
  key : String
  deriving DecidableEq, Repr

/-- All keys of a path. -/
def KeyPath.toList (path : KeyPath) : List String := path.parents ++ [path.key]

/-- The characters of a key without quotes. -/
def isKeyChar (c : Char) : Bool := c.isAlphanum || c == '_' || c == '-'

/-- One key, in quotes or without. -/
def bareKey : Scan String :=
  lineText '"' <|> lineText '\'' <|> (return String.ofList (← run1 isKeyChar))

/-- How deep keys may lead and values may nest. -/
def depthLimit : Nat := 79

/-- Keys with points between them, not more of them than `depthLimit`. -/
def keyPath : Scan KeyPath := do
  let keys ← separated (gap *> bareKey <* gap) (char '.')
  if depthLimit < keys.length then failure
  else match keys.getLast? with
    | some key => return { parents := keys.dropLast, key }
    | none => failure

/-! ## Values -/

/-- A key, an equals sign and a value. -/
def pair (value : Scan Value) : Scan (KeyPath × Value) := do
  let path ← keyPath
  char '='
  gap
  return (path, ← value)

/-- Gaps, line ends and comments between the items of a list. -/
def space : Scan Unit := discard (many (discard (one isGap) <|> (maybe comment *> newline)))

/-- A list in brackets; a comma may follow its last item. -/
def array (value : Scan Value) : Scan Value := do
  char '['
  let items ← maybe (separated (space *> value <* space) (char ','))
  if items.isSome then discard (maybe (char ','))
  space
  char ']'
  return .list (items.getD [])

/-- A table in braces, on one line. -/
def inlineTable (value : Scan Value) : Scan Value := do
  char '\x7b'
  let pairs ← maybe (separated (pair value <* gap) (char ','))
  gap
  char '\x7d'
  let branch ← (pairs.getD []).foldlM
    (fun (t : Branch) (path, v) => assign path.key v path.parents true t) []
  return .table (branchEntries branch)

/-- A value in which collections nest at most so deep. -/
def value : Nat → Scan Value
  | 0 => scalar
  | depth + 1 => scalar <|> array (value depth) <|> inlineTable (value depth)

/-! ## Statements -/

/-- What a line says. -/
inductive Statement where
  | header (path : KeyPath)
  | item (path : KeyPath)
  | assignment (path : KeyPath) (v : Value)

/-- What a line says, if it says anything. -/
def statement : Scan Statement :=
  (do
    word "[["
    let path ← keyPath
    word "]]"
    return .item path)
  <|> (do
    char '['
    let path ← keyPath
    char ']'
    return .header path)
  <|> do
    let (path, v) ← pair (value depthLimit)
    return .assignment path v

/-- A line up to its end or the end of the text. -/
def line : Scan (Option Statement) := do
  gap
  let said ← maybe statement
  gap
  discard (maybe comment)
  newline <|> atEnd
  return said

/-- The statements of a document; a mark of the byte order may stand before them. -/
def statements (cs : List Char) : Option (List Statement) :=
  (whole (maybe (char '\ufeff') *> many line) cs).map (·.filterMap id)

/-- A document that has been read in part, and the path of its open table. -/
structure Draft where
  root : Branch
  current : List String

namespace Draft

/-- Nothing read, with the outermost table open. -/
def blank : Draft := { root := [], current := [] }

/-- What a statement makes of a draft. -/
def add (draft : Draft) : Statement → Option Draft
  | .header path => do
    let root ← within (openTable path.key) path.parents draft.root
    return { root, current := path.toList }
  | .item path => do
    let root ← within (openItem path.key) path.parents draft.root
    return { root, current := path.toList }
  | .assignment path v => do
    let root ← within (assign path.key v path.parents true) draft.current draft.root
    return { draft with root }

end Draft

/-- The table that a document writes. -/
def read? (text : String) : Option Value := do
  let said ← statements text.toList
  let draft ← said.foldlM Draft.add Draft.blank
  return .table (branchEntries draft.root)

end CaseDesk.Toml

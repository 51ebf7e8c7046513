/-
  Settings from environment variables.

  A variable gives a setting if its name starts with `CASES_SERVICE_` in any
  case.  The rest of the name in small letters, cut at double underscores and
  at points, is the path of keys.

  * `Environment.value`: what the text of a variable stands for: a flag, a
    number, a quoted text, a list, a table, or else the text itself.
  * `Environment.path?`: the path of keys that a name leads to.
  * `Environment.layer`: the layer of all variables.
-/
import CaseDesk.Settings.Value
import CaseDesk.Text.Blank
import CaseDesk.Toml.Scalar

namespace CaseDesk.Settings.Environment

open Text Text.Scan

/-! ## Values -/

/-- Spaces, tabs and line ends, form feeds included. -/
def isBlank (c : Char) : Bool := [' ', '\t', '\n', '\x0c', '\r'].contains c

/-- Blanks that may stand around a value. -/
def blanks : Scan Unit := discard (run isBlank)

/-- The characters that end a value without quotes. -/
def isSeparator (c : Char) : Bool := [',', '\x7b', '\x7d', '[', ']'].contains c

/-- A number with a point, perhaps with an exponent. -/
def real : Scan Binary64 := do
  let negative ← Toml.sign
  let whole ← run isDecimalDigit
  char '.'
  let part ← run isDecimalDigit
  if whole.isEmpty && part.isEmpty then failure
  let power ← maybe do
    discard (one fun c => c == 'e' || c == 'E')
    let minus ← Toml.sign
    let n := (digitsValue (← run1 isDecimalDigit) : Int)
    return if minus then -n else n
  return Binary64.ofDecimal negative (digitsValue (whole ++ part)) (power.getD 0 - part.length)

/-- A number without a minus sign that fits 64 bits. -/
def unsigned? (cs : List Char) : Option Nat :=
  let digits := match cs with
    | '+' :: rest => rest
    | _ => cs
  (readNatural? digits).filter (· ≤ 18446744073709551615)

/-- What characters without quotes stand for: a number if they write one. -/
def plain (cs : List Char) : Value :=
  match whole real cs, unsigned? cs, readInt64? cs with
  | some x, _, _ => .real x
  | none, some n, _ => .unsigned n
  | none, none, some n => .signed n
  | none, none, none => .text (String.ofList cs)

/-- A text between double quotes, in which a backslash guards the character after it. -/
def quotedText : Scan String := Toml.lineText '"'

/-- The key of an entry: letters, digits, underscores and hyphens, or a quoted text. -/
def key : Scan String := do
  if (← peek) = some '"' then quotedText
  else return String.ofList (← run1 fun c => c.isAlphanum || c == '_' || c == '-')

/-- Items between two brackets, with commas between them and perhaps after the last. -/
def enclosed {α : Type} (left right : Char) (item : Scan α) : Scan (List α) := do
  char left
  let items ← maybe <| separated
    (do if (← peek) = some right then failure else item) (char ',')
  if items.isSome then discard (maybe (char ','))
  char right
  return items.getD []

/-- An entry of a table. -/
def entry (value : Scan Value) : Scan (String × Value) := do
  blanks
  let k ← key
  blanks
  char '='
  return (k, ← value)

/-- A value; the values in it, if it has any, are read by `inner`.  The first character decides
    what it has to be. -/
def valueOver (inner : Scan Value) : Scan Value := do
  blanks
  let v ← (word "true" *> pure (.flag true)) <|> (word "false" *> pure (.flag false)) <|> do
    match ← peek with
    | some '[' => return .list (← enclosed '[' ']' inner)
    | some '\x7b' =>
      let entries ← enclosed '\x7b' '\x7d' (entry inner)
      return .table (entries.foldl (fun t (k, v) => Named.put t k v) [])
    | some '"' => return .text (← quotedText)
    | some '\'' => do
      char '\''
      let c ← one fun _ => true
      char '\''
      return .text (String.ofList [c])
    | _ => return plain (trimChars (← run fun c => !isSeparator c))
  blanks
  return v

/-- A value in which lists and tables nest at most so deep. -/
def valueWithin : Nat → Scan Value
  | 0 => valueOver failure
  | depth + 1 => valueOver (valueWithin depth)

/-- What the text of a variable stands for.  Values in it cannot nest deeper than the text is
    long; one that is not well formed stands for itself as a text. -/
def value (s : String) : Value :=
  let cs := trimChars s.toList
  (whole (valueWithin cs.length) cs).getD (.text (String.ofList cs))

/-! ## Names -/

/-- What the names of all variables with settings start with. -/
def mark : List Char := "cases_service_".toList

/-- The parts of a name between double underscores or points. -/
def parts : List Char → List (List Char)
  | '_' :: '_' :: rest => [] :: parts rest
  | '.' :: rest => [] :: parts rest
  | c :: rest => match parts rest with
    | [] => [[c]]
    | p :: ps => (c :: p) :: ps
  | [] => [[]]

/-- The path of keys that a name leads to.  It ends before the first empty part. -/
def path? (name : String) : Option (List String) :=
  let name := (trimChars name.toList).map Char.toLower
  if mark.isPrefixOf name then
    let keys := (parts (name.drop mark.length)).takeWhile (!·.isEmpty)
    if keys.isEmpty then none else some (keys.map String.ofList)
  else none

/-! ## Variables -/

/-- The layer of one variable. -/
def variableLayer? (name text : String) : Option Value :=
  (path? name).map (Value.nested · (value text))

/-- The layer of all variables, one on top of the other.  A name that is given twice has its
    last text. -/
def layer (environment : Named String) : Value :=
  let once : Named String := environment.foldl (fun t (name, text) => Named.put t name text) []
  Value.ofLayers (once.filterMap fun (name, text) => variableLayer? name text)

end CaseDesk.Settings.Environment

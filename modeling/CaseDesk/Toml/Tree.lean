/-
  Tables while a document fills them.

  * `Toml.Node`: what a key holds.  A table remembers how it came to be, since
    that decides how it may be added to.
  * `Toml.assign`: gives a dotted key a value.
  * `Toml.within`: a change to the table that a header names.
  * `Toml.openTable`, `Toml.openItem`: what a header does to its last key.

  Every change refuses to give a key a second value or a table a second
  header.
-/
import CaseDesk.Settings.Value

namespace CaseDesk.Toml

open Settings

/-- How a table came to be: by a header of its own, by a longer header, or by a dotted key. -/
inductive Origin where
  | header
  | implied
  | dotted
  deriving DecidableEq, Repr

/-- What a key holds: a value, a table, or a list of tables, the last of which is open. -/
inductive Node where
  | leaf (v : Value)
  | table (origin : Origin) (entries : List (String × Node))
  | tables (closed : List (List (String × Node))) (last : List (String × Node))

/-- The keys of a table with what they hold. -/
abbrev Branch := List (String × Node)

/-- Changes what one key holds. -/
def alter (key : String) (change : Option Node → Option Node) : Branch → Option Branch
  | [] => do return [(key, ← change none)]
  | (k, n) :: rest =>
    if k = key then do return (k, ← change (some n)) :: rest
    else do return (k, n) :: (← alter key change rest)

/-- Gives a new key a value. -/
def place (key : String) (v : Value) (branch : Branch) : Option Branch :=
  alter key (fun | none => some (.leaf v) | some _ => none) branch

/-- Gives the key at the end of a path a value.  The tables on the way are made if they are
    missing; a table with a header of its own is not entered, and the value goes only into
    the table that was named (`mayPlace`) or into one that dotted keys have made. -/
def assign (key : String) (v : Value) : List String → Bool → Branch → Option Branch
  | [], mayPlace, branch => if mayPlace then place key v branch else none
  | k :: rest, _, branch => alter k
    (fun
      | none => do return .table .dotted (← assign key v rest true [])
      | some (.table .dotted t) => do return .table .dotted (← assign key v rest true t)
      | some (.table .implied t) => do return .table .implied (← assign key v rest false t)
      | some (.tables closed last) => do return .tables closed (← assign key v rest false last)
      | some (.table .header _) | some (.leaf _) => none)
    branch

/-- Changes the table at the end of a path of keys.  The tables on the way are made if they
    are missing, and of a list of tables the last one is entered. -/
def within (change : Branch → Option Branch) : List String → Branch → Option Branch
  | [], branch => change branch
  | k :: rest, branch => alter k
    (fun
      | none => do return .table .implied (← within change rest [])
      | some (.table origin t) => do return .table origin (← within change rest t)
      | some (.tables closed last) => do return .tables closed (← within change rest last)
      | some (.leaf _) => none)
    branch

/-- Gives a table its header. -/
def openTable (key : String) : Branch → Option Branch :=
  alter key fun
    | none => some (.table .header [])
    | some (.table .implied t) => some (.table .header t)
    | _ => none

/-- Adds an empty table to a list of tables. -/
def openItem (key : String) : Branch → Option Branch :=
  alter key fun
    | none => some (.tables [] [])
    | some (.tables closed last) => some (.tables (closed ++ [last]) [])
    | _ => none

mutual

/-- The value of what a key holds. -/
def Node.value : Node → Value
  | .leaf v => v
  | .table _ entries => .table (branchEntries entries)
  | .tables closed last => .list (closedValues closed ++ [.table (branchEntries last)])

/-- The entries of a table. -/
def branchEntries : List (String × Node) → Entries
  | [] => []
  | (k, n) :: rest => (k, n.value) :: branchEntries rest

/-- The closed tables of a list as values. -/
def closedValues : List (List (String × Node)) → List Value
  | [] => []
  | t :: rest => .table (branchEntries t) :: closedValues rest

end

end CaseDesk.Toml

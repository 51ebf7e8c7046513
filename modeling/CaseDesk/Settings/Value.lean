/-
  Values that settings are given in, and layers of them.

  * `Value`: flags, numbers, texts, lists, and tables of named values.
  * `Value.at?`: the value at a path of keys.
  * `Value.onTop`: a later layer on top of an earlier one.  Two tables are put
    together key by key; anything else of the later layer replaces what the
    earlier one has in its place.
-/
import CaseDesk.Decimal.Shortest
import CaseDesk.Text.Quoted

namespace CaseDesk.Settings

open Text

/-- A value that a setting is given. -/
inductive Value where
  | flag (b : Bool)
  | signed (n : Int)
  | unsigned (n : Nat)
  | real (x : Binary64)
  | text (s : String)
  | list (items : List Value)
  | table (entries : List (String × Value))

/-- Things with names; the first of a name counts. -/
abbrev Named (α : Type) := List (String × α)

namespace Named

variable {α : Type}

/-- What has a name. -/
def get? (named : Named α) (key : String) : Option α := named.lookup key

/-- Gives a name to a thing, in the place the name had or at the end. -/
def put : Named α → String → α → Named α
  | [], key, a => [(key, a)]
  | (k, b) :: rest, key, a => if k = key then (k, a) :: rest else (k, b) :: put rest key a

/-- The thing of a name at the front, or else among the rest. -/
theorem get?_cons (key k : String) (a : α) (rest : Named α) :
    get? ((key, a) :: rest) k = if k = key then some a else get? rest k := by
  unfold get?
  rw [List.lookup_cons]
  by_cases h : k = key
  · simp [h]
  · have h' : (k == key) = false := by simpa using h
    simp [h, h']

theorem get?_put (named : Named α) (key k : String) (a : α) :
    get? (put named key a) k = if k = key then some a else get? named k := by
  induction named with
  | nil => rw [put, get?_cons]
  | cons e rest ih =>
    obtain ⟨k', b⟩ := e
    unfold put
    by_cases hk : k' = key
    · subst hk
      rw [if_pos rfl, get?_cons, get?_cons]
      by_cases h : k = k'
      · rw [if_pos h, if_pos h]
      · rw [if_neg h, if_neg h, if_neg h]
    · rw [if_neg hk, get?_cons, get?_cons, ih]
      by_cases h : k = k'
      · rw [if_pos h, if_neg (h ▸ hk), if_pos h]
      · rw [if_neg h, if_neg h]

end Named

/-- The entries of a table. -/
abbrev Entries := Named Value

namespace Value

/-- The table without entries. -/
def empty : Value := table []

/-- The value of a name in a table. -/
def get? (v : Value) (key : String) : Option Value :=
  match v with
  | table entries => Named.get? entries key
  | _ => none

/-- The value at a path of keys. -/
def at? (v : Value) : List String → Option Value
  | [] => some v
  | key :: rest => (v.get? key).bind fun w => at? w rest

mutual

/-- A later value on top of an earlier one. -/
def onTop (earlier : Value) : Value → Value
  | table entries =>
    match earlier with
    | table base => table (onTopEntries base entries)
    | _ => table entries
  | v => v

/-- Later entries on top of earlier ones. -/
def onTopEntries (base : Entries) : List (String × Value) → Entries
  | [] => base
  | (key, v) :: rest =>
    let merged := match Named.get? base key with
      | some earlier => onTop earlier v
      | none => v
    onTopEntries (Named.put base key merged) rest

end

/-- Layers put together, the last one on top. -/
def ofLayers (layers : List Value) : Value := layers.foldl onTop empty

/-- The value within tables of the given names, the first one outermost. -/
def nested (path : List String) (v : Value) : Value :=
  path.foldr (fun key inner => table [(key, inner)]) v

/-- What a value is called where another kind of value is expected. -/
def described : Value → String
  | flag b => "bool " ++ (if b then "true" else "false")
  | signed n => "signed int `" ++ integerText n ++ "`"
  | unsigned n => "unsigned int `" ++ integerText n ++ "`"
  | real x => "float `" ++ x.text ++ "`"
  | text s => "string " ++ quoted s
  | list _ => "sequence"
  | table _ => "map"

end Value

end CaseDesk.Settings

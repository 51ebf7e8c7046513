/-
  Sort expressions.

  A sort expression is a list of field names set apart by commas; `-` in front
  of a name sorts from the largest value, `+` or nothing from the smallest.

  * `SortTerm.parseList`: the terms of an expression.
  * `SortKey`: the values that fields are sorted by.  Flags come before
    integers and integers before texts; texts are ordered by their lowercased
    code points.
-/
import CaseDesk.Text.Blank
import CaseDesk.Text.Lowercase

namespace CaseDesk

open Text

/-- Which value of a field comes first. -/
inductive SortOrder where
  | asc
  | desc
  deriving DecidableEq, Repr

/-- A field to sort by. -/
structure SortTerm where
  field : String
  order : SortOrder
  deriving DecidableEq, Repr

namespace SortTerm

/-- Reads one term, already without blanks around it; a sign alone is no term. -/
def read? (term : List Char) : Option SortTerm :=
  let (order, field) := match term with
    | '-' :: rest => (SortOrder.desc, rest)
    | '+' :: rest => (SortOrder.asc, rest)
    | _ => (SortOrder.asc, term)
  let field := trimChars field
  if field.isEmpty then none else some ⟨String.ofList (lowerAfter [] field), order⟩

/-- The terms of a sort expression. -/
def parseList (raw : String) : List SortTerm :=
  ((pieces ',' raw.toList).map trimChars).filterMap read?

end SortTerm

/-- The value of a field that rows are sorted by. -/
inductive SortKey where
  | flag (b : Bool)
  | int (n : Int)
  | text (s : String)
  deriving DecidableEq, Repr

namespace SortKey

/-- The key of a text, which case does not matter to. -/
def ofText (s : String) : SortKey := text (lowercase s)

/-- The order of characters one by one. -/
def compareChars : List Char → List Char → Ordering
  | [], [] => .eq
  | [], _ :: _ => .lt
  | _ :: _, [] => .gt
  | a :: as, b :: bs => (compare a.toNat b.toNat).then (compareChars as bs)

/-- The order of keys. -/
def cmp : SortKey → SortKey → Ordering
  | flag a, flag b => compare a.toNat b.toNat
  | flag _, _ => .lt
  | _, flag _ => .gt
  | int a, int b => compare a b
  | int _, _ => .lt
  | _, int _ => .gt
  | text a, text b => compareChars a.toList b.toList

end SortKey

end CaseDesk

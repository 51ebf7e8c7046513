/-
  Access levels: what a caller may do with the records of an object class.
-/
namespace CaseDesk

/-- What a method does to records, and what a grant allows. -/
inductive Access where
  | create
  | read
  | update
  | delete
  deriving DecidableEq, Repr

namespace Access

/-- The flag of a level in a grant. -/
def letter : Access → Char
  | create => 'c'
  | read => 'r'
  | update => 'u'
  | delete => 'd'

/-- The level of a flag, in either case. -/
def ofLetter? : Char → Option Access
  | 'c' | 'C' => some create
  | 'r' | 'R' => some read
  | 'u' | 'U' => some update
  | 'd' | 'D' => some delete
  | _ => none

/-- The word for a level. -/
def word : Access → String
  | create => "create"
  | read => "read"
  | update => "update"
  | delete => "delete"

theorem ofLetter?_letter (a : Access) : ofLetter? a.letter = some a := by
  cases a <;> rfl

end Access

end CaseDesk

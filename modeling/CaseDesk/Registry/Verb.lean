/-
  The HTTP verbs that routes are bound to.
-/
namespace CaseDesk

/-- A verb of a route. -/
inductive Verb where
  | get
  | post
  | put
  | patch
  | delete
  deriving DecidableEq, Repr

namespace Verb

/-- The verb as requests spell it. -/
def word : Verb → String
  | get => "GET"
  | post => "POST"
  | put => "PUT"
  | patch => "PATCH"
  | delete => "DELETE"

/-- The verb of a word, whatever the case of its ASCII letters. -/
def parse? (word : String) : Option Verb :=
  let upper := word.toList.map Char.toUpper
  [get, post, put, patch, delete].find? (·.word.toList == upper)

theorem parse?_word (v : Verb) : parse? v.word = some v := by
  cases v <;> decide

end Verb

end CaseDesk

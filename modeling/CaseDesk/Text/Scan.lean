/-
  Scanners: steps that read a value off the front of a text, or refuse it.

  * `Scan`: the type; steps are put one after the other with `do`, and `<|>`
    tries its second step on the same text when the first one refuses it.
  * `Scan.many`: a step as often as it reads something.
  * `Scan.whole`: a step that has to read the text to its end.
-/
namespace CaseDesk.Text

/-- A step that reads a value off the front of a text and leaves the rest. -/
abbrev Scan := StateT (List Char) Option

namespace Scan

variable {α β : Type}

/-- The next character, left where it is. -/
def peek : Scan (Option Char) := fun cs => some (cs.head?, cs)

/-- The next character, if it satisfies `p`. -/
def one (p : Char → Bool) : Scan Char
  | [] => none
  | c :: cs => if p c then some (c, cs) else none

/-- The given character. -/
def char (c : Char) : Scan Unit
  | [] => none
  | d :: cs => if d = c then some ((), cs) else none

/-- The given word. -/
def word (w : String) : Scan Unit := fun cs =>
  if w.toList.isPrefixOf cs then some ((), cs.drop w.length) else none

/-- The longest run of characters that satisfy `p`. -/
def run (p : Char → Bool) : Scan (List Char) := fun cs => some (cs.span p)

/-- The longest run of characters that satisfy `p`, if it is not empty. -/
def run1 (p : Char → Bool) : Scan (List Char) := do
  let c ← one p
  let cs ← run p
  return c :: cs

/-- The end of the text. -/
def atEnd : Scan Unit
  | [] => some ((), [])
  | _ :: _ => none

/-- What a step reads, or nothing where it refuses the text. -/
def maybe (s : Scan α) : Scan (Option α) := (some <$> s) <|> pure none

/-- What a step reads when it is repeated until it refuses the text or reads nothing more. -/
def steps (s : Scan α) (cs : List Char) : List α × List Char :=
  match s cs with
  | none => ([], cs)
  | some (a, rest) =>
    if rest.length < cs.length then
      let (as, left) := steps s rest
      (a :: as, left)
    else ([a], rest)
termination_by cs.length

/-- A step as often as it reads something. -/
def many (s : Scan α) : Scan (List α) := fun cs => some (steps s cs)

/-- One or more items with a separator between each two. -/
def separated (item : Scan α) (separator : Scan β) : Scan (List α) := do
  let a ← item
  let as ← many (separator *> item)
  return a :: as

/-- What a step reads that leaves nothing of the text. -/
def whole (s : Scan α) (cs : List Char) : Option α := ((s <* atEnd) cs).map (·.1)

end Scan

end CaseDesk.Text

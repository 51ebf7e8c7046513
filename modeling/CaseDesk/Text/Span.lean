/-
  Tables over code points, kept as an ascending list of spans.

  A span `first-last/step>target` holds every `step`-th code point from
  `first` to `last`, and sends the `i`-th of them to the `i`-th after `target`
  in the same steps.  A set of code points is a table whose targets do not
  matter.

  * `SpanTable.read`: the table written in lines, one word a span, numbers in
    hexadecimal; `last`, `step` and `target` may be left out.
  * `SpanTable.find?`: the span that holds a code point, by halving.
  * `SpanTable.holds`, `SpanTable.image`, `SpanTable.label?`: membership, the
    mapped point, and the target as a label.

  A `RunTable` sends characters to runs of characters.
-/
namespace CaseDesk.Text

/-- Every `step`-th code point from `first` to `last`, with where they go. -/
structure Span where
  first : Nat
  last : Nat
  step : Nat := 1
  target : Nat := 0
  deriving Inhabited, Repr

/-- Spans in ascending order. -/
structure SpanTable where
  spans : Array Span

namespace Span

/-- The value of a hexadecimal digit, any other character counting as zero. -/
def hexDigit (c : Char) : Nat :=
  if '0' ≤ c ∧ c ≤ '9' then c.toNat - 48
  else if 'A' ≤ c ∧ c ≤ 'F' then c.toNat - 55
  else if 'a' ≤ c ∧ c ≤ 'f' then c.toNat - 87
  else 0

/-- The number that a run of hexadecimal digits writes. -/
def hexNumber (cs : List Char) : Nat := cs.foldl (fun n c => 16 * n + hexDigit c) 0

/-- Reads `first-last/step>target`. -/
def read (word : List Char) : Span :=
  let isDigit (c : Char) : Bool := c.isDigit || ('A' ≤ c ∧ c ≤ 'F')
  let first := hexNumber (word.takeWhile isDigit)
  let rest := word.dropWhile isDigit
  let (last, rest) := match rest with
    | '-' :: r => (hexNumber (r.takeWhile isDigit), r.dropWhile isDigit)
    | r => (first, r)
  let (step, rest) := match rest with
    | '/' :: r => (hexNumber (r.takeWhile isDigit), r.dropWhile isDigit)
    | r => (1, r)
  let target := match rest with
    | '>' :: r => hexNumber (r.takeWhile isDigit)
    | _ => 0
  { first, last, step, target }

/-- Whether a code point is one of the span's. -/
def holds (s : Span) (n : Nat) : Bool :=
  s.first ≤ n && n ≤ s.last && (n - s.first) % s.step == 0

end Span

namespace SpanTable

/-- The words of a text that are set apart by single spaces. -/
def words : List Char → List (List Char)
  | [] => [[]]
  | c :: rest => match c, words rest with
    | ' ', ws => [] :: ws
    | c, w :: ws => (c :: w) :: ws
    | c, [] => [[c]]

/-- Reads a table given in lines, one word a span. -/
def read (lines : List String) : SpanTable :=
  ⟨(lines.flatMap fun line => (words line.toList).map Span.read).toArray⟩

/-- The last span that starts at or before `n`, among those from `lo` up to `hi`. -/
def seek (t : SpanTable) (n lo hi : Nat) : Option Span :=
  if hi ≤ lo then none
  else if hi = lo + 1 then t.spans[lo]?
  else
    let mid := lo + (hi - lo) / 2
    match t.spans[mid]? with
    | none => none
    | some s => if s.first ≤ n then seek t n mid hi else seek t n lo mid
termination_by hi - lo
decreasing_by all_goals omega

/-- The span that holds the code point `n`. -/
def find? (t : SpanTable) (n : Nat) : Option Span :=
  (t.seek n 0 t.spans.size).filter (·.holds n)

/-- Whether a character is in the set. -/
def holds (t : SpanTable) (c : Char) : Bool := (t.find? c.toNat).isSome

/-- Where a character goes; one outside the table stays. -/
def image (t : SpanTable) (c : Char) : Char :=
  match t.find? c.toNat with
  | some s => Char.ofNat (s.target + (c.toNat - s.first))
  | none => c

/-- The target of the span that holds a character, as a label for all of it. -/
def label? (t : SpanTable) (c : Char) : Option Nat := (t.find? c.toNat).map (·.target)

end SpanTable

/-- Characters in ascending order, each with the run of characters that it stands for. -/
structure RunTable where
  runs : Array (Nat × List Char)

namespace RunTable

/-- The parts of a word that are set apart by points. -/
def points : List Char → List (List Char)
  | [] => [[]]
  | c :: rest => match c, points rest with
    | '.', ps => [] :: ps
    | c, p :: ps => (c :: p) :: ps
    | c, [] => [[c]]

/-- Reads `character>first.second…`, all in hexadecimal. -/
def readRun (word : List Char) : Nat × List Char :=
  (Span.hexNumber (word.takeWhile (· != '>')),
    (points ((word.dropWhile (· != '>')).drop 1)).map fun p => Char.ofNat (Span.hexNumber p))

/-- Reads a table given in lines, one word a run. -/
def read (lines : List String) : RunTable :=
  ⟨(lines.flatMap fun line => (SpanTable.words line.toList).map readRun).toArray⟩

/-- The last entry at or before `n`, among those from `lo` up to `hi`. -/
def seek (t : RunTable) (n lo hi : Nat) : Option (Nat × List Char) :=
  if hi ≤ lo then none
  else if hi = lo + 1 then t.runs[lo]?
  else
    let mid := lo + (hi - lo) / 2
    match t.runs[mid]? with
    | none => none
    | some r => if r.1 ≤ n then seek t n mid hi else seek t n lo mid
termination_by hi - lo
decreasing_by all_goals omega

/-- The run that a character stands for. -/
def run? (t : RunTable) (c : Char) : Option (List Char) :=
  ((t.seek c.toNat 0 t.runs.size).filter (·.1 == c.toNat)).map (·.2)

end RunTable

end CaseDesk.Text

/-
  Punycode: texts of any script written with letters, digits and hyphens.

  What stands before the last hyphen are the plain characters of the text.
  What follows are numbers in base 36 with digits of variable weight; each
  number says how far to go, through the positions of the text and from there
  to greater characters, to the next character to insert.

  * `decode`: the text that a written form stands for.
-/
namespace CaseDesk.Url.Punycode

/-- The numbers that occur stay below this bound. -/
def bound : Nat := 4294967296

/-- The value of a digit in base 36. -/
def digit? (c : Char) : Option Nat :=
  let n := c.toNat
  if 97 ≤ n ∧ n ≤ 122 then some (n - 97)
  else if 65 ≤ n ∧ n ≤ 90 then some (n - 65)
  else if 48 ≤ n ∧ n ≤ 57 then some (n - 48 + 26)
  else none

/-- The digit at place `k` ends a number if it is below this threshold. -/
def threshold (k bias : Nat) : Nat := max 1 (min 26 (k - bias))

/-- Divides a step down to the range of the bias, counting the divisions in `k`. -/
def scaleDown (delta k : Nat) : Nat :=
  if 455 < delta then scaleDown (delta / 35) (k + 36) else k + 36 * delta / (delta + 38)
termination_by delta
decreasing_by omega

/-- The bias after a step, with the count of characters so far. -/
def nextBias (delta count : Nat) (first : Bool) : Nat :=
  let delta := if first then delta / 700 else delta / 2
  scaleDown (delta + delta / count) 0

/-- Adds a number of variable weight to `i`; place `k` has weight `w`. -/
def readStep (bias : Nat) : (k w i : Nat) → List Char → Option (Nat × List Char)
  | _, _, _, [] => none
  | k, w, i, c :: rest => do
    let d ← digit? c
    let i := i + d * w
    let t := threshold k bias
    if bound ≤ i then none
    else if d < t then return (i, rest)
    else if bound ≤ w * (36 - t) then none
    else readStep bias (k + 36) (w * (36 - t)) i rest

/-- Inserts characters, each by a number of the rest; every number takes a digit at least. -/
def insertAll : (fuel : Nat) → (out : List Char) → (n i bias : Nat) → List Char →
    Option (List Char)
  | _, out, _, _, _, [] => some out
  | 0, _, _, _, _, _ => none
  | fuel + 1, out, n, i, bias, rest => do
    let (j, rest) ← readStep bias 36 1 i rest
    let count := out.length + 1
    let n := n + j / count
    if h : n.isValidChar then
      let out := out.take (j % count) ++ Char.ofNatAux n h :: out.drop (j % count)
      insertAll fuel out n (j % count + 1) (nextBias (j - i) count (i == 0)) rest
    else none

/-- The text that a written form stands for. -/
def decode (cs : List Char) : Option (List Char) :=
  let tail := (cs.reverse.takeWhile (· != '-')).reverse
  let base := cs.take (cs.length - tail.length - 1)
  let rest := if base.isEmpty then cs else tail
  insertAll rest.length base 128 0 72 rest

end CaseDesk.Url.Punycode

/-
  Canonical composition of texts.

  A text is taken apart into its smallest canonical parts, marks are put in the
  order of their combining classes, and what can be put together again is put
  together.  Two texts that differ in these respects only have the same
  composed form.  A character that stands for one other character alone is kept
  as it is; the letters of names are mapped before they are composed, so that
  none of these is left.

  * `decompose`, `reorder`, `compose`: the three steps.
  * `normalize`: all of them.
-/
import CaseDesk.Text.Normal.Table

namespace CaseDesk.Text

/-- The combining class of a character; zero for those that start anew. -/
def combiningClass (c : Char) : Nat := (combiningClassTable.label? c).getD 0

/-- The parts of a Hangul syllable. -/
def splitHangul? (c : Char) : Option (List Char) :=
  let n := c.toNat
  if 0xAC00 ≤ n ∧ n ≤ 0xD7A3 then
    let s := n - 0xAC00
    let start := [Char.ofNat (0x1100 + s / 588), Char.ofNat (0x1161 + s % 588 / 28)]
    some (if s % 28 = 0 then start else start ++ [Char.ofNat (0x11A7 + s % 28)])
  else none

/-- The smallest parts of a character; no character comes apart more than `fuel` times. -/
def partsOf : (fuel : Nat) → Char → List Char
  | 0, c => [c]
  | fuel + 1, c =>
    match splitHangul? c with
    | some parts => parts
    | none =>
      match canonicalPairs.run? c with
      | some parts => parts.flatMap (partsOf fuel)
      | none => [c]

/-- The smallest parts of a text. -/
def decompose (cs : List Char) : List Char := cs.flatMap (partsOf 4)

/-- Puts a mark in front of the marks of higher classes that follow it. -/
def insertMark (c : Char) : List Char → List Char
  | [] => [c]
  | d :: rest =>
    if combiningClass d ≠ 0 ∧ combiningClass d < combiningClass c then d :: insertMark c rest
    else c :: d :: rest

/-- Puts runs of marks in the order of their classes. -/
def reorder (cs : List Char) : List Char :=
  cs.foldr (fun c rest => if combiningClass c = 0 then c :: rest else insertMark c rest) []

/-- The character that stands for two others. -/
def pair? (a b : Char) : Option Char :=
  let x := a.toNat
  let y := b.toNat
  if 0x1100 ≤ x ∧ x ≤ 0x1112 ∧ 0x1161 ≤ y ∧ y ≤ 0x1175 then
    some (Char.ofNat (0xAC00 + ((x - 0x1100) * 21 + (y - 0x1161)) * 28))
  else if 0xAC00 ≤ x ∧ x ≤ 0xD7A3 ∧ (x - 0xAC00) % 28 = 0 ∧ 0x11A8 ≤ y ∧ y ≤ 0x11C2 then
    some (Char.ofNat (x + (y - 0x11A7)))
  else
    (canonicalPairs.runs.find? fun (c, run) =>
      run == [a, b] && !compositionExclusions.holds (Char.ofNat c)).map fun (c, _) => Char.ofNat c

/-- Puts together what follows a starter: `kept` holds the marks passed over, nearest first, and
    `last` the class of the one before. -/
def composeAfter (starter : Char) (kept : List Char) (last : Nat) : List Char → List Char
  | [] => starter :: kept.reverse
  | c :: rest =>
    let order := combiningClass c
    let blocked := !kept.isEmpty && (last == 0 || order ≤ last)
    match if blocked then none else pair? starter c with
    | some composed => composeAfter composed kept last rest
    | none =>
      if order = 0 then starter :: kept.reverse ++ composeAfter c [] 0 rest
      else composeAfter starter (c :: kept) order rest

/-- Puts together what can be put together. -/
def compose : List Char → List Char
  | [] => []
  | c :: rest => if combiningClass c = 0 then composeAfter c [] 0 rest else c :: compose rest

/-- The composed form of a text; one of the first 128 characters only is composed already. -/
def normalize (cs : List Char) : List Char :=
  if cs.all (·.toNat < 128) then cs else compose (reorder (decompose cs))

end CaseDesk.Text

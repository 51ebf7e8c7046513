/-
  The labels of domain names.

  A label is a run of characters between points.  A label that is not plain
  must not start with a mark; a joiner has to stand where it makes a difference;
  and if a name has letters of right-to-left scripts, every label of it has to
  keep one direction.

  * `startsWithMark`, `joinersOk`: the first two rules.
  * `Direction`, `directionOk`: the third.
-/
import CaseDesk.Text.Normal
import CaseDesk.Url.Domain.Classes

namespace CaseDesk.Url

open Text

/-- Whether a label starts with a mark. -/
def startsWithMark : List Char → Bool
  | c :: _ => markTable.holds c
  | [] => false

/-! ## Joiners -/

/-- Whether a character suppresses the vowel of the letter before it. -/
def isVirama (c : Char) : Bool := combiningClass c == 9

/-- How a character joins its neighbours, as a number. -/
def joining (c : Char) : Nat := (joiningTable.label? c).getD 0

/-- Whether the first character that does not join transparently joins in one of some ways. -/
def joinsBy (ways : List Nat) (cs : List Char) : Bool :=
  match cs.dropWhile (joining · == 4) with
  | c :: _ => ways.contains (joining c)
  | [] => false

/-- Whether a joiner may stand between what is before it, nearest first, and what is after it. -/
def joinerOk (joiner : Char) (before after : List Char) : Bool :=
  before.head?.any isVirama ||
    (joiner.toNat == 0x200C && joinsBy [1, 3] before && joinsBy [2, 3] after)

/-- Whether all joiners of a label, after what is before it, stand where they may. -/
def joinersOk (before : List Char) : List Char → Bool
  | [] => true
  | c :: rest =>
    ((c.toNat != 0x200C && c.toNat != 0x200D) || joinerOk c before rest) &&
      joinersOk (c :: before) rest

/-! ## Directions -/

/-- The directions of characters: of letters to the right and to the left, of numbers and their
    marks, of what takes the direction around it. -/
inductive Direction where
  | leftToRight
  | rightToLeft
  | arabicLetter
  | arabicNumber
  | europeanNumber
  | europeanSeparator
  | commonSeparator
  | europeanTerminator
  | otherNeutral
  | boundaryNeutral
  | nonspacingMark
  deriving DecidableEq, Repr

namespace Direction

/-- The direction with a number in the table. -/
def ofNumber : Nat → Direction
  | 1 => rightToLeft
  | 2 => arabicLetter
  | 3 => arabicNumber
  | 4 => europeanNumber
  | 5 => europeanSeparator
  | 6 => commonSeparator
  | 7 => europeanTerminator
  | 8 => otherNeutral
  | 9 => boundaryNeutral
  | 10 => nonspacingMark
  | _ => leftToRight

/-- The direction of a character. -/
def ofChar (c : Char) : Direction := ofNumber ((directionTable.label? c).getD 0)

/-- Whether a character makes a name one with letters of right-to-left scripts. -/
def isRightToLeft : Direction → Bool
  | rightToLeft | arabicLetter | arabicNumber => true
  | _ => false

/-- What may stand in labels of either direction. -/
def isNeutral : Direction → Bool
  | europeanNumber | europeanSeparator | commonSeparator | europeanTerminator | otherNeutral
  | boundaryNeutral | nonspacingMark => true
  | _ => false

end Direction

/-- The last direction before the marks at the end. -/
def lastDirection (ds : List Direction) : Option Direction :=
  (ds.reverse.dropWhile (· == .nonspacingMark)).head?

/-- Whether a label keeps one direction. -/
def directionOk (label : List Char) : Bool :=
  let ds := label.map Direction.ofChar
  match ds with
  | [] => true
  | .leftToRight :: _ =>
    ds.all (fun d => d == .leftToRight || d.isNeutral) &&
      (lastDirection ds).any fun d => d == .leftToRight || d == .europeanNumber
  | .rightToLeft :: _ | .arabicLetter :: _ =>
    ds.all (fun d => d.isRightToLeft || d.isNeutral) &&
      ((lastDirection ds).any fun d => d.isRightToLeft || d == .europeanNumber) &&
      !(ds.contains .europeanNumber && ds.contains .arabicNumber)
  | _ => false

end CaseDesk.Url

/-
  Domain names of any script.

  Every character of a name is kept, dropped, or stands for others; what comes
  out is put into composed form and cut into labels.  A label that starts with
  `xn--` is the written form of another one, which has to follow the rules for
  labels; so has every label that is not plain ASCII.

  * `Domain.ofText?`: the labels of a name, lowercased and composed; none if
    the name breaks a rule.
-/
import CaseDesk.Text.Blank
import CaseDesk.Url.Domain.Table
import CaseDesk.Url.Label
import CaseDesk.Url.Punycode

namespace CaseDesk.Url

open Text

/-- The ASCII characters that no domain name holds. -/
def isDenied (c : Char) : Bool :=
  c.toNat ≤ 32 || c.toNat == 127 ||
    ['%', '#', '/', ':', '<', '>', '?', '@', '[', '\\', ']', '^', '|'].contains c

/-- Whether a character may stand in a label after mapping. -/
def isDomainChar (c : Char) : Bool :=
  if c.toNat < 128 then !isDenied c && c.toLower == c else domainTable.holds c

/-- What a character of a name stands for. -/
def mapChar (c : Char) : Option (List Char) :=
  if c.toNat < 128 then some [c.toLower]
  else if domainTable.holds c then some [c]
  else if droppedTable.holds c then some []
  else if (mappedTable.find? c.toNat).isSome then some [mappedTable.image c]
  else expandedTable.run? c

namespace Domain

/-- Longer labels that are not plain have no written form. -/
def maxLabel : Nat := 1000

/-- Longer written forms are not read. -/
def maxWritten : Nat := 2000

/-- Whether all characters are ASCII. -/
def isPlain (cs : List Char) : Bool := cs.all (·.toNat < 128)

/-- The rules for a label that is not plain. -/
def labelOk (label : List Char) : Bool :=
  !startsWithMark label && joinersOk [] label && label.all isDomainChar

/-- The label that a written form stands for, after its `xn--`. -/
def readWritten? (written : List Char) : Option (List Char) :=
  if isPlain written && written.length ≤ maxWritten then
    (Punycode.decode written).filter fun label =>
      !isPlain label && normalize label == label && labelOk label
  else none

/-- The label in its own script, if it follows the rules. -/
def readLabel? (label : List Char) : Option (List Char) :=
  match label with
  | 'x' :: 'n' :: '-' :: '-' :: written => readWritten? written
  | _ =>
    if isPlain label then some label
    else if labelOk label && label.length ≤ maxLabel then some label
    else none

/-- Whether labels in their own scripts keep the rule of directions. -/
def directionsOk (labels : List (List Char)) : Bool :=
  !labels.any (·.any fun c => (Direction.ofChar c).isRightToLeft) || labels.all directionOk

/-- A name in composed form, none of whose characters is denied. -/
def mapName? (name : List Char) : Option (List Char) := do
  let mapped ← name.mapM mapChar
  let composed := normalize mapped.flatten
  if composed.any fun c => c.toNat < 128 && isDenied c then none else return composed

/-- The name in lower case and composed form, if all its labels follow the rules. -/
def ofText? (name : List Char) : Option (List Char) := do
  let mapped ← mapName? name
  let labels ← (pieces '.' mapped).mapM readLabel?
  if directionsOk labels then return mapped else none

end Domain

end CaseDesk.Url

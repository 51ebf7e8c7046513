/-
  Lowercasing of texts.

  Every character goes to its small letter.  Two rules reach beyond single
  characters: a dotted capital I leaves its dot behind as a combining mark,
  and a capital sigma at the end of a word becomes a final sigma, where the
  end of a word is a place with a cased letter before and none after it.
-/
import CaseDesk.Text.Lowercase.Table

namespace CaseDesk.Text

/-- Characters that have case. -/
def isCased (c : Char) : Bool := if c.toNat < 128 then c.isAlpha else casedTable.holds c

/-- Characters that do not separate a cased letter from its neighbours. -/
def isCaseIgnorable (c : Char) : Bool := caseIgnorableTable.holds c

/-- The small form of one character, wherever it stands. -/
def lowerChar (c : Char) : List Char :=
  if c.toNat < 128 then [c.toLower]
  else if c = 'İ' then ['i', Char.ofNat 0x307]
  else [lowercaseTable.image c]

/-- Whether the first character that is not ignorable has case. -/
def startsCased (cs : List Char) : Bool :=
  match cs.dropWhile isCaseIgnorable with
  | c :: _ => isCased c
  | [] => false

/-- The small form of a text that follows `before`, which is kept nearest first. -/
def lowerAfter (before : List Char) : List Char → List Char
  | [] => []
  | c :: rest =>
    (if c = 'Σ' then [if startsCased before && !startsCased rest then 'ς' else 'σ']
      else lowerChar c) ++ lowerAfter (c :: before) rest

/-- The small form of a text. -/
def lowercase (s : String) : String := String.ofList (lowerAfter [] s.toList)

end CaseDesk.Text

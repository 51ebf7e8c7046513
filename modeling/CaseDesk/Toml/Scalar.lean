/-
  Texts, numbers and moments as TOML writes them.

  * `Toml.text`: texts between double quotes, with escapes, and between single
    quotes, without; on one line or, between three quotes, on several.
  * `Toml.integer`, `Toml.real`: numbers of 64 bits, with single underscores
    between their digits; an integer may be hexadecimal, octal or binary.
  * `Toml.moment`: a day, a time of day, or both.
-/
import CaseDesk.Settings.Value
import CaseDesk.Text.Scan

namespace CaseDesk.Toml

open Text Text.Scan Settings

/-! ## Lines -/

/-- Spaces and tabs. -/
def isGap (c : Char) : Bool := c == ' ' || c == '\t'

/-- The characters that a comment and a text may hold as they stand. -/
def isPlain (c : Char) : Bool := c == '\t' || (32 ≤ c.toNat && c.toNat ≠ 127)

/-- Any number of spaces and tabs. -/
def gap : Scan Unit := do discard (run isGap)

/-- The end of a line. -/
def newline : Scan Unit := char '\n' <|> (char '\r' *> char '\n')

/-- A comment, up to the end of its line. -/
def comment : Scan Unit := do
  char '#'
  discard (run isPlain)

/-! ## Texts -/

/-- Hexadecimal digits. -/
def isHexDigit (c : Char) : Bool :=
  c.isDigit || ('a' ≤ c && c ≤ 'f') || ('A' ≤ c && c ≤ 'F')

/-- The number that digits write in a base. -/
def valueInBase (base : Nat) (cs : List Char) : Nat :=
  cs.foldl (fun n c => base * n + Span.hexDigit c) 0

/-- A fixed number of characters, each of which satisfies `p`. -/
def exactly (p : Char → Bool) : Nat → Scan (List Char)
  | 0 => pure []
  | n + 1 => do
    let c ← one p
    let cs ← exactly p n
    return c :: cs

/-- The character with a code point of so many hexadecimal digits. -/
def codePoint (width : Nat) : Scan Char := do
  let n := valueInBase 16 (← exactly isHexDigit width)
  if n.isValidChar then return Char.ofNat n else failure

/-- The character that an escape stands for. -/
def escape : Scan Char := do
  char '\\'
  match ← one fun _ => true with
  | 'b' => return '\x08'
  | 't' => return '\t'
  | 'n' => return '\n'
  | 'f' => return '\x0c'
  | 'r' => return '\r'
  | '"' => return '"'
  | '\\' => return '\\'
  | 'u' => codePoint 4
  | 'U' => codePoint 8
  | _ => failure

/-- A character of a text that the quote `q` encloses; escapes are for double quotes. -/
def textChar (q : Char) : Scan Char :=
  if q = '"' then one (fun c => isPlain c && c != '"' && c != '\\') <|> escape
  else one fun c => isPlain c && c != q

/-- A text on one line, between two of the quote `q`. -/
def lineText (q : Char) : Scan String := do
  char q
  let cs ← many (textChar q)
  char q
  return String.ofList cs

/-- A backslash at the end of a line, with all gaps and line ends after it. -/
def joint : Scan Unit := do
  char '\\'
  gap
  newline
  discard (many (discard (one isGap) <|> newline))

/-- A part of a text on several lines: a character, a line end or a joint. -/
def blockPart (q : Char) : Scan (List Char) :=
  (return [← textChar q]) <|> (newline *> pure ['\n']) <|>
    (if q = '"' then joint *> pure [] else failure)

/-- Up to two quotes that something else follows: the longer run first. -/
def looseQuotes (q : Char) (next : Scan Unit) : Scan (List Char) :=
  let only (quotes : List Char) : Scan (List Char) := fun cs => do
    let ((), rest) ← word (String.ofList quotes) cs
    discard (next rest)
    return (quotes, rest)
  only [q, q] <|> only [q]

/-- A text on several lines, between two runs of three of the quote `q`.  A line end right
    after the first run does not count; the second run may have two quotes before it. -/
def blockText (q : Char) : Scan String := do
  let fence := word (String.ofList [q, q, q])
  fence
  discard (maybe newline)
  let parts ← many (blockPart q <|> looseQuotes q (discard (blockPart q)))
  let last ← maybe (looseQuotes q fence)
  fence
  return String.ofList (parts.flatten ++ last.getD [])

/-- A text in any of the four forms. -/
def text : Scan String := blockText '"' <|> lineText '"' <|> blockText '\'' <|> lineText '\''

/-! ## Numbers -/

/-- Digits with single underscores between them; the digits alone. -/
def digits (p : Char → Bool) : Scan (List Char) := do
  let c ← one p
  let cs ← many (one p <|> (char '_' *> one p))
  return c :: cs

/-- An optional sign; whether it is a minus. -/
def sign : Scan Bool := (char '-' *> pure true) <|> (char '+' *> pure false) <|> pure false

/-- Decimal digits without a needless zero in front. -/
def plainDigits : Scan (List Char) :=
  (char '0' *> pure ['0']) <|> do
    if (← peek) = some '0' then failure else digits isDecimalDigit

/-- An integer in a base with a mark in front. -/
def based (mark : String) (base : Nat) (p : Char → Bool) : Scan Int := do
  word mark
  return valueInBase base (← digits p)

/-- An integer of 64 bits. -/
def integer : Scan Int := do
  let n ← based "0x" 16 isHexDigit
    <|> based "0o" 8 (fun c => '0' ≤ c && c ≤ '7')
    <|> based "0b" 2 (fun c => c == '0' || c == '1')
    <|> do
      let negative ← sign
      let n := (valueInBase 10 (← plainDigits) : Int)
      return if negative then -n else n
  if fitsInt64 n then return n else failure

/-- The exponent of a number. -/
def exponent : Scan Int := do
  discard (one fun c => c == 'e' || c == 'E')
  let negative ← sign
  let n := (valueInBase 10 (← digits isDecimalDigit) : Int)
  return if negative then -n else n

/-- The digits after the point. -/
def fraction : Scan (List Char) := char '.' *> digits isDecimalDigit

/-- A floating-point number.  It has a fraction, an exponent or both, and is not too large;
    the words for infinity and for no number stand for themselves. -/
def real : Scan Binary64 := do
  let negative ← sign
  (word "inf" *> pure (.infinite negative)) <|> (word "nan" *> pure .nan) <|> do
    let whole ← plainDigits
    let (part, power) ← (return ([], ← exponent)) <|> do
      let part ← fraction
      return (part, (← maybe exponent).getD 0)
    let x := Binary64.ofDecimal negative (valueInBase 10 (whole ++ part)) (power - part.length)
    if x = .infinite false then failure else return x

/-! ## Moments -/

/-- A number of so many digits from `least` to `greatest`. -/
def field (width least greatest : Nat) : Scan Nat := do
  let n := valueInBase 10 (← exactly isDecimalDigit width)
  if least ≤ n ∧ n ≤ greatest then return n else failure

/-- The number of days of a month. -/
def daysIn (year month : Nat) : Nat :=
  if month = 2 then
    if year % 4 = 0 ∧ (year % 100 ≠ 0 ∨ year % 400 = 0) then 29 else 28
  else if month = 4 ∨ month = 6 ∨ month = 9 ∨ month = 11 then 30
  else 31

/-- A day that the calendar has. -/
def day : Scan Unit := do
  let year ← field 4 0 9999
  char '-'
  let month ← field 2 1 12
  char '-'
  discard (field 2 1 (daysIn year month))

/-- A time of day; a minute may have a leap second. -/
def time : Scan Unit := do
  discard (field 2 0 23)
  char ':'
  discard (field 2 0 59)
  char ':'
  discard (field 2 0 60)
  discard (maybe (char '.' *> run1 isDecimalDigit))

/-- How far a time is from universal time. -/
def offset : Scan Unit :=
  discard (one fun c => c == 'Z' || c == 'z') <|> do
    discard (one fun c => c == '+' || c == '-')
    discard (field 2 0 23)
    char ':'
    discard (field 2 0 59)

/-- A day, a time, or both, then with or without an offset. -/
def moment : Scan Unit :=
  (do
    day
    discard <| maybe do
      discard (one fun c => c == 'T' || c == 't' || c == ' ')
      time
      maybe offset) <|> time

/-! ## Scalars -/

/-- A value that is no collection.  A moment is a table of its own, and none of its keys is
    one that a setting has. -/
def scalar : Scan Value :=
  (return .text (← text))
    <|> (word "true" *> pure (.flag true))
    <|> (word "false" *> pure (.flag false))
    <|> (moment *> pure .empty)
    <|> (return .real (← real))
    <|> (return .signed (← integer))

end CaseDesk.Toml

/-
  Integers written in decimal.

  * `decimal`: the digits of a number, the only form without leading zeros.
  * `readNatural?`, `readInteger?`: the number that digits write, with a sign
    in front for the latter; leading zeros are allowed, blanks are not.
  * `readInt64?`, `readInt32?`: the same within the range of a word.
-/
namespace CaseDesk.Text

/-- The character of a digit below ten. -/
def digitChar (d : Nat) : Char := Char.ofNat (48 + d)

/-- The decimal digits of a number. -/
def decimal (n : Nat) : List Char :=
  if n < 10 then [digitChar n] else decimal (n / 10) ++ [digitChar (n % 10)]
termination_by n
decreasing_by omega

/-- An integer in decimal, with a minus sign in front if it is negative. -/
def integerChars : Int → List Char
  | .ofNat n => decimal n
  | .negSucc n => '-' :: decimal (n + 1)

/-- An integer in decimal, as a text. -/
def integerText (n : Int) : String := String.ofList (integerChars n)

/-- The digits `0` to `9`. -/
def isDecimalDigit (c : Char) : Bool := 48 ≤ c.toNat && c.toNat ≤ 57

/-- The number that a run of digits writes. -/
def digitsValue (cs : List Char) : Nat := cs.foldl (fun n c => 10 * n + (c.toNat - 48)) 0

/-- Reads one or more digits. -/
def readNatural? (cs : List Char) : Option Nat :=
  if cs.isEmpty || !cs.all isDecimalDigit then none else some (digitsValue cs)

/-- Reads digits with at most one sign in front. -/
def readInteger? : List Char → Option Int
  | '+' :: cs => (readNatural? cs).map (↑·)
  | '-' :: cs => (readNatural? cs).map (-↑·)
  | cs => (readNatural? cs).map (↑·)

/-- Whether an integer fits a signed word of 64 bits. -/
def fitsInt64 (n : Int) : Bool := -9223372036854775808 ≤ n && n ≤ 9223372036854775807

/-- Whether an integer fits a signed word of 32 bits. -/
def fitsInt32 (n : Int) : Bool := -2147483648 ≤ n && n ≤ 2147483647

/-- Reads an integer that fits 64 bits. -/
def readInt64? (cs : List Char) : Option Int := (readInteger? cs).filter fitsInt64

/-- Reads an integer that fits 32 bits. -/
def readInt32? (cs : List Char) : Option Int := (readInteger? cs).filter fitsInt32

end CaseDesk.Text

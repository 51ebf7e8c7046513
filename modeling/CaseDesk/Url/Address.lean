/-
  Numeric addresses of hosts.

  * `isIpv4`: one to four numbers set apart by points, decimal, octal after a
    `0` or hexadecimal after `0x`.  All but the last are bytes, and the last
    fills the bytes that are left.
  * `endsInNumber`: whether the last label of a name is a number, so that the
    name has to be an address.
  * `isIpv6`: eight groups of up to four hexadecimal digits set apart by
    colons, where one `::` may stand for groups of zeros and an address of four
    decimal bytes for the last two groups.
-/
import CaseDesk.Text.Blank
import CaseDesk.Text.Integer

namespace CaseDesk.Url

open Text

/-- The value of a hexadecimal digit. -/
def hexDigit? (c : Char) : Option Nat :=
  let n := c.toNat
  if 48 ≤ n ∧ n ≤ 57 then some (n - 48)
  else if 65 ≤ n ∧ n ≤ 70 then some (n - 55)
  else if 97 ≤ n ∧ n ≤ 102 then some (n - 87)
  else none

/-! ## Four bytes -/

/-- Reads digits of a base; an empty run is zero. -/
def readBase? (base : Nat) (cs : List Char) : Option Nat :=
  cs.foldlM (fun n c => do
    let d ← hexDigit? c
    if d < base then some (base * n + d) else none) 0

/-- Reads a number of an address of four bytes. -/
def readNumber? : List Char → Option Nat
  | [] => none
  | '0' :: 'x' :: cs | '0' :: 'X' :: cs => readBase? 16 cs
  | '0' :: c :: cs => readBase? 8 (c :: cs)
  | cs => readBase? 10 cs

/-- The labels of a name without an empty one at the end. -/
def labelsOf (name : List Char) : List (List Char) :=
  let labels := pieces '.' name
  if labels.getLast? = some [] then labels.dropLast else labels

/-- Whether the last label of a name is a number. -/
def endsInNumber (name : List Char) : Bool :=
  match (labelsOf name).getLast? with
  | some last => (!last.isEmpty && last.all isDecimalDigit) || (readNumber? last).isSome
  | none => false

/-- Whether the numbers of an address fit its four bytes. -/
def fitsBytes : List Nat → Nat → Bool
  | [], _ => false
  | [last], left => last < 256 ^ left
  | n :: rest, left => n < 256 && fitsBytes rest (left - 1)

/-- Whether a name is an address of four bytes. -/
def isIpv4 (name : List Char) : Bool :=
  let labels := labelsOf name
  labels.length ≤ 4 &&
    match labels.mapM readNumber? with
    | some numbers => fitsBytes numbers 4
    | none => false

/-! ## Eight groups -/

/-- Reads one decimal byte without needless zeros. -/
def isByte (cs : List Char) : Bool :=
  match cs with
  | [] => false
  | ['0'] => true
  | '0' :: _ => false
  | _ => cs.length ≤ 3 && cs.all isDecimalDigit && digitsValue cs ≤ 255

/-- Whether a text is four decimal bytes set apart by points. -/
def isFourBytes (cs : List Char) : Bool :=
  let bytes := pieces '.' cs
  bytes.length == 4 && bytes.all isByte

/-- Whether a text consists of groups from place `place` on, where `compressed` says whether a
    `::` has been seen; at most `fuel` groups are left. -/
def isGroups : (fuel : Nat) → (place : Nat) → (compressed : Bool) → List Char → Bool
  | _, place, compressed, [] => compressed || place == 8
  | 0, _, _, _ => false
  | fuel + 1, place, compressed, c :: cs =>
    if place = 8 then false
    else if c = ':' then !compressed && isGroups fuel (place + 1) true cs
    else
      let text := c :: cs
      let count := ((text.take 4).takeWhile fun c => (hexDigit? c).isSome).length
      match text.drop count with
      | [] => compressed || place + 1 == 8
      | '.' :: _ =>
        count != 0 && place ≤ 6 && isFourBytes text && (compressed || place + 2 == 8)
      | ':' :: rest => !rest.isEmpty && isGroups fuel (place + 1) compressed rest
      | _ => false

/-- Whether a text is an address of eight groups. -/
def isIpv6 (cs : List Char) : Bool :=
  match cs with
  | [] | [_] => false
  | ':' :: ':' :: rest => isGroups cs.length 1 true rest
  | ':' :: _ => false
  | _ => isGroups cs.length 0 false cs

end CaseDesk.Url
